import ExpectError.Choice
import ExpectError.Text.Quoted

/-!
# Errors of usage

What can be wrong with the words of a command line, and how it is said.
-/

namespace ExpectError.CommandLine

/-- What a path on the command line has to lead to. -/
inductive Target where
  | file
  | directory
  deriving DecidableEq, Repr

inductive BadValue where
  | notInteger (value : String)
  | notListed (value : String) (names : List String)
  | noChoice (choice : Choice) (value : String)
  /-- There is nothing at the path. -/
  | absent (target : Target) (value : String)
  /-- There is something else at the path. -/
  | mismatch (target : Target) (value : String)

def BadValue.message : BadValue → String
  | .notInteger value => Text.quoted value ++ " is not a valid integer."
  | .notListed value names =>
    Text.quoted value ++ " is not one of " ++ ", ".intercalate (names.map Text.quoted) ++ "."
  | .noChoice choice value => choice.refusal value
  | .absent .file value => "File " ++ Text.quoted value ++ " does not exist."
  | .absent .directory value => "Directory " ++ Text.quoted value ++ " does not exist."
  | .mismatch .file value => "File " ++ Text.quoted value ++ " is a directory."
  | .mismatch .directory value => "Directory " ++ Text.quoted value ++ " is a file."

inductive UsageError where
  | noSuchCommand (name : String) (similar : List String)
  | noSuchOption (name : String) (similar : List String)
  | needsValue (name : String)
  | takesNoValue (name : String)
  /-- A value is wrong; `names` are those of the option or argument. -/
  | badValue (names : List String) (fault : BadValue)
  | missingArgument (name : String)
  | extraArguments (words : List String)

namespace UsageError

/-- The hint at similar names, with a blank in front. -/
def suggestion : List String → String
  | [] => ""
  | [name] => " Did you mean " ++ Text.quoted name ++ "?"
  | names => " (Did you mean one of: " ++ ", ".intercalate (names.map Text.quoted) ++ "?)"

def message : UsageError → String
  | .noSuchCommand name similar =>
    "No such command " ++ Text.quoted name ++ "." ++ suggestion similar
  | .noSuchOption name similar =>
    "No such option " ++ Text.quoted name ++ "." ++ suggestion similar
  | .needsValue name => "Option " ++ Text.quoted name ++ " requires an argument."
  | .takesNoValue name => "Option " ++ Text.quoted name ++ " does not take a value."
  | .badValue names fault =>
    "Invalid value for " ++ " / ".intercalate (names.map fun name => "'" ++ name ++ "'") ++ ": "
      ++ fault.message
  | .missingArgument name => "Missing argument '" ++ name ++ "'."
  | .extraArguments [word] => "Got unexpected extra argument (" ++ word ++ ")"
  | .extraArguments words => "Got unexpected extra arguments (" ++ " ".intercalate words ++ ")"

/-- Whether the error stands alone, without a reminder of the usage. -/
def standsAlone : UsageError → Bool
  | .needsValue _ => true
  | .takesNoValue _ => true
  | _ => false

end UsageError

end ExpectError.CommandLine
