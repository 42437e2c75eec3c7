import ExpectError.Text.Case

/-!
# Choices

A value that is chosen by name from a short list. Case does not matter.
-/

namespace ExpectError

/-- A list of names to choose from, with a name of its own. -/
structure Choice where
  label : String
  names : List String

namespace Choice

def find? (choice : Choice) (value : String) : Option Nat :=
  choice.names.findIdx? fun name => Text.lower name = Text.lower value

/-- What to say to a value that is not on the list. -/
def refusal (choice : Choice) (value : String) : String :=
  "Invalid value '" ++ value ++ "'. Must be one of: " ++ ", ".intercalate choice.names

/-- The names that a beginning can be completed to. -/
def completions (choice : Choice) (start : String) : List String :=
  choice.names.filter fun name => (Text.lower start).toList.isPrefixOf (Text.lower name).toList

/-- The label in lower case, as it stands for a value. -/
def metavariable (choice : Choice) : String :=
  Text.lower choice.label

def describe (choice : Choice) : String :=
  "EnumParam(" ++ choice.label ++ ")"

end Choice

end ExpectError
