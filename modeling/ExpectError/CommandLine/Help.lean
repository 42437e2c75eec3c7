import ExpectError.CommandLine.Command

/-!
# Pages of help

A page tells the usage of a command, what it does, and its options in two columns. Text in the
second column is broken into lines at blanks.
-/

namespace ExpectError.CommandLine

def pageWidth : Nat := 80

def spaces (n : Nat) : String :=
  String.ofList (List.replicate n ' ')

/-- Fills lines with words; `line` is the line so far. -/
def fillLines (width : Nat) (line : String) : List String → List String
  | [] => [line]
  | word :: words =>
    if line.length + 1 + word.length ≤ width then fillLines width (line ++ " " ++ word) words
    else line :: fillLines width word words

/-- The lines of a text that is broken at blanks. -/
def wrap (width : Nat) (text : String) : List String :=
  match text.splitOn " " with
  | [] => []
  | word :: words => fillLines width word words

/-- A row of two columns, the second one starting behind `indent` characters. -/
def row (indent : Nat) (entry : String × String) : List String :=
  match wrap (pageWidth - indent) entry.2 with
  | [] => []
  | line :: lines =>
    ("  " ++ entry.1 ++ spaces (indent - 2 - entry.1.length) ++ line)
      :: lines.map (spaces indent ++ ·)

/-- Rows of two columns under a heading. -/
def rows (heading : String) (entries : List (String × String)) : List String :=
  let widest := (entries.map fun e => e.1.length).foldl max 0
  (heading ++ ":") :: entries.flatMap (row (widest + 4))

/-- The names of an option, and what stands for its value. -/
def OptionSpec.heading {κ : Type} (o : OptionSpec κ) : String :=
  (match o.short with
    | some letter => letterName letter ++ ", "
    | none => "")
  ++ o.long
  ++ (match o.value with
    | some value => " " ++ value
    | none => "")

namespace Command

variable {κ : Type}

def usage (command : Command κ) : String :=
  "Usage: " ++ command.name ++ " " ++ command.operands

/-- The page of help for a command, with the commands that it has in turn. -/
def helpPage (command : Command κ) (commands : List (String × String)) : String :=
  let lines :=
    [command.usage, "", "  " ++ command.about, ""]
    ++ rows "Options" (command.options.map fun o => (o.heading, o.about))
    ++ (if commands.isEmpty then [] else "" :: rows "Commands" commands)
  "\n".intercalate lines ++ "\n"

/-- What is said for an error of usage. -/
def complaint (command : Command κ) (error : UsageError) : String :=
  let line := "Error: " ++ error.message ++ "\n"
  if error.standsAlone then line
  else command.usage ++ "\nTry '" ++ command.name ++ " --help' for help.\n\n" ++ line

end Command

end ExpectError.CommandLine
