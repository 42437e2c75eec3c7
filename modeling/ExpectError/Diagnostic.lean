import ExpectError.Text.Blank
import ExpectError.Text.Digit

/-!
# Diagnostics

One error of a type-checker run, and the report form in which it is written, one to a line:
`path(line,column): error TSnnnn: message`. The path is what stands before the first parenthesis.
Numbers may use the digits of any script, and any single blank may stand where the form has a
space. A line of another form is not a diagnostic.
-/

namespace ExpectError

/-- One error of a type-checker run. Lines and columns count from one. -/
structure Diagnostic where
  path : String
  line : Int
  column : Int := 1
  code : String := "TS1"
  message : String
  deriving DecidableEq, Repr

namespace Diagnostic

/-- The position of the reported line in a list of lines. -/
def index (d : Diagnostic) : Int :=
  d.line - 1

/-- The diagnostic in report form. -/
def render (d : Diagnostic) : String :=
  d.path ++ "(" ++ toString d.line ++ "," ++ toString d.column ++ "): error " ++ d.code ++ ": "
    ++ d.message

/-- What is left of a text behind the given beginning. -/
def after? : List Char → List Char → Option (List Char)
  | [], text => some text
  | _ :: _, [] => none
  | c :: word, d :: text => if c = d then after? word text else none

/-- What is left of a text behind one blank. -/
def afterBlank? : List Char → Option (List Char)
  | [] => none
  | c :: text => if Text.isBlank c then some text else none

/-- The digits at the start of a text, at least one, and what is left. -/
def digits? (text : List Char) : Option (List Char × List Char) :=
  match text.span Text.isDigit with
  | ([], _) => none
  | parts => some parts

/-- A text without the returns and line feeds at its end. -/
def dropLineEnd (text : List Char) : List Char :=
  (text.reverse.dropWhile fun c => c = '\r' || c = '\n').reverse

/-- The most digits that the line or the column of a report may have. -/
def digitLimit : Nat := 4300

/-- The parts of a report line as they are written. -/
structure Parts where
  path : List Char
  line : List Char
  column : List Char
  number : List Char
  message : List Char

def Parts.ofLine? (text : List Char) : Option Parts := do
  let (path, text) := text.span (· ≠ '(')
  guard (path ≠ [])
  let text ← after? ['('] text
  let (line, text) ← digits? text
  let text ← after? [','] text
  let (column, text) ← digits? text
  let text ← after? [')', ':'] text
  let text ← afterBlank? text
  let text ← after? ['e', 'r', 'r', 'o', 'r'] text
  let text ← afterBlank? text
  let text ← after? ['T', 'S'] text
  let (number, text) ← digits? text
  let text ← after? [':'] text
  let message ← afterBlank? text
  guard ('\n' ∉ message)
  return { path, line, column, number, message }

/-- Reads a line of a report. A line number must be positive, and numbers of more than
`digitLimit` digits are not read. -/
def ofLine? (line : String) : Option Diagnostic := do
  let parts ← Parts.ofLine? (dropLineEnd line.toList)
  guard (parts.line.length ≤ digitLimit ∧ parts.column.length ≤ digitLimit)
  guard (1 ≤ Text.digitsValue parts.line)
  return {
    path := String.ofList parts.path
    line := Text.digitsValue parts.line
    column := Text.digitsValue parts.column
    code := String.ofList ('T' :: 'S' :: parts.number)
    message := String.ofList parts.message }

/-- The diagnostics of a report, in its order; other lines are passed over. -/
def ofReport (lines : List String) : List Diagnostic :=
  lines.filterMap ofLine?

end Diagnostic

end ExpectError
