import ExpectError.Text.Split

/-!
# Line buffers

A file in memory: its lines without their ends, and the line end that joins them again. A text
that ends every line with a carriage return and a line feed is cut at those pairs; any other text
is cut at its line feeds and keeps its carriage returns where they are.
-/

namespace ExpectError

/-- A line end. -/
inductive Newline where
  | lf
  | crlf
  deriving DecidableEq, Repr

def Newline.text : Newline → String
  | .lf => "\n"
  | .crlf => "\r\n"

/-- The line end of a text: the pair, if there are line feeds and each one is part of a pair. -/
def Newline.detect (text : List Char) : Newline :=
  let pairs := Text.countCrLf text
  if pairs ≠ 0 ∧ pairs = Text.countLf text then .crlf else .lf

/-- The pieces of a text between line ends. -/
def Newline.split : Newline → List Char → List (List Char)
  | .lf => Text.splitLf
  | .crlf => Text.splitCrLf

/-- A file in memory. -/
structure LineBuffer where
  lines : List String := []
  newline : Newline := .lf
  deriving DecidableEq, Repr

namespace LineBuffer

/-- Cuts a text into lines at the line end that it uses. -/
def ofText (text : String) : LineBuffer :=
  let newline := Newline.detect text.toList
  ⟨(newline.split text.toList).map String.ofList, newline⟩

def toText (buffer : LineBuffer) : String :=
  Text.join buffer.newline.text buffer.lines

def size (buffer : LineBuffer) : Nat :=
  buffer.lines.length

end LineBuffer

end ExpectError
