/-!
# Terminal control sequences

The sequences that switch the look of text on a terminal, and the removal of every such sequence
from a text.
-/

namespace ExpectError.Style

def escape : Char := '\x1b'

/-- The sequence that selects a look by its number. -/
def look (n : Nat) : List Char :=
  [escape, '['] ++ Nat.toDigits 10 n ++ ['m']

def isParameter (c : Char) : Bool :=
  '0' ≤ c && c ≤ '?'

/-- An intermediate character of a sequence. -/
def isIntermediate (c : Char) : Bool :=
  ' ' ≤ c && c ≤ '/'

def isFinal (c : Char) : Bool :=
  '@' ≤ c && c ≤ '~'

/-- The number of characters of the sequence behind an escape character, if there is one: a
bracket, parameters, intermediate characters and a last one. -/
def sequenceLength? : List Char → Option Nat
  | '[' :: rest =>
    let parameters := rest.takeWhile isParameter
    let rest := rest.dropWhile isParameter
    let intermediates := rest.takeWhile isIntermediate
    match rest.dropWhile isIntermediate with
    | c :: _ =>
      if isFinal c then some (parameters.length + intermediates.length + 2) else none
    | [] => none
  | _ => none

/-- The text without sequences, after leaving out so many characters. -/
def stripFrom : Nat → List Char → List Char
  | _, [] => []
  | skip + 1, _ :: rest => stripFrom skip rest
  | 0, c :: rest =>
    if c = escape then
      match sequenceLength? rest with
      | some length => stripFrom length rest
      | none => c :: stripFrom 0 rest
    else c :: stripFrom 0 rest

/-- The text without any sequence. -/
def strip (text : String) : String :=
  String.ofList (stripFrom 0 text.toList)

end ExpectError.Style
