/-!
# Cutting and joining text

Three ways to cut: at every line feed, at every pair of carriage return and line feed, and at
every character that ends a line in any convention. The first two keep what stands behind the last
separator as a piece of its own; the third does so only if something stands there.
-/

namespace ExpectError.Text

/-- Puts a character in front of the first piece. -/
def consFirst (c : Char) : List (List Char) → List (List Char)
  | [] => [[c]]
  | piece :: pieces => (c :: piece) :: pieces

/-- The pieces between line feeds. -/
def splitLf : List Char → List (List Char)
  | [] => [[]]
  | c :: rest => if c = '\n' then [] :: splitLf rest else consFirst c (splitLf rest)

/-- The pieces between pairs of carriage return and line feed. -/
def splitCrLf : List Char → List (List Char)
  | [] => [[]]
  | '\r' :: '\n' :: rest => [] :: splitCrLf rest
  | c :: rest => consFirst c (splitCrLf rest)

def countLf (cs : List Char) : Nat :=
  cs.count '\n'

/-- The number of pairs of carriage return and line feed. -/
def countCrLf : List Char → Nat
  | [] => 0
  | '\r' :: '\n' :: rest => countCrLf rest + 1
  | _ :: rest => countCrLf rest

/-- The pieces with a separator between each two. -/
def join (separator : String) (pieces : List String) : String :=
  String.ofList (separator.toList.intercalate (pieces.map String.toList))

/-- A character that ends a line in some convention: feeds, returns, the separators of files,
groups and records, and the line and paragraph ends of Unicode. -/
def endsLine (c : Char) : Bool :=
  [0xA, 0xB, 0xC, 0xD, 0x1C, 0x1D, 0x1E, 0x85, 0x2028, 0x2029].contains c.toNat

/-- The lines of a text, by any line end; a return and the feed behind it are one. -/
def lines : List Char → List (List Char)
  | [] => []
  | '\r' :: '\n' :: rest => [] :: lines rest
  | c :: rest => if endsLine c then [] :: lines rest else consFirst c (lines rest)

/-- Every line end of the three common kinds as one line feed. -/
def unifyNewlines : List Char → List Char
  | [] => []
  | '\r' :: '\n' :: rest => '\n' :: unifyNewlines rest
  | '\r' :: rest => '\n' :: unifyNewlines rest
  | c :: rest => c :: unifyNewlines rest

/-- Whether a word stands somewhere in a text. -/
def occursIn (word : List Char) : List Char → Bool
  | [] => word.isEmpty
  | c :: rest => word.isPrefixOf (c :: rest) || occursIn word rest

end ExpectError.Text
