import ExpectError.Text.Word

/-!
# Signs of markup

Whether a line lies between tags cannot be told without reading the whole file as a program, so a
site is judged by the lines around it: a line *hints at markup* if it holds `/>`, `</`, an equals
sign with an opening brace behind it, or a `<` with something other than a word character before
it and a word character behind it. A false hint costs one question.
-/

namespace ExpectError.Markup

open Text (isWord)

/-- The two-character marks that hint at markup. -/
def isMark (a b : Char) : Bool :=
  (a = '/' && b = '>') || (a = '<' && b = '/') || (a = '=' && b = '\x7b')

/-- A tag that opens behind the character `a`. -/
def opensTag (a b c : Char) : Bool :=
  !isWord a && b = '<' && isWord c

/-- Whether a line hints at markup. -/
def hints : List Char → Bool
  | a :: b :: c :: rest => isMark a b || opensTag a b c || hints (b :: c :: rest)
  | [a, b] => isMark a b
  | _ => false

/-- Whether one of the lines hints at markup. -/
def anyHints (lines : List String) : Bool :=
  lines.any fun line => hints line.toList

/-! ## The lines around a site -/

/-- The position that a possibly negative bound stands for: those below zero count from the
end. -/
def clampBound (length : Nat) (bound : Int) : Nat :=
  if bound < 0 then (length + bound).toNat else bound.toNat

/-- Lines around a position, and where that position lies among them. -/
structure Window where
  lines : List String
  focus : Int

/-- The window of a radius around a position: as many lines before it, and one less behind it. It
always reaches the position itself. -/
def Window.around (lines : List String) (index radius : Int) : Window :=
  let start := max 0 (index - radius)
  let stop := min (lines.length : Int) (max (index + radius) (index + 1))
  { lines := (lines.take (clampBound lines.length stop)).drop start.toNat
    focus := index - start }

/-- The number of spaces at the start of a line; tabs do not count. -/
def leadingSpaces (line : String) : Nat :=
  (line.toList.takeWhile (· = ' ')).length

end ExpectError.Markup
