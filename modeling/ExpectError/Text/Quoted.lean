import ExpectError.Text.Printable

/-!
# Quoted text

Text in quotes, as messages show names and values: a backslash marks what could be misread, and
what has no picture is given by its code point.
-/

namespace ExpectError.Text

/-- A number in lower-case hexadecimal, with zeros in front up to the given width. -/
def hex (width n : Nat) : String :=
  let digits := Nat.toDigits 16 n
  String.ofList (List.replicate (width - digits.length) '0' ++ digits)

def singleQuote : Char := Char.ofNat 39

/-- The quote that encloses a text: a single one, unless the text holds single quotes only. -/
def quoteFor (cs : List Char) : Char :=
  if cs.contains singleQuote && !cs.contains '"' then '"' else singleQuote

/-- How a character is written between two such quotes. -/
def quotedChar (quote c : Char) : String :=
  if c = quote || c = '\\' then String.ofList ['\\', c]
  else if c = '\n' then "\\n"
  else if c = '\r' then "\\r"
  else if c = '\t' then "\\t"
  else if isPrintable c then String.singleton c
  else if c.toNat < 0x100 then "\\x" ++ hex 2 c.toNat
  else if c.toNat < 0x10000 then "\\u" ++ hex 4 c.toNat
  else "\\U" ++ hex 8 c.toNat

def quoted (s : String) : String :=
  let quote := quoteFor s.toList
  String.singleton quote ++ String.join (s.toList.map (quotedChar quote)) ++ String.singleton quote

end ExpectError.Text
