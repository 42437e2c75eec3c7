/-!
# Upper and lower case

Words that the program knows are plain Latin, so case only matters where it leads there: the
Latin letters themselves and the few characters of other blocks that fold onto them.
-/

namespace ExpectError.Text

/-- The lower-case form of a character, as far as it is a plain Latin letter. -/
def lowerChar (c : Char) : Char :=
  if c.toNat = 0x212A then 'k' else c.toLower

/-- The lower-case form of a text, exact where it is plain Latin. -/
def lower (s : String) : String :=
  String.ofList (s.toList.map lowerChar)

/-- Characters outside the Latin block whose upper-case form is made of plain Latin letters. -/
def upperSpecials : List (Nat × String) :=
  [(0x131, "I"), (0x17F, "S"), (0xDF, "SS"), (0xFB00, "FF"), (0xFB01, "FI"), (0xFB02, "FL"),
    (0xFB03, "FFI"), (0xFB04, "FFL"), (0xFB05, "ST"), (0xFB06, "ST")]

/-- The upper-case form of a character, as far as it is made of plain Latin letters. -/
def upperChar (c : Char) : String :=
  (upperSpecials.lookup c.toNat).getD (String.singleton c.toUpper)

/-- The upper-case form of a text, exact where it is plain Latin. -/
def upper (s : String) : String :=
  String.join (s.toList.map upperChar)

end ExpectError.Text
