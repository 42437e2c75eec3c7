import ExpectError.Text.Ranges

/-!
# Blanks

White space in the wide sense: the controls that move the carriage, the four separators of
information, and the spaces and line ends of every script.
-/

namespace ExpectError.Text

def blankRanges : Ranges :=
  [(0x9, 0xD), (0x1C, 0x20), (0x85, 0x85), (0xA0, 0xA0), (0x1680, 0x1680), (0x2000, 0x200A),
    (0x2028, 0x2029), (0x202F, 0x202F), (0x205F, 0x205F), (0x3000, 0x3000)]

/-- A blank, in the wide sense. -/
def isBlank (c : Char) : Bool :=
  blankRanges.covers c

/-- The text without the blanks at either end. -/
def trim (s : String) : String :=
  String.ofList ((s.toList.dropWhile isBlank).reverse.dropWhile isBlank).reverse

end ExpectError.Text
