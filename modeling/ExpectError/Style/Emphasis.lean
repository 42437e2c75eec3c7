import ExpectError.Style.Ansi
import ExpectError.Text.Quoted

/-!
# Emphasis

Text with a color or a weight of its own, as the console writes it: what is asked for is switched
on in a fixed order, and everything is reset at the end.
-/

namespace ExpectError.Style

/-- The names of the colors and their numbers as foregrounds. -/
def colors : List (String × Nat) :=
  [("black", 30), ("red", 31), ("green", 32), ("yellow", 33), ("blue", 34), ("magenta", 35),
    ("cyan", 36), ("white", 37), ("reset", 39), ("bright_black", 90), ("bright_red", 91),
    ("bright_green", 92), ("bright_yellow", 93), ("bright_blue", 94), ("bright_magenta", 95),
    ("bright_cyan", 96), ("bright_white", 97)]

structure Emphasis where
  foreground : String := ""
  background : String := ""
  bold : Option Bool := none
  dim : Option Bool := none
  underline : Option Bool := none
  reverse : Option Bool := none

structure UnknownColor where
  name : String

def UnknownColor.message (error : UnknownColor) : String :=
  "Unknown color " ++ Text.quoted error.name

namespace Emphasis

/-- The sequence for a color; no name asks for none. -/
def color (shift : Nat) (name : String) : Except UnknownColor (List Char) :=
  if name = "" then .ok []
  else match colors.lookup name with
    | some n => .ok (look (n + shift))
    | none => .error ⟨name⟩

/-- The sequence that switches something on or off, if that is asked for. -/
def switch (on off : Nat) : Option Bool → List Char
  | none => []
  | some wanted => look (if wanted then on else off)

def apply (e : Emphasis) (text : String) : Except UnknownColor String := do
  let foreground ← color 0 e.foreground
  let background ← color 10 e.background
  let switches := switch 1 22 e.bold ++ switch 2 22 e.dim ++ switch 4 24 e.underline
    ++ switch 7 27 e.reverse
  return String.ofList (foreground ++ background ++ switches ++ text.toList ++ look 0)

end Emphasis

/-- The text in a color that is known, given by its number. -/
def tinted (n : Nat) (text : String) : String :=
  String.ofList (look n ++ text.toList ++ look 0)

end ExpectError.Style
