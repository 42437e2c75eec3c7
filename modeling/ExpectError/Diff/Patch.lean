import ExpectError.Style.Paint
import ExpectError.Text.Split

/-!
# Colored patches

The lines of a patch in colors: what is removed in red, what is added in green, the places in
cyan. Line ends inside a line are made visible.
-/

namespace ExpectError.Diff

open Style (Paint)

/-- Makes the characters of line ends visible. -/
def visible (line : List Char) : List Char :=
  line.flatMap fun c =>
    if c = '\r' then ['\\', 'r'] else if c = '\n' then ['\\', 'n'] else [c]

def paintOf : List Char → Paint
  | '-' :: _ => Paint.bold ++ Paint.red
  | '+' :: _ => Paint.bold ++ Paint.green
  | '@' :: _ => Paint.cyan
  | _ => Paint.bold ++ Paint.white

/-- A line number, in at least four digits. -/
def numberText (n : Nat) : String :=
  let digits := Nat.toDigits 10 n
  String.ofList (List.replicate (4 - digits.length) '0' ++ digits)

def patchLine (colors numbers : Bool) (n : Nat) (line : String) : String :=
  let content := String.ofList (visible line.toList)
  (if numbers then numberText n ++ "|" else "")
    ++ (paintOf line.toList).apply colors content ++ "\n"

def patchLines (colors numbers : Bool) : Nat → List String → List String
  | _, [] => []
  | n, line :: lines => patchLine colors numbers n line :: patchLines colors numbers (n + 1) lines

def renderPatch (colors numbers : Bool) (lines : List String) : String :=
  Paint.gray.apply colors (String.join (patchLines colors numbers 1 lines))

/-- A patch that is one text, cut into its lines. -/
def patchOfText (text : String) : List String :=
  (Text.lines text.toList).map String.ofList

end ExpectError.Diff
