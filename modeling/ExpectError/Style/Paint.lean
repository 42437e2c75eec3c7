import ExpectError.Style.Ansi

/-!
# Painting text

A paint is a list of looks, each with the number that switches it on and the number that switches
it off. Painted text may itself hold painted text: where an inner look of the same kind ends, the
outer one is switched on again. No look reaches over a line end.
-/

namespace ExpectError.Style

/-- A look: the numbers that switch it on and off. -/
structure Look where
  on : Nat
  off : Nat
  deriving DecidableEq, Repr

/-- Looks that go together. -/
abbrev Paint := List Look

namespace Paint

def bold : Paint := [⟨1, 22⟩]
def dim : Paint := [⟨2, 22⟩]
def red : Paint := [⟨31, 39⟩]
def green : Paint := [⟨32, 39⟩]
def yellow : Paint := [⟨33, 39⟩]
def blue : Paint := [⟨34, 39⟩]
def magenta : Paint := [⟨35, 39⟩]
def cyan : Paint := [⟨36, 39⟩]
def white : Paint := [⟨37, 39⟩]
def gray : Paint := [⟨90, 39⟩]
def brightRed : Paint := [⟨91, 39⟩]

/-- The sequences that switch all looks on. -/
def on (paint : Paint) : List Char :=
  paint.flatMap fun l => look l.on

/-- The sequences that switch all looks off. -/
def off (paint : Paint) : List Char :=
  paint.flatMap fun l => look l.off

/-- The text with a word replaced, after leaving out so many characters. -/
def replaceFrom (word new : List Char) : Nat → List Char → List Char
  | _, [] => []
  | skip + 1, _ :: rest => replaceFrom word new skip rest
  | 0, c :: rest =>
    if word.isPrefixOf (c :: rest) then new ++ replaceFrom word new (word.length - 1) rest
    else c :: replaceFrom word new 0 rest

/-- Switches the looks on again wherever they are switched off. -/
def reopen (paint : Paint) (text : List Char) : List Char :=
  paint.foldl (fun text l => replaceFrom (look l.off) (look l.off ++ look l.on) 0 text) text

/-- The sequence that resets all looks. -/
def reset : List Char := look 0

/-- The length of the shortest piece of a line that starts and ends with a reset, if the text
starts with one. -/
def resetSpan? (text : List Char) : Option Nat :=
  if reset.isPrefixOf text then
    (inner (text.drop reset.length)).map (· + 2 * reset.length)
  else none
where
  /-- The number of characters up to the next reset on the line. -/
  inner : List Char → Option Nat
    | [] => none
    | c :: rest =>
      if reset.isPrefixOf (c :: rest) then some 0
      else if c = '\n' then none
      else (inner rest).map (· + 1)

/-- Takes the looks off around each piece between two resets; `copied` characters are still to be
copied, and the looks come on again behind the last of them. -/
def guardResets (paint : Paint) : Nat → List Char → List Char
  | _, [] => []
  | 1, c :: rest => c :: (paint.on ++ guardResets paint 0 rest)
  | copied + 2, c :: rest => c :: guardResets paint (copied + 1) rest
  | 0, c :: rest =>
    match resetSpan? (c :: rest) with
    | some length => paint.off ++ c :: guardResets paint (length - 1) rest
    | none => c :: guardResets paint 0 rest

/-- Takes the looks off around each line end. -/
def guardNewlines (paint : Paint) : List Char → List Char
  | [] => []
  | '\r' :: '\n' :: rest => paint.off ++ ['\r', '\n'] ++ paint.on ++ guardNewlines paint rest
  | '\n' :: rest => paint.off ++ ['\n'] ++ paint.on ++ guardNewlines paint rest
  | c :: rest => c :: guardNewlines paint rest

def applyChars (paint : Paint) (text : List Char) : List Char :=
  let text := if text.contains escape then paint.reopen text else text
  paint.on ++ paint.guardNewlines (paint.guardResets 0 text) ++ paint.off

/-- The text painted, or as it is without colors. -/
def apply (paint : Paint) (colors : Bool) (text : String) : String :=
  if colors then String.ofList (paint.applyChars text.toList) else text

end Paint

end ExpectError.Style
