import ExpectError.Diff.Matching

/-!
# Similar names

For a name that does not exist, the names that may have been meant: those that share at least six
tenths of the characters with it, the closest three at most.
-/

namespace ExpectError.CommandLine

/-- The number of lines that a script keeps. -/
def keptCount (script : List Diff.Chunk) : Nat :=
  ((script.filter Diff.Chunk.isKeep).flatMap Diff.Chunk.old).length

/-- A name with what it shares with another one. -/
structure Likeness where
  name : String
  /-- The number of characters in common. -/
  shared : Nat
  /-- The number of characters of both. -/
  total : Nat
  deriving DecidableEq, Repr

namespace Likeness

/-- The characters of a name, each as a text. -/
def letters (name : String) : List String :=
  name.toList.map fun c => String.ofList [c]

def of (word name : String) : Likeness where
  name
  shared := keptCount (Diff.script (letters name) (letters word))
  total := name.length + word.length

def isClose (l : Likeness) : Bool :=
  3 * l.total ≤ 10 * l.shared

/-- Closest first; of two equally close ones, the later in the alphabet. -/
def before (a b : Likeness) : Bool :=
  let left := a.shared * b.total
  let right := b.shared * a.total
  right < left || (left = right && !(a.name < b.name))

end Likeness

/-- The names that a word may have been meant for, in alphabetical order. -/
def similarNames (word : String) (names : List String) : List String :=
  let close := (names.map (Likeness.of word)).filter Likeness.isClose
  let best := (close.mergeSort Likeness.before).take 3
  (best.map Likeness.name).mergeSort fun a b => !(b < a)

end ExpectError.CommandLine
