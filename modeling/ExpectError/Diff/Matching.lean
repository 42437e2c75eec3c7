/-!
# Matching two lists of lines

What two versions of a file share is found by taking the longest run of lines that they have in
common, and then doing the same on either side of it. Of several longest runs the first one in the
old version counts, and there the first one in the new version. In a long file, lines that occur
all over the place do not start a run, though a run may grow over them.

The result is a script: runs of lines that are kept, and changes between them.
-/

namespace ExpectError.Diff

inductive Chunk where
  /-- Lines that both versions have. -/
  | keep (lines : List String)
  /-- Lines of the old version, and those that take their place. -/
  | change (removed added : List String)
  deriving DecidableEq, Repr

namespace Chunk

def old : Chunk → List String
  | .keep lines => lines
  | .change removed _ => removed

def new : Chunk → List String
  | .keep lines => lines
  | .change _ added => added

def isKeep : Chunk → Bool
  | .keep _ => true
  | .change .. => false

end Chunk

/-- A line of the new version, and whether it may start a run. -/
structure Anchor where
  line : String
  usable : Bool

/-- The lines of a version with those marked that occur too often to start a run: in a file of two
hundred lines or more, those that make up more than a hundredth of it and one more. -/
def anchors (lines : List String) : List Anchor :=
  lines.map fun line =>
    ⟨line, lines.length < 200 || lines.count line ≤ lines.length / 100 + 1⟩

/-- A run: where it starts in either list, and its length. -/
structure Run where
  left : Nat
  right : Nat
  size : Nat
  deriving DecidableEq, Repr

/-- The lengths of the runs that end at a line and at each anchor, from those that end one line
before. -/
def nextRow (line : String) (anchors : List Anchor) (previous : List Nat) : List Nat :=
  List.zipWith (fun anchor before => if anchor.usable && anchor.line = line then before + 1 else 0)
    anchors (0 :: previous)

/-- The longer one of a run and the longest that ends in a row, the first of these. -/
def improve (i : Nat) : Nat → List Nat → Run → Run
  | _, [], best => best
  | j, k :: row, best =>
    improve i (j + 1) row (if best.size < k then ⟨i + 1 - k, j + 1 - k, k⟩ else best)

/-- The longest run, from a line on. -/
def longestFrom (anchors : List Anchor) : Nat → List String → List Nat → Run → Run
  | _, [], _, best => best
  | i, line :: lines, previous, best =>
    let row := nextRow line anchors previous
    longestFrom anchors (i + 1) lines row (improve i 0 row best)

/-- The number of lines that two lists have in common at the start. -/
def commonLength : List String → List String → Nat
  | a :: as, b :: bs => if a = b then commonLength as bs + 1 else 0
  | _, _ => 0

/-- A run that has grown as far as the lists agree, at either end. -/
def Run.grow (run : Run) (old new : List String) : Run :=
  let back := commonLength (old.take run.left).reverse (new.take run.right).reverse
  let ahead := commonLength (old.drop (run.left + run.size)) (new.drop (run.right + run.size))
  ⟨run.left - back, run.right - back, back + run.size + ahead⟩

def longest (old : List String) (new : List Anchor) : Run :=
  (longestFrom new 0 old (new.map fun _ => 0) ⟨0, 0, 0⟩).grow old (new.map Anchor.line)

/-- The change between two lists; none if both are empty. -/
def changes (old new : List String) : List Chunk :=
  if old = [] ∧ new = [] then [] else [.change old new]

/-- The script between two lists; `fuel` bounds the depth. -/
def scriptFrom : Nat → List String → List Anchor → List Chunk
  | 0, old, new => changes old (new.map Anchor.line)
  | fuel + 1, old, new =>
    let run := longest old new
    if run.size = 0 then changes old (new.map Anchor.line)
    else
      scriptFrom fuel (old.take run.left) (new.take run.right)
        ++ .keep ((old.drop run.left).take run.size)
        :: scriptFrom fuel (old.drop (run.left + run.size)) (new.drop (run.right + run.size))

/-- The script with neighbouring runs made one. -/
def merge : List Chunk → List Chunk
  | [] => []
  | .keep lines :: chunks =>
    match merge chunks with
    | .keep more :: rest => .keep (lines ++ more) :: rest
    | rest => .keep lines :: rest
  | .change removed added :: chunks => .change removed added :: merge chunks

/-- The script between two versions. -/
def script (old new : List String) : List Chunk :=
  merge (scriptFrom (old.length + 1) old (anchors new))

end ExpectError.Diff
