import ExpectError.Diff.Matching

/-!
# Unified diffs

A script is cut into hunks: changes with some kept lines around them. Where more kept lines lie
between two changes than both need, a new hunk begins.
-/

namespace ExpectError.Diff

/-- Changes that belong together, with the number of lines before them in either version. -/
structure Hunk where
  left : Nat
  right : Nat
  chunks : List Chunk
  deriving DecidableEq, Repr

namespace Hunk

def old (hunk : Hunk) : List String :=
  hunk.chunks.flatMap Chunk.old

def new (hunk : Hunk) : List String :=
  hunk.chunks.flatMap Chunk.new

end Hunk

def lastLines (n : Nat) (lines : List String) : List String :=
  lines.drop (lines.length - n)

/-- The hunk that is being made, if it holds a change. `done` are its chunks, the last one first. -/
def close (left right : Nat) (done : List Chunk) : List Hunk :=
  if done.any fun c => !c.isKeep then [⟨left, right, done.reverse⟩] else []

/-- Cuts a script into hunks. `left` and `right` count the lines before the hunk that is being
made, and `done` are its chunks so far, the last one first. -/
def cut (context : Nat) (left right : Nat) (done : List Chunk) : List Chunk → List Hunk
  | [] => close left right done
  | .keep lines :: chunks =>
    if chunks.isEmpty then close left right (.keep (lines.take context) :: done)
    else if 2 * context < lines.length then
      let hunk : Hunk := ⟨left, right, (Chunk.keep (lines.take context) :: done).reverse⟩
      let after := lines.length - context
      hunk :: cut context (left + hunk.old.length - (lines.take context).length + after)
        (right + hunk.new.length - (lines.take context).length + after)
        [.keep (lastLines context lines)] chunks
    else cut context left right (.keep lines :: done) chunks
  | .change removed added :: chunks => cut context left right (.change removed added :: done) chunks

/-- The hunks of a script. Of kept lines at the start only the last ones count. -/
def hunks (context : Nat) (chunks : List Chunk) : List Hunk :=
  match chunks with
  | .keep lines :: rest =>
    let dropped := lines.length - context
    cut context dropped dropped [.keep (lastLines context lines)] rest
  | chunks => cut context 0 0 [] chunks

/-! ## Text -/

/-- A range of lines: the first one, and how many unless it is one. An empty range is given by the
line before it. -/
def rangeText (before length : Nat) : String :=
  if length = 1 then toString (before + 1)
  else if length = 0 then toString before ++ ",0"
  else toString (before + 1) ++ "," ++ toString length

/-- The lines of a chunk with their marks. -/
def Chunk.marked : Chunk → List String
  | .keep lines => lines.map (" " ++ ·)
  | .change removed added => removed.map ("-" ++ ·) ++ added.map ("+" ++ ·)

def Hunk.text (hunk : Hunk) : List String :=
  ("@@ -" ++ rangeText hunk.left hunk.old.length ++ " +" ++ rangeText hunk.right hunk.new.length
    ++ " @@") :: hunk.chunks.flatMap Chunk.marked

/-- The unified diff of two versions of a file; nothing if they are equal. -/
def unified (old new : List String) (path : String) (context : Nat) : List String :=
  match hunks context (script old new) with
  | [] => []
  | all =>
    ("--- " ++ path ++ " (original)") :: ("+++ " ++ path ++ " (updated)") :: all.flatMap Hunk.text

end ExpectError.Diff
