import ExpectError.Proofs.Hunks
import ExpectError.Proofs.ReportRender

/-!
# Unified diffs are patches

A reader of patches that knows nothing of how they are made: it reads the ranges that the head of a
hunk states (`Stated.ofLine?`), leaves the lines before them as they are, and takes the lines behind
the head by their marks, as many as the ranges are long, checking each line that is kept or removed
against the version that it has (`patchFrom`). It reads back each head (`Stated.ofLine?_head`) and
makes of the old lines of a hunk its new ones (`patchFrom_marks`). So it makes the new version of
the old one and the hunks that lead from one to the other (`patchFrom_hunks`), which are those of
the unified diff (`unified_patch`).
-/

namespace ExpectError.Diff

open Diagnostic (after? digits?)

/-! ## Heads -/

/-- A range of lines as it is stated. -/
structure Range where
  first : Nat
  length : Nat
  deriving DecidableEq, Repr

/-- The number of lines before a range. If it is empty, the line before it is given as the first. -/
def Range.before (range : Range) : Nat :=
  if range.length = 0 then range.first else range.first - 1

/-- A range at the start of a text, and what is left. Without a length it has one line. -/
def Range.read? (text : List Char) : Option (Range × List Char) := do
  let (first, text) ← digits? text
  match after? [','] text with
  | none => return (⟨Text.digitsValue first, 1⟩, text)
  | some text =>
    let (length, text) ← digits? text
    return (⟨Text.digitsValue first, Text.digitsValue length⟩, text)

/-- The ranges that the head of a hunk states for the two versions. -/
structure Stated where
  old : Range
  new : Range
  deriving DecidableEq, Repr

/-- The ranges in a line, if it is the head of a hunk. -/
def Stated.ofLine? (line : String) : Option Stated := do
  let text ← after? "@@ -".toList line.toList
  let (old, text) ← Range.read? text
  let text ← after? " +".toList text
  let (new, text) ← Range.read? text
  guard (text = " @@".toList)
  return ⟨old, new⟩

/-- The ranges end before others begin, with lines between them. -/
def Stated.Before (stated next : Stated) : Prop :=
  stated.old.before + stated.old.length < next.old.before ∧
    stated.new.before + stated.new.length < next.new.before

/-! ## Lines with a mark -/

inductive Mark where
  | kept
  | removed
  | added
  deriving DecidableEq, Repr

namespace Mark

/-- Whether such a line is in the old version. -/
def inOld : Mark → Bool
  | .added => false
  | _ => true

/-- Whether such a line is in the new version. -/
def inNew : Mark → Bool
  | .removed => false
  | _ => true

/-- The mark and the text of a line, if it has a mark. -/
def ofLine? (line : String) : Option (Mark × String) :=
  match line.toList with
  | ' ' :: text => some (.kept, String.ofList text)
  | '-' :: text => some (.removed, String.ofList text)
  | '+' :: text => some (.added, String.ofList text)
  | _ => none

end Mark

/-- The number of lines in a hunk with a mark of some kind. -/
def countMarked (kind : Mark → Bool) (lines : List String) : Nat :=
  lines.countP fun line => (Mark.ofLine? line).any fun marked => kind marked.1

/-! ## Reading a patch -/

/-- How far a patch has been read: the lines of the two versions that are done with, and those that
the hunk has still to hold. -/
structure Progress where
  oldDone : Nat := 0
  newDone : Nat := 0
  oldDue : Nat := 0
  newDue : Nat := 0

def Progress.next (progress : Progress) (mark : Mark) : Progress where
  oldDone := progress.oldDone + mark.inOld.toNat
  newDone := progress.newDone + mark.inNew.toNat
  oldDue := progress.oldDue - mark.inOld.toNat
  newDue := progress.newDue - mark.inNew.toNat

/-- Applies the lines of a patch to what is left of the old version. -/
def patchFrom (progress : Progress) (old : List String) : List String → Option (List String)
  | [] => if progress.oldDue = 0 ∧ progress.newDue = 0 then some old else none
  | line :: lines =>
    if progress.oldDue = 0 ∧ progress.newDue = 0 then do
      let stated ← Stated.ofLine? line
      let gap := stated.old.before - progress.oldDone
      guard (progress.oldDone ≤ stated.old.before ∧ gap ≤ old.length ∧
        stated.new.before = progress.newDone + gap)
      let new ← patchFrom
        ⟨stated.old.before, stated.new.before, stated.old.length, stated.new.length⟩
        (old.drop gap) lines
      return old.take gap ++ new
    else do
      let (mark, text) ← Mark.ofLine? line
      guard (mark.inOld → 0 < progress.oldDue ∧ old.head? = some text)
      guard (mark.inNew → 0 < progress.newDue)
      let new ← patchFrom (progress.next mark) (if mark.inOld then old.tail else old) lines
      return if mark.inNew then text :: new else new

/-- The version that a patch makes of another, if it fits. -/
def patch (old lines : List String) : Option (List String) :=
  patchFrom {} old lines

/-! ## Heads are read back -/

/-- A range with so many lines before it, as it is stated. -/
def Range.ofBefore (before length : Nat) : Range :=
  ⟨if length = 0 then before else before + 1, length⟩

@[simp] theorem Range.before_ofBefore (before length : Nat) :
    (Range.ofBefore before length).before = before := by
  unfold Range.before Range.ofBefore
  split_ifs <;> rfl

@[simp] theorem Range.length_ofBefore (before length : Nat) :
    (Range.ofBefore before length).length = length := rfl

theorem after?_append (word rest : List Char) : after? word (word ++ rest) = some rest :=
  Diagnostic.after?_eq_some_iff.mpr rfl

theorem digits?_toString (n : Nat) {c : Char} (hc : Text.isDigit c = false) (rest : List Char) :
    digits? ((toString n).toList ++ c :: rest) = some (Nat.toDigits 10 n, c :: rest) := by
  rw [Nat.toString_eq_ofList_toDigits, String.toList_ofList]
  exact Diagnostic.digits?_append (Diagnostic.isNumeral_toDigits n) hc rest

theorem Range.read?_rangeText (before length : Nat) (rest : List Char) :
    Range.read? ((rangeText before length).toList ++ ' ' :: rest) =
      some (Range.ofBefore before length, ' ' :: rest) := by
  have hspace : Text.isDigit ' ' = false := by decide
  have hcomma : Text.isDigit ',' = false := by decide
  have hlong : ∀ n m : Nat,
      Range.read? ((toString n).toList ++ ',' :: ((toString m).toList ++ ' ' :: rest)) =
        some (⟨n, m⟩, ' ' :: rest) := by
    intro n m
    rw [Range.read?, digits?_toString n hcomma]
    simp only [Option.bind_eq_bind, Option.bind_some, after?, ↓reduceIte,
      digits?_toString m hspace, Text.digitsValue_toDigits]
    rfl
  unfold rangeText Range.ofBefore
  by_cases hone : length = 1
  · rw [if_pos hone, if_neg (by omega), Range.read?, digits?_toString _ hspace, hone]
    simp only [Option.bind_eq_bind, Option.bind_some, Text.digitsValue_toDigits]
    rfl
  rw [if_neg hone]
  by_cases hzero : length = 0
  · rw [if_pos hzero, if_pos hzero, hzero, ← hlong before 0, String.toList_append,
      List.append_assoc]
    rfl
  · rw [if_neg hzero, if_neg hzero, ← hlong (before + 1) length]
    simp

def Hunk.stated (hunk : Hunk) : Stated :=
  ⟨Range.ofBefore hunk.left hunk.old.length, Range.ofBefore hunk.right hunk.new.length⟩

def Hunk.head (hunk : Hunk) : String :=
  "@@ -" ++ rangeText hunk.left hunk.old.length ++ " +" ++ rangeText hunk.right hunk.new.length
    ++ " @@"

theorem Stated.ofLine?_head (hunk : Hunk) : Stated.ofLine? hunk.head = some hunk.stated := by
  have htext : hunk.head.toList = "@@ -".toList ++
      ((rangeText hunk.left hunk.old.length).toList ++ ' ' :: '+' ::
        ((rangeText hunk.right hunk.new.length).toList ++ ' ' :: "@@".toList)) := by
    simp [Hunk.head]
  have hplus : ∀ rest, after? " +".toList (' ' :: '+' :: rest) = some rest :=
    after?_append " +".toList
  rw [Stated.ofLine?, htext, after?_append]
  simp only [Option.bind_eq_bind, Option.bind_some, Range.read?_rangeText, hplus]
  rfl

/-! ## Bodies are read back -/

def Mark.text : Mark → String
  | .kept => " "
  | .removed => "-"
  | .added => "+"

def Mark.line (marked : Mark × String) : String :=
  marked.1.text ++ marked.2

/-- The lines of a chunk, each with the mark for it. -/
def Chunk.marks : Chunk → List (Mark × String)
  | .keep lines => lines.map (Mark.kept, ·)
  | .change removed added => removed.map (Mark.removed, ·) ++ added.map (Mark.added, ·)

/-- The texts with a mark of some kind. -/
def textsOf (kind : Mark → Bool) (marks : List (Mark × String)) : List String :=
  (marks.filter fun marked => kind marked.1).map Prod.snd

theorem Mark.ofLine?_line (marked : Mark × String) :
    Mark.ofLine? (Mark.line marked) = some marked := by
  obtain ⟨mark, text⟩ := marked
  cases mark <;> simp [Mark.line, Mark.text, Mark.ofLine?]

theorem Chunk.marked_eq (chunk : Chunk) : chunk.marked = chunk.marks.map Mark.line := by
  cases chunk <;> simp [Chunk.marked, Chunk.marks, Mark.line, Mark.text, Function.comp_def]

theorem textsOf_flatMap (kind : Mark → Bool) (chunks : List Chunk) :
    textsOf kind (chunks.flatMap Chunk.marks) =
      chunks.flatMap fun chunk => textsOf kind chunk.marks := by
  simp only [textsOf, List.filter_flatMap, List.map_flatMap]

theorem textsOf_inOld (chunk : Chunk) : textsOf Mark.inOld chunk.marks = chunk.old := by
  cases chunk <;> simp [textsOf, Chunk.marks, Chunk.old, Mark.inOld, List.filter_map,
    Function.comp_def]

theorem textsOf_inNew (chunk : Chunk) : textsOf Mark.inNew chunk.marks = chunk.new := by
  cases chunk <;> simp [textsOf, Chunk.marks, Chunk.new, Mark.inNew, List.filter_map,
    Function.comp_def]

theorem countMarked_lines (kind : Mark → Bool) (marks : List (Mark × String)) :
    countMarked kind (marks.map Mark.line) = (textsOf kind marks).length := by
  rw [countMarked, List.countP_map, textsOf, List.length_map, ← List.countP_eq_length_filter]
  refine List.countP_congr fun marked _ => ?_
  simp [Mark.ofLine?_line]

theorem textsOf_cons (kind : Mark → Bool) (mark : Mark) (text : String)
    (marks : List (Mark × String)) :
    textsOf kind ((mark, text) :: marks) =
      (if kind mark then [text] else []) ++ textsOf kind marks := by
  cases h : kind mark <;> simp [textsOf, h]

theorem patchFrom_line {progress : Progress} {mark : Mark}
    (hold : mark.inOld = true → 0 < progress.oldDue)
    (hnew : mark.inNew = true → 0 < progress.newDue) (text : String) (old lines : List String) :
    patchFrom progress ((if mark.inOld then [text] else []) ++ old)
        (Mark.line (mark, text) :: lines) =
      (patchFrom (progress.next mark) old lines).map
        ((if mark.inNew then [text] else []) ++ ·) := by
  -- a mark is that of a line in one of the versions, so the hunk is not done with
  have hdue : ¬ (progress.oldDue = 0 ∧ progress.newDue = 0) := by
    cases mark with
    | kept => exact fun h => Nat.ne_of_gt (hold rfl) h.1
    | removed => exact fun h => Nat.ne_of_gt (hold rfl) h.1
    | added => exact fun h => Nat.ne_of_gt (hnew rfl) h.2
  rw [patchFrom, if_neg hdue, Mark.ofLine?_line]
  simp only [Option.bind_eq_bind, Option.bind_some]
  rw [Option.map_eq_bind]
  cases mark with
  | kept =>
    have hold := hold rfl
    have hnew := hnew rfl
    simp [Mark.inOld, Mark.inNew, hold, hnew, guard]
  | removed =>
    have hold := hold rfl
    simp [Mark.inOld, Mark.inNew, hold, guard]
  | added =>
    have hnew := hnew rfl
    simp [Mark.inOld, Mark.inNew, hnew, guard]

/-- **Lines with marks** make, of the old ones among them, the new ones. -/
theorem patchFrom_marks {progress : Progress} (marks : List (Mark × String))
    (hold : (textsOf Mark.inOld marks).length ≤ progress.oldDue)
    (hnew : (textsOf Mark.inNew marks).length ≤ progress.newDue) (old lines : List String) :
    patchFrom progress (textsOf Mark.inOld marks ++ old) (marks.map Mark.line ++ lines) =
      (patchFrom
        ⟨progress.oldDone + (textsOf Mark.inOld marks).length,
          progress.newDone + (textsOf Mark.inNew marks).length,
          progress.oldDue - (textsOf Mark.inOld marks).length,
          progress.newDue - (textsOf Mark.inNew marks).length⟩ old lines).map
        (textsOf Mark.inNew marks ++ ·) := by
  induction marks generalizing progress with
  | nil => exact Option.map_id'.symm
  | cons marked marks ih =>
    obtain ⟨mark, text⟩ := marked
    simp only [textsOf_cons, List.length_append] at hold hnew ⊢
    have hlength : ∀ kind : Mark → Bool,
        (if kind mark then [text] else []).length = (kind mark).toNat := by
      intro kind
      cases kind mark <;> rfl
    rw [hlength] at hold hnew
    have hownOld : mark.inOld = true → 0 < progress.oldDue := fun h => by
      rw [h, Bool.toNat_true] at hold
      omega
    have hownNew : mark.inNew = true → 0 < progress.newDue := fun h => by
      rw [h, Bool.toNat_true] at hnew
      omega
    have hold' : (textsOf Mark.inOld marks).length ≤ (progress.next mark).oldDue :=
      Nat.le_sub_of_add_le' hold
    have hnew' : (textsOf Mark.inNew marks).length ≤ (progress.next mark).newDue :=
      Nat.le_sub_of_add_le' hnew
    rw [List.append_assoc, List.map_cons, List.cons_append, patchFrom_line hownOld hownNew,
      ih hold' hnew', Option.map_map]
    simp only [Progress.next, hlength, Nat.add_assoc, Nat.sub_sub, Function.comp_def,
      List.append_assoc]

/-! ## Whole patches -/

/-- The lines of a hunk, each with its mark. -/
def Hunk.marks (hunk : Hunk) : List (Mark × String) :=
  hunk.chunks.flatMap Chunk.marks

theorem Hunk.text_eq (hunk : Hunk) : hunk.text = hunk.head :: hunk.marks.map Mark.line := by
  rw [Hunk.marks, List.map_flatMap]
  simp only [← Chunk.marked_eq]
  rfl

theorem textsOf_hunk (hunk : Hunk) :
    textsOf Mark.inOld hunk.marks = hunk.old ∧ textsOf Mark.inNew hunk.marks = hunk.new := by
  simp only [Hunk.marks, textsOf_flatMap, textsOf_inOld, textsOf_inNew]
  exact ⟨rfl, rfl⟩

theorem patchFrom_hunk {left right : Nat} {gap : List String} {hunk : Hunk}
    (hleft : hunk.left = left + gap.length) (hright : hunk.right = right + gap.length)
    (old lines : List String) :
    patchFrom ⟨left, right, 0, 0⟩ (gap ++ (hunk.old ++ old)) (hunk.text ++ lines) =
      (patchFrom ⟨hunk.left + hunk.old.length, hunk.right + hunk.new.length, 0, 0⟩ old
        lines).map fun new => gap ++ (hunk.new ++ new) := by
  obtain ⟨hold, hnew⟩ := textsOf_hunk hunk
  have hgap : hunk.left - left = gap.length := by omega
  have hmarks := @patchFrom_marks ⟨hunk.left, hunk.right, hunk.old.length, hunk.new.length⟩
    hunk.marks (by rw [hold]) (by rw [hnew]) old lines
  rw [hold, hnew, Nat.sub_self, Nat.sub_self] at hmarks
  rw [Hunk.text_eq, List.cons_append, patchFrom, if_pos ⟨rfl, rfl⟩, Stated.ofLine?_head]
  have hfits : left ≤ hunk.left ∧ gap.length ≤ (gap ++ (hunk.old ++ old)).length ∧
      hunk.right = right + gap.length :=
    ⟨by omega, by rw [List.length_append]; omega, hright⟩
  simp only [Option.bind_eq_bind, Option.bind_some, Hunk.stated, Range.before_ofBefore,
    Range.length_ofBefore, hgap, List.drop_left, List.take_left, hmarks, guard, if_pos hfits]
  cases patchFrom ⟨hunk.left + hunk.old.length, hunk.right + hunk.new.length, 0, 0⟩ old lines with
  | none => rfl
  | some new => rfl

/-- **Hunks that lead from one version to another** make the one of the other. -/
theorem patchFrom_hunks {left right : Nat} {hunks : List Hunk} {old new : List String}
    (h : Patches left right hunks old new) :
    patchFrom ⟨left, right, 0, 0⟩ old (hunks.flatMap Hunk.text) = some new := by
  induction h with
  | nil lines => rfl
  | cons gap hleft hright hchanges hnext hrest ih =>
    rw [List.flatMap_cons, patchFrom_hunk hleft hright, ih, Option.map_some]

/-- A hunk of a patch: a head that states its ranges, and as many lines of either version as these
are long. -/
structure Part where
  head : String
  stated : Stated
  body : List String
  reads : Stated.ofLine? head = some stated
  marked : ∀ line ∈ body, (Mark.ofLine? line).isSome = true
  oldLength : stated.old.length = countMarked Mark.inOld body
  newLength : stated.new.length = countMarked Mark.inNew body

/-- The lines of a hunk, with its head. -/
def Part.lines (part : Part) : List String :=
  part.head :: part.body

/-- Some line of the hunk is removed or added. -/
def Part.Changes (part : Part) : Prop :=
  ∃ line ∈ part.body, ∃ mark text, Mark.ofLine? line = some (mark, text) ∧ mark ≠ .kept

/-- The text of a hunk is a hunk of a patch. -/
def Hunk.part (hunk : Hunk) : Part where
  head := hunk.head
  stated := hunk.stated
  body := hunk.marks.map Mark.line
  reads := Stated.ofLine?_head hunk
  marked := by
    rw [List.forall_mem_map]
    intro marked _
    rw [Mark.ofLine?_line]
    rfl
  oldLength := by
    rw [countMarked_lines, (textsOf_hunk hunk).1]
    rfl
  newLength := by
    rw [countMarked_lines, (textsOf_hunk hunk).2]
    rfl

theorem Hunk.Changes.part {hunk : Hunk} (h : hunk.Changes) : hunk.part.Changes := by
  obtain ⟨chunk, hmem, hkeep, hne⟩ := h
  obtain ⟨marked, hmarked, hchange⟩ : ∃ marked ∈ chunk.marks, marked.1 ≠ .kept := by
    cases chunk with
    | keep lines => cases hkeep
    | change removed added =>
      rcases hne with hne | hne
      · obtain ⟨line, hline⟩ := List.exists_mem_of_ne_nil _ hne
        exact ⟨(.removed, line), List.mem_append_left _ (List.mem_map_of_mem hline), nofun⟩
      · obtain ⟨line, hline⟩ := List.exists_mem_of_ne_nil _ hne
        exact ⟨(.added, line), List.mem_append_right _ (List.mem_map_of_mem hline), nofun⟩
  exact ⟨Mark.line marked, List.mem_map_of_mem (List.mem_flatMap_of_mem hmem hmarked), marked.1,
    marked.2, Mark.ofLine?_line marked, hchange⟩

theorem unified_eq_nil_iff {old new : List String} {path : String} {context : Nat} :
    unified old new path context = [] ↔ old = new := by
  rw [← @hunks_script_eq_nil_iff context old new, unified]
  cases hunks context (script old new) <;> simp

/-- **A unified diff is a patch.** It is empty exactly if the versions are equal. Otherwise it is
two lines that name the file, and then hunks. Each states ranges that are as long as it has lines of
either version, and holds a line that is removed or added; the ranges come one behind the other,
with lines between them. Applied to the old version, with every line that is kept or removed
checked, the hunks make the new one. -/
theorem unified_patch (old new : List String) (path : String) (context : Nat) :
    (unified old new path context = [] ↔ old = new) ∧
    (old ≠ new → ∃ parts : List Part, parts ≠ [] ∧
      unified old new path context =
        ("--- " ++ path ++ " (original)") :: ("+++ " ++ path ++ " (updated)") ::
          parts.flatMap Part.lines ∧
      (∀ part ∈ parts, part.Changes) ∧
      parts.IsChain (fun part next => part.stated.Before next.stated) ∧
      patch old (parts.flatMap Part.lines) = some new) := by
  refine ⟨unified_eq_nil_iff, fun hne => ?_⟩
  obtain ⟨hscript, hseparated⟩ := script_rewrites old new
  have hpatches := hunks_patches context hscript hseparated
  have hsome : hunks context (script old new) ≠ [] := mt hunks_script_eq_nil_iff.mp hne
  have hlines : ((hunks context (script old new)).map Hunk.part).flatMap Part.lines =
      (hunks context (script old new)).flatMap Hunk.text := by
    rw [List.flatMap_map]
    exact List.flatMap_congr fun hunk _ => hunk.text_eq.symm
  refine ⟨(hunks context (script old new)).map Hunk.part, by simpa using hsome, ?_, ?_, ?_, ?_⟩
  · rw [hlines, unified]
    split
    · contradiction
    · rfl
  · rw [List.forall_mem_map]
    exact fun hunk hmem => (hpatches.changes hunk hmem).part
  · rw [List.isChain_map]
    refine hpatches.chain.imp fun hunk next h => ?_
    simpa [Stated.Before, Hunk.part, Hunk.stated] using h
  · rw [hlines]
    exact patchFrom_hunks hpatches

/-- Without context: a line that is added in front of the first, one that is removed, and one that
takes the place of another. -/
theorem unified_patch_no_context :
    let old := ["a", "b", "c", "d"]
    let new := ["x", "a", "c", "- y"]
    let body := ["@@ -0,0 +1 @@", "+x", "@@ -2 +2,0 @@", "-b", "@@ -4 +4 @@", "-d", "+- y"]
    old ≠ new ∧ unified old new "a.ts" 0 = "--- a.ts (original)" :: "+++ a.ts (updated)" :: body ∧
    patch old body = some new := by
  intro old new body
  have hne : old ≠ new := by decide
  have htext : unified old new "a.ts" 0 =
      "--- a.ts (original)" :: "+++ a.ts (updated)" :: body := by
    decide +kernel
  obtain ⟨parts, -, hparts, -, -, hpatch⟩ := (unified_patch old new "a.ts" 0).2 hne
  have hbody : body = parts.flatMap Part.lines :=
    (List.cons.inj (List.cons.inj (htext.symm.trans hparts)).2).2
  exact ⟨hne, htext, hbody ▸ hpatch⟩

end ExpectError.Diff
