import ExpectError.Diff.Unified
import ExpectError.Proofs.Script

/-!
# Hunks

The hunks of a script lead from the old version to the new one (`Patches`): each takes its old lines
to its new ones at the place that it names, and the lines between two hunks, of which there are
some, stay as they are. `cut_patches` goes along the script, for any radius; what carries it is that
a change comes between two runs of kept lines, so that a hunk is never begun and ended without one.
-/

namespace ExpectError.Diff

/-- The hunk takes lines away or adds some. -/
def Hunk.Changes (hunk : Hunk) : Prop :=
  ∃ chunk ∈ hunk.chunks, chunk.isKeep = false ∧ (chunk.old ≠ [] ∨ chunk.new ≠ [])

/-- Hunks that lead from one list of lines to another, with so many lines before these in either
version. -/
inductive Patches : Nat → Nat → List Hunk → List String → List String → Prop
  | nil {left right : Nat} (lines : List String) : Patches left right [] lines lines
  /-- Some lines stay as they are, and then comes a hunk. The next one does not come at once. -/
  | cons {left right : Nat} (gap : List String) {hunk : Hunk} {hunks : List Hunk}
    {old new : List String} (hleft : hunk.left = left + gap.length)
    (hright : hunk.right = right + gap.length) (hchanges : hunk.Changes)
    (hnext : ∀ next ∈ hunks.head?, hunk.left + hunk.old.length < next.left)
    (hrest : Patches (hunk.left + hunk.old.length) (hunk.right + hunk.new.length) hunks old new) :
    Patches left right (hunk :: hunks) (gap ++ (hunk.old ++ old)) (gap ++ (hunk.new ++ new))

namespace Patches

variable {left right : Nat} {hunks : List Hunk} {old new : List String}

theorem eq_of_nil (h : Patches left right [] old new) : old = new := by
  cases h
  rfl

theorem shift (gap : List String)
    (h : Patches (left + gap.length) (right + gap.length) hunks old new) :
    Patches left right hunks (gap ++ old) (gap ++ new) := by
  cases h with
  | nil => exact .nil _
  | cons more hleft hright hchanges hnext hrest =>
    rw [← List.append_assoc gap more, ← List.append_assoc gap more]
    refine .cons (gap ++ more) ?_ ?_ hchanges hnext hrest
    · rw [hleft, List.length_append, Nat.add_assoc]
    · rw [hright, List.length_append, Nat.add_assoc]

theorem le_head (h : Patches left right hunks old new) :
    ∀ first ∈ hunks.head?, left ≤ first.left ∧ right + first.left = left + first.right := by
  cases h with
  | nil => simp
  | cons gap hleft hright =>
    rintro _ ⟨⟩
    omega

theorem changes (h : Patches left right hunks old new) : ∀ hunk ∈ hunks, hunk.Changes := by
  induction h with
  | nil => exact List.forall_mem_nil _
  | cons gap hleft hright hchanges hnext hrest ih => exact List.forall_mem_cons.mpr ⟨hchanges, ih⟩

theorem chain (h : Patches left right hunks old new) :
    hunks.IsChain fun hunk next =>
      hunk.left + hunk.old.length < next.left ∧ hunk.right + hunk.new.length < next.right := by
  induction h with
  | nil => exact .nil
  | cons gap hleft hright hchanges hnext hrest ih =>
    refine List.isChain_cons.mpr ⟨fun next hmem => ?_, ih⟩
    have hlt := hnext next hmem
    have hsame := (hrest.le_head next hmem).2
    omega

end Patches

/-! ## Cutting a script -/

/-- The script changes something. -/
def HasChange (chunks : List Chunk) : Prop :=
  ∃ chunk ∈ chunks, chunk.isKeep = false

theorem HasChange.cons {chunks : List Chunk} (h : HasChange chunks) (chunk : Chunk) :
    HasChange (chunk :: chunks) := by
  obtain ⟨change, hmem, hchange⟩ := h
  exact ⟨change, List.mem_cons_of_mem _ hmem, hchange⟩

theorem HasChange.reverse {chunks : List Chunk} (h : HasChange chunks) :
    HasChange chunks.reverse := by
  obtain ⟨change, hmem, hchange⟩ := h
  exact ⟨change, List.mem_reverse.mpr hmem, hchange⟩

theorem ChangesLines.reverse {chunks : List Chunk} (h : ChangesLines chunks) :
    ChangesLines chunks.reverse :=
  fun chunk hmem => h chunk (List.mem_reverse.mp hmem)

theorem ChangesLines.changes {chunks : List Chunk} (h : ChangesLines chunks)
    (hchange : HasChange chunks) (left right : Nat) : Hunk.Changes ⟨left, right, chunks⟩ := by
  obtain ⟨chunk, hmem, hkeep⟩ := hchange
  exact ⟨chunk, hmem, hkeep, h chunk hmem hkeep⟩

theorem flatMap_old_eq_new {chunks : List Chunk} (h : ¬ HasChange chunks) :
    chunks.flatMap Chunk.old = chunks.flatMap Chunk.new := by
  refine List.flatMap_congr fun chunk hmem => ?_
  cases chunk with
  | keep lines => rfl
  | change removed added => exact absurd ⟨_, hmem, rfl⟩ h

theorem any_change_iff {chunks : List Chunk} :
    (chunks.any fun chunk => !chunk.isKeep) = true ↔ HasChange chunks := by
  simp [HasChange]

theorem close_patches {left right : Nat} {done : List Chunk} (hdone : ChangesLines done)
    (tail : List String) :
    Patches left right (close left right done) (done.reverse.flatMap Chunk.old ++ tail)
      (done.reverse.flatMap Chunk.new ++ tail) := by
  unfold close
  split_ifs with hany
  · have hchange := (any_change_iff.mp hany).reverse
    exact .cons [] rfl rfl (hdone.reverse.changes hchange left right) (by simp) (.nil tail)
  · have hnone : ¬ HasChange done.reverse := fun h => by
      have := h.reverse
      rw [List.reverse_reverse] at this
      exact hany (any_change_iff.mpr this)
    rw [flatMap_old_eq_new hnone]
    exact .nil _

theorem take_append_gap_append_lastLines {context : Nat} {lines : List String}
    (h : 2 * context < lines.length) :
    lines.take context ++ ((lines.drop context).take (lines.length - 2 * context) ++
      lastLines context lines) = lines := by
  have hlast : lastLines context lines =
      lines.drop (context + (lines.length - 2 * context)) := by
    rw [lastLines]
    congr 1
    omega
  rw [hlast, take_append_middle_append_drop]

theorem Patches.cons_split {context left right : Nat} {done : List Chunk} {lines : List String}
    (hlong : 2 * context < lines.length) (hchange : HasChange done) (hdone : ChangesLines done)
    {hunk : Hunk} (hhunk : hunk = ⟨left, right, (.keep (lines.take context) :: done).reverse⟩)
    {hunks : List Hunk} {old new : List String}
    (h : Patches
      (left + hunk.old.length - (lines.take context).length + (lines.length - context))
      (right + hunk.new.length - (lines.take context).length + (lines.length - context)) hunks
      (lastLines context lines ++ old) (lastLines context lines ++ new)) :
    Patches left right (hunk :: hunks) (done.reverse.flatMap Chunk.old ++ (lines ++ old))
      (done.reverse.flatMap Chunk.new ++ (lines ++ new)) := by
  have hold : hunk.old = done.reverse.flatMap Chunk.old ++ lines.take context := by
    simp [hhunk, Hunk.old, Chunk.old]
  have hnew : hunk.new = done.reverse.flatMap Chunk.new ++ lines.take context := by
    simp [hhunk, Hunk.new, Chunk.new]
  have hleft : hunk.left = left := by rw [hhunk]
  have hright : hunk.right = right := by rw [hhunk]
  have hchanges : hunk.Changes := by
    rw [hhunk]
    exact (hdone.keep (lines.take context)).reverse.changes (hchange.cons _).reverse left right
  -- the lines that neither hunk needs stay as they are
  obtain ⟨gap, hgap⟩ : ∃ gap, gap = (lines.drop context).take (lines.length - 2 * context) :=
    ⟨_, rfl⟩
  have hsplit := take_append_gap_append_lastLines hlong
  rw [← hgap] at hsplit
  have hlength : (lines.take context).length = context := List.length_take_of_le (by omega)
  have hgapLength : gap.length = lines.length - 2 * context := by
    rw [hgap, List.length_take, List.length_drop]
    omega
  have hplace : left + hunk.old.length - (lines.take context).length + (lines.length - context) =
      hunk.left + hunk.old.length + gap.length := by
    rw [hold, List.length_append]
    omega
  have hplace' : right + hunk.new.length - (lines.take context).length + (lines.length - context) =
      hunk.right + hunk.new.length + gap.length := by
    rw [hnew, List.length_append]
    omega
  rw [hplace, hplace'] at h
  have hnext : ∀ next ∈ hunks.head?, hunk.left + hunk.old.length < next.left := by
    intro next hmem
    have := (h.le_head next hmem).1
    omega
  have hcons := Patches.cons [] hleft hright hchanges hnext (h.shift gap)
  rw [← hsplit]
  simpa [hold, hnew] using hcons

/-- **Cutting a script** gives hunks that lead from what is left of the old version to what is left
of the new one. Unless the hunk that is being made holds a change, a change comes next. -/
theorem cut_patches (context left right : Nat) (done chunks : List Chunk)
    (hseparated : Separated chunks)
    (hstart : HasChange done ∨ ∀ chunk ∈ chunks.head?, chunk.isKeep = false)
    (hdone : ChangesLines done) (hchunks : ChangesLines chunks) :
    Patches left right (cut context left right done chunks)
      (done.reverse.flatMap Chunk.old ++ chunks.flatMap Chunk.old)
      (done.reverse.flatMap Chunk.new ++ chunks.flatMap Chunk.new) := by
  fun_induction cut context left right done chunks with
  | case1 left right done => exact close_patches hdone []
  | case2 left right done lines chunks hempty =>
    -- the last run of kept lines
    obtain rfl := List.isEmpty_iff.mp hempty
    have hclose := @close_patches left right _ (hdone.keep (lines.take context))
      (lines.drop context)
    simpa [Chunk.old, Chunk.new] using hclose
  | case3 left right done lines chunks hempty hlong hunk after ih =>
    have hchange : HasChange done := hstart.resolve_right fun h => Chunk.isKeep_keep lines (h _ rfl)
    obtain ⟨hnext, hseparated⟩ := List.isChain_cons.mp hseparated
    have hrest := ih hseparated
      (Or.inr fun next hmem => (hnext next hmem).resolve_left (Chunk.isKeep_keep lines))
      (ChangesLines.keep (List.forall_mem_nil _) _) (List.forall_mem_cons.mp hchunks).2
    rw [List.reverse_singleton, List.flatMap_singleton, List.flatMap_singleton] at hrest
    exact .cons_split hlong hchange hdone rfl hrest
  | case4 left right done lines chunks hempty hshort ih =>
    have hchange : HasChange done := hstart.resolve_right fun h => Chunk.isKeep_keep lines (h _ rfl)
    have hrest := ih (List.isChain_cons.mp hseparated).2 (Or.inl (hchange.cons _))
      (hdone.keep lines) (List.forall_mem_cons.mp hchunks).2
    simpa [Chunk.old, Chunk.new] using hrest
  | case5 left right done removed added chunks ih =>
    obtain ⟨hown, hchunks⟩ := List.forall_mem_cons.mp hchunks
    have hrest := ih (List.isChain_cons.mp hseparated).2 (Or.inl ⟨_, List.mem_cons_self, rfl⟩)
      (List.forall_mem_cons.mpr ⟨hown, hdone⟩) hchunks
    simpa [Chunk.old, Chunk.new] using hrest

theorem hunks_patches (context : Nat) {chunks : List Chunk} {old new : List String}
    (h : Rewrites chunks old new) (hseparated : Separated chunks) :
    Patches 0 0 (hunks context chunks) old new := by
  rw [← h.old_eq, ← h.new_eq]
  unfold hunks
  split
  case h_1 lines rest =>
    obtain ⟨hnext, hseparated⟩ := List.isChain_cons.mp hseparated
    -- the first lines are in no hunk
    obtain ⟨gap, hgap⟩ : ∃ gap, gap = lines.take (lines.length - context) := ⟨_, rfl⟩
    have hlength : gap.length = lines.length - context := by
      rw [hgap, List.length_take_of_le (Nat.sub_le _ _)]
    have hsplit : gap ++ lastLines context lines = lines := by
      rw [hgap, lastLines, List.take_append_drop]
    have hcut := cut_patches context (0 + gap.length) (0 + gap.length)
      [.keep (lastLines context lines)] rest hseparated
      (Or.inr fun next hmem => (hnext next hmem).resolve_left (Chunk.isKeep_keep lines))
      (ChangesLines.keep (List.forall_mem_nil _) _) (List.forall_mem_cons.mp h.changes).2
    have hshift := hcut.shift gap
    rw [Nat.zero_add, hlength] at hshift
    simpa [Chunk.old, Chunk.new, ← List.append_assoc, hsplit] using hshift
  case h_2 hstart =>
    refine cut_patches context 0 0 [] chunks hseparated (Or.inr fun chunk hmem => ?_)
      (List.forall_mem_nil _) h.changes
    cases chunk with
    | keep lines =>
      obtain ⟨rest, hrest⟩ := List.head?_eq_some_iff.mp hmem
      exact absurd hrest (hstart lines rest)
    | change removed added => rfl

theorem hunks_script_eq_nil_iff {context : Nat} {old new : List String} :
    hunks context (script old new) = [] ↔ old = new := by
  constructor
  · intro h
    obtain ⟨hscript, hseparated⟩ := script_rewrites old new
    have hpatches := hunks_patches context hscript hseparated
    rw [h] at hpatches
    exact hpatches.eq_of_nil
  · rintro rfl
    rcases script_self old with h | h
    · rw [h]
      rfl
    · rw [h]
      rfl

end ExpectError.Diff
