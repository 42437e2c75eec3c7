import ExpectError.Proofs.LongestRun
import Mathlib.Data.List.Chain

/-!
# Scripts

A script holds the lines of both versions, in order, and none of its changes is empty (`Rewrites`).
This is so whatever runs are kept, as long as each lies in both versions (`scriptFrom_rewrites`),
and merging neighbouring runs leaves it so (`Rewrites.merge`) and leaves no two runs next to each
other (`merge_separated`). The script of a version and itself keeps all of it (`script_self`).
-/

namespace ExpectError.Diff

/-- Every change of the script takes lines away or adds some. -/
def ChangesLines (chunks : List Chunk) : Prop :=
  ∀ chunk ∈ chunks, chunk.isKeep = false → chunk.old ≠ [] ∨ chunk.new ≠ []

theorem Chunk.isKeep_keep (lines : List String) : (Chunk.keep lines).isKeep ≠ false := by
  simp [Chunk.isKeep]

theorem ChangesLines.keep {chunks : List Chunk} (h : ChangesLines chunks) (lines : List String) :
    ChangesLines (.keep lines :: chunks) :=
  List.forall_mem_cons.mpr ⟨fun hchange => absurd hchange (Chunk.isKeep_keep lines), h⟩

/-- The script leads from one version to the other. -/
structure Rewrites (chunks : List Chunk) (old new : List String) : Prop where
  old_eq : chunks.flatMap Chunk.old = old
  new_eq : chunks.flatMap Chunk.new = new
  changes : ChangesLines chunks

namespace Rewrites

theorem append {chunks more : List Chunk} {old new old' new' : List String}
    (h : Rewrites chunks old new) (h' : Rewrites more old' new') :
    Rewrites (chunks ++ more) (old ++ old') (new ++ new') where
  old_eq := by rw [List.flatMap_append, h.old_eq, h'.old_eq]
  new_eq := by rw [List.flatMap_append, h.new_eq, h'.new_eq]
  changes := List.forall_mem_append.mpr ⟨h.changes, h'.changes⟩

theorem keep (lines : List String) : Rewrites [.keep lines] lines lines where
  old_eq := List.append_nil lines
  new_eq := List.append_nil lines
  changes := ChangesLines.keep (List.forall_mem_nil _) lines

end Rewrites

theorem changes_rewrites (old new : List String) : Rewrites (changes old new) old new := by
  unfold changes
  split_ifs with h
  · obtain ⟨rfl, rfl⟩ := h
    exact ⟨rfl, rfl, List.forall_mem_nil _⟩
  · refine ⟨List.append_nil old, List.append_nil new, ?_⟩
    rw [not_and_or] at h
    exact List.forall_mem_singleton.mpr fun _ => h

theorem take_append_middle_append_drop {α : Type} (items : List α) (first length : Nat) :
    items.take first ++ ((items.drop first).take length ++ items.drop (first + length)) =
      items := by
  rw [← List.drop_drop, List.take_append_drop, List.take_append_drop]

theorem scriptFrom_rewrites (fuel : Nat) (old : List String) (new : List Anchor) :
    Rewrites (scriptFrom fuel old new) old (new.map Anchor.line) := by
  induction fuel generalizing old new with
  | zero => exact changes_rewrites _ _
  | succ fuel ih =>
    rw [scriptFrom]
    split_ifs with hnone
    · exact changes_rewrites _ _
    set run := longest old new
    have hold := take_append_middle_append_drop old run.left run.size
    have hnew := take_append_middle_append_drop (new.map Anchor.line) run.right run.size
    rw [← (longest_common old new).lines_eq, ← List.map_take, ← List.map_drop] at hnew
    have hscript := (ih (old.take run.left) (new.take run.right)).append
      ((Rewrites.keep ((old.drop run.left).take run.size)).append
        (ih (old.drop (run.left + run.size)) (new.drop (run.right + run.size))))
    rwa [hold, hnew] at hscript

/-! ## Neighbouring runs -/

theorem merge_flatMap (f : Chunk → List String)
    (hf : ∀ lines more, f (.keep (lines ++ more)) = f (.keep lines) ++ f (.keep more))
    (chunks : List Chunk) : (merge chunks).flatMap f = chunks.flatMap f := by
  fun_induction merge chunks with
  | case1 => rfl
  | case2 lines chunks more rest heq ih =>
    rw [List.flatMap_cons, List.flatMap_cons, ← ih, heq, List.flatMap_cons, hf, List.append_assoc]
  | case3 lines chunks _ ih => rw [List.flatMap_cons, List.flatMap_cons, ih]
  | case4 removed added chunks ih => rw [List.flatMap_cons, List.flatMap_cons, ih]

theorem mem_of_mem_merge {chunks : List Chunk} {chunk : Chunk} (h : chunk ∈ merge chunks)
    (hchange : chunk.isKeep = false) : chunk ∈ chunks := by
  fun_induction merge chunks with
  | case1 => cases h
  | case2 lines chunks more rest heq ih =>
    rcases List.mem_cons.mp h with rfl | h
    · cases hchange
    · exact List.mem_cons_of_mem _ (ih (by rw [heq]; exact List.mem_cons_of_mem _ h))
  | case3 lines chunks _ ih =>
    rcases List.mem_cons.mp h with rfl | h
    · cases hchange
    · exact List.mem_cons_of_mem _ (ih h)
  | case4 removed added chunks ih =>
    rcases List.mem_cons.mp h with rfl | h
    · exact List.mem_cons_self
    · exact List.mem_cons_of_mem _ (ih h)

theorem Rewrites.merge {chunks : List Chunk} {old new : List String}
    (h : Rewrites chunks old new) : Rewrites (merge chunks) old new where
  old_eq := (merge_flatMap Chunk.old (fun _ _ => rfl) chunks).trans h.old_eq
  new_eq := (merge_flatMap Chunk.new (fun _ _ => rfl) chunks).trans h.new_eq
  changes chunk hchunk hchange := h.changes chunk (mem_of_mem_merge hchunk hchange) hchange

/-- No two runs of a script stand next to each other. -/
def Separated (chunks : List Chunk) : Prop :=
  chunks.IsChain fun chunk next => chunk.isKeep = false ∨ next.isKeep = false

theorem merge_separated (chunks : List Chunk) : Separated (merge chunks) := by
  unfold Separated
  fun_induction merge chunks with
  | case1 => exact .nil
  | case2 lines chunks more rest heq ih =>
    rw [heq, List.isChain_cons] at ih
    exact List.isChain_cons.mpr ih
  | case3 lines chunks hnot ih =>
    refine List.isChain_cons.mpr ⟨fun next hnext => ?_, ih⟩
    cases next with
    | keep more =>
      obtain ⟨rest, hrest⟩ := List.head?_eq_some_iff.mp hnext
      exact absurd hrest (hnot more rest)
    | change removed added => exact Or.inr rfl
  | case4 removed added chunks ih => exact List.isChain_cons.mpr ⟨fun _ _ => Or.inl rfl, ih⟩

/-! ## Whole scripts -/

theorem map_line_anchors (lines : List String) : (anchors lines).map Anchor.line = lines := by
  rw [anchors, List.map_map]
  exact List.map_id' lines

theorem script_rewrites (old new : List String) :
    Rewrites (script old new) old new ∧ Separated (script old new) := by
  have h := scriptFrom_rewrites (old.length + 1) old (anchors new)
  rw [map_line_anchors] at h
  exact ⟨h.merge, merge_separated _⟩

theorem scriptFrom_nil (fuel : Nat) : scriptFrom fuel [] [] = [] := by
  cases fuel <;> rfl

theorem script_self (lines : List String) :
    script lines lines = [] ∨ script lines lines = [.keep lines] := by
  have hrun : longest lines (anchors lines) = ⟨0, 0, lines.length⟩ := longest_self rfl
  rw [script, scriptFrom, hrun]
  cases lines with
  | nil => exact Or.inl rfl
  | cons line lines =>
    have hnone : (anchors (line :: lines)).drop (line :: lines).length = [] :=
      List.drop_eq_nil_of_le (List.length_map _).le
    simp only [Nat.zero_add, List.take_zero, List.drop_zero, List.take_length, List.drop_length,
      hnone, scriptFrom_nil]
    exact Or.inr rfl

end ExpectError.Diff
