import ExpectError.Diff.Matching
import Mathlib.Data.List.Basic

/-!
# The longest run

The search goes through the places at which a run can end, row by row, and keeps the longest run so
far. `endingLength` is the length of the run that ends at a place, and a row of the search holds
these lengths (`nextRow_rowAt`), so what the search finds is the first of the longest runs
(`FirstLongest`, `longestFrom_first`). Whatever run it is, it lies in both lists with the same
lines, and still does when it has grown (`longest_common`). Of a list and itself the longest run
lies at the same place in both, and grows to the whole list (`longest_self`).
-/

namespace ExpectError.Diff

/-! ## Runs by their ends -/

section Ends

variable (old : List String) (new : List Anchor)

/-- The length of the run that ends behind so many lines and so many anchors. -/
def endingLength : Nat → Nat → Nat
  | i + 1, j + 1 =>
    match old[i]?, new[j]? with
    | some line, some anchor =>
      if anchor.usable && anchor.line = line then endingLength i j + 1 else 0
    | _, _ => 0
  | _, _ => 0

theorem endingLength_zero_right (i : Nat) : endingLength old new i 0 = 0 := by
  cases i <;> rfl

variable {old new}

theorem endingLength_succ {i j : Nat} {line : String} {anchor : Anchor}
    (hline : old[i]? = some line) (hanchor : new[j]? = some anchor) :
    endingLength old new (i + 1) (j + 1) =
      if anchor.usable && anchor.line = line then endingLength old new i j + 1 else 0 := by
  rw [endingLength, hline, hanchor]

variable (old new) in
theorem endingLength_succ_cases (i j : Nat) :
    endingLength old new (i + 1) (j + 1) = 0 ∨
      ∃ anchor, old[i]? = some anchor.line ∧ new[j]? = some anchor ∧ anchor.usable = true ∧
        endingLength old new (i + 1) (j + 1) = endingLength old new i j + 1 := by
  rcases hline : old[i]? with _ | line
  · exact Or.inl (by rw [endingLength, hline])
  rcases hanchor : new[j]? with _ | anchor
  · exact Or.inl (by rw [endingLength, hline, hanchor])
  rw [endingLength_succ hline hanchor]
  split_ifs with h
  · simp only [Bool.and_eq_true, decide_eq_true_eq] at h
    obtain ⟨husable, rfl⟩ := h
    exact Or.inr ⟨anchor, rfl, rfl, husable, rfl⟩
  · exact Or.inl rfl

theorem endingLength_succ_eq_zero {i j : Nat} (h : new.length ≤ j) :
    endingLength old new (i + 1) (j + 1) = 0 := by
  rcases endingLength_succ_cases old new i j with hzero | ⟨anchor, -, hanchor, -⟩
  · exact hzero
  · rw [List.getElem?_eq_none h] at hanchor
    cases hanchor

variable (old new)

/-- The lengths of the runs that end behind so many lines, one for each anchor. -/
def rowAt (i : Nat) : List Nat :=
  (List.range new.length).map fun j => endingLength old new i (j + 1)

theorem rowAt_zero : rowAt old new 0 = new.map fun _ => 0 := by
  simp [rowAt, endingLength, List.map_const']

variable {old}

theorem nextRow_rowAt {i : Nat} {line : String} (hline : old[i]? = some line) :
    nextRow line new (rowAt old new i) = rowAt old new (i + 1) := by
  have hprevious : 0 :: rowAt old new i =
      (List.range (new.length + 1)).map (endingLength old new i) := by
    rw [List.range_succ_eq_map, List.map_cons, endingLength_zero_right, List.map_map]
    rfl
  rw [nextRow, hprevious]
  refine List.ext_getElem (by simp [rowAt]) fun j hj hj' => ?_
  have hlt : j < new.length := by simpa [rowAt] using hj'
  simp only [rowAt, List.getElem_zipWith, List.getElem_map, List.getElem_range]
  rw [endingLength_succ hline (List.getElem?_eq_getElem hlt)]

variable (old)

/-- The run is the first of the longest that end in front of a place: in one of the rows before it,
or in the same row and further to the left. -/
structure FirstLongest (i j : Nat) (run : Run) : Prop where
  longest : ∀ a b, a < i ∨ a = i ∧ b < j → endingLength old new (a + 1) (b + 1) ≤ run.size
  first : run = ⟨0, 0, 0⟩ ∨ ∃ a b, run.left = a + 1 - run.size ∧ run.right = b + 1 - run.size ∧
    0 < run.size ∧ run.size = endingLength old new (a + 1) (b + 1) ∧
    ∀ a' b', a' < a ∨ a' = a ∧ b' < b → endingLength old new (a' + 1) (b' + 1) < run.size

variable {old new}

theorem FirstLongest.step {i j k : Nat} {best : Run} (h : FirstLongest old new i j best)
    (hk : k = endingLength old new (i + 1) (j + 1)) :
    FirstLongest old new i (j + 1)
      (if best.size < k then ⟨i + 1 - k, j + 1 - k, k⟩ else best) := by
  -- the places in front of the next one are those in front of this one, and this one
  have hcases : ∀ a b, a < i ∨ a = i ∧ b < j + 1 → (a < i ∨ a = i ∧ b < j) ∨ a = i ∧ b = j := by
    omega
  split_ifs with hlt
  · refine ⟨fun a b hab => ?_,
      Or.inr ⟨i, j, rfl, rfl, Nat.zero_lt_of_lt hlt, hk, fun a b hab => ?_⟩⟩
    · rcases hcases a b hab with hbefore | ⟨rfl, rfl⟩
      · exact Nat.le_trans (h.longest a b hbefore) (Nat.le_of_lt hlt)
      · exact Nat.le_of_eq hk.symm
    · exact Nat.lt_of_le_of_lt (h.longest a b hab) hlt
  · refine ⟨fun a b hab => ?_, h.first⟩
    rcases hcases a b hab with hbefore | ⟨rfl, rfl⟩
    · exact h.longest a b hbefore
    · omega

theorem improve_first {i : Nat} (m : Nat) {j : Nat} {best : Run}
    (h : FirstLongest old new i j best) :
    FirstLongest old new i (j + m) (improve i j
      ((List.range' j m).map fun b => endingLength old new (i + 1) (b + 1)) best) := by
  induction m generalizing j best with
  | zero => exact h
  | succ m ih =>
    rw [List.range'_succ, List.map_cons, improve, show j + (m + 1) = j + 1 + m by omega]
    exact ih (h.step rfl)

theorem improve_rowAt {i : Nat} {best : Run} (h : FirstLongest old new i 0 best) :
    FirstLongest old new (i + 1) 0 (improve i 0 (rowAt old new (i + 1)) best) := by
  have hrow := improve_first new.length h
  rw [← List.range_eq_range', Nat.zero_add] at hrow
  refine ⟨fun a b hab => ?_, hrow.first⟩
  by_cases hb : b < new.length
  · exact hrow.longest a b (by omega)
  · rw [endingLength_succ_eq_zero (by omega)]
    exact Nat.zero_le _

theorem longestFrom_first_from {i : Nat} {lines : List String} (hlines : lines = old.drop i)
    {best : Run} (h : FirstLongest old new i 0 best) :
    FirstLongest old new (i + lines.length) 0
      (longestFrom new i lines (rowAt old new i) best) := by
  induction lines generalizing i best with
  | nil => exact h
  | cons line lines ih =>
    have hline : old[i]? = some line := by
      rw [← List.head?_drop, ← hlines]
      rfl
    have hrest : lines = old.drop (i + 1) := by
      rw [← List.tail_drop, ← hlines]
      rfl
    rw [longestFrom, nextRow_rowAt new hline, List.length_cons,
      show i + (lines.length + 1) = i + 1 + lines.length by omega]
    exact ih hrest (improve_rowAt h)

variable (old new)

/-- **What the search finds** is the first of the longest runs. -/
theorem longestFrom_first :
    FirstLongest old new old.length 0
      (longestFrom new 0 old (new.map fun _ => 0) ⟨0, 0, 0⟩) := by
  have hnone : FirstLongest old new 0 0 ⟨0, 0, 0⟩ := ⟨by simp, Or.inl rfl⟩
  have hall := longestFrom_first_from (i := 0) rfl hnone
  rwa [rowAt_zero, Nat.zero_add] at hall

end Ends

/-! ## Runs in both lists -/

/-- The run lies in both lists, and its lines are the same there. -/
def Run.Common (run : Run) (old new : List String) : Prop :=
  ∃ before before' lines after after', old = before ++ (lines ++ after) ∧
    new = before' ++ (lines ++ after') ∧ before.length = run.left ∧
    before'.length = run.right ∧ lines.length = run.size

theorem Run.Common.lines_eq {run : Run} {old new : List String} (h : run.Common old new) :
    (old.drop run.left).take run.size = (new.drop run.right).take run.size := by
  obtain ⟨before, before', lines, after, after', rfl, rfl, hleft, hright, hsize⟩ := h
  rw [← hleft, ← hright, ← hsize, List.drop_left, List.drop_left, List.take_left, List.take_left]

theorem exists_endingLength (old : List String) (new : List Anchor) (i j : Nat) :
    ∃ before before' lines, old.take i = before ++ lines ∧
      (new.map Anchor.line).take j = before' ++ lines ∧
      lines.length = endingLength old new i j := by
  have hnone : ∀ i j, endingLength old new i j = 0 → ∃ before before' lines,
      old.take i = before ++ lines ∧ (new.map Anchor.line).take j = before' ++ lines ∧
        lines.length = endingLength old new i j :=
    fun i j h => ⟨_, _, [], (List.append_nil _).symm, (List.append_nil _).symm, h.symm⟩
  induction i generalizing j with
  | zero => exact hnone 0 j rfl
  | succ i ih =>
    cases j with
    | zero => exact hnone (i + 1) 0 rfl
    | succ j =>
      rcases endingLength_succ_cases old new i j with
        hzero | ⟨anchor, hline, hanchor, -, hlength⟩
      · exact hnone _ _ hzero
      · obtain ⟨before, before', lines, hold, hnew, hlines⟩ := ih j
        have hanchor' : (new.map Anchor.line)[j]? = some anchor.line := by
          rw [List.getElem?_map, hanchor]
          rfl
        refine ⟨before, before', lines ++ [anchor.line], ?_, ?_, ?_⟩
        · rw [List.take_add_one, hold, hline, List.append_assoc]
          rfl
        · rw [List.take_add_one, hnew, hanchor', List.append_assoc]
          rfl
        · rw [hlength, List.length_append, hlines]
          rfl

theorem FirstLongest.common {old : List String} {new : List Anchor} {i j : Nat} {run : Run}
    (h : FirstLongest old new i j run) : run.Common old (new.map Anchor.line) := by
  rcases h.first with rfl | ⟨a, b, hleft, hright, hpos, hsize, -⟩
  · exact ⟨[], [], [], old, new.map Anchor.line, rfl, rfl, rfl, rfl, rfl⟩
  · obtain ⟨before, before', lines, hold, hnew, hlines⟩ :=
      exists_endingLength old new (a + 1) (b + 1)
    rcases endingLength_succ_cases old new a b with
      hzero | ⟨anchor, hline, hanchor, -, -⟩
    · omega
    have ha : a < old.length := (List.getElem?_eq_some_iff.mp hline).1
    have hb : b < new.length := (List.getElem?_eq_some_iff.mp hanchor).1
    have hlength := congrArg List.length hold
    have hlength' := congrArg List.length hnew
    simp only [List.length_take, List.length_append, List.length_map] at hlength hlength'
    refine ⟨before, before', lines, old.drop (a + 1), (new.map Anchor.line).drop (b + 1), ?_, ?_,
      by omega, by omega, by omega⟩
    · rw [← List.append_assoc, ← hold, List.take_append_drop]
    · rw [← List.append_assoc, ← hnew, List.take_append_drop]

theorem exists_commonLength (old new : List String) :
    ∃ lines rest rest', old = lines ++ rest ∧ new = lines ++ rest' ∧
      lines.length = commonLength old new := by
  fun_induction commonLength old new with
  | case1 as line bs ih =>
    obtain ⟨lines, rest, rest', rfl, rfl, hlength⟩ := ih
    exact ⟨line :: lines, rest, rest', rfl, rfl, by rw [List.length_cons, hlength]⟩
  | case2 a as b bs => exact ⟨[], _, _, rfl, rfl, rfl⟩
  | case3 old new => exact ⟨[], old, new, rfl, rfl, rfl⟩

theorem commonLength_self (lines : List String) : commonLength lines lines = lines.length := by
  induction lines with
  | nil => rfl
  | cons line lines ih => rw [commonLength, if_pos rfl, ih, List.length_cons]

theorem Run.Common.grow {run : Run} {old new : List String} (h : run.Common old new) :
    (run.grow old new).Common old new := by
  obtain ⟨before, before', lines, after, after', rfl, rfl, hleft, hright, hsize⟩ := h
  obtain ⟨back, far, far', hback, hback', hbackLength⟩ :=
    exists_commonLength before.reverse before'.reverse
  obtain ⟨ahead, rest, rest', rfl, rfl, haheadLength⟩ := exists_commonLength after after'
  obtain rfl : before = far.reverse ++ back.reverse := by
    rw [← List.reverse_append, ← hback, List.reverse_reverse]
  obtain rfl : before' = far'.reverse ++ back.reverse := by
    rw [← List.reverse_append, ← hback', List.reverse_reverse]
  have hdrop : ∀ {n : Nat} {front middle tail : List String}, front.length = n →
      (front ++ (middle ++ tail)).drop (n + middle.length) = tail := by
    rintro _ front middle tail rfl
    rw [← List.append_assoc, ← List.length_append, List.drop_left]
  refine ⟨far.reverse, far'.reverse, back.reverse ++ (lines ++ ahead), rest, rest', ?_, ?_, ?_⟩
  · simp only [List.append_assoc]
  · simp only [List.append_assoc]
  · simp only [Run.grow, List.take_left' hleft, List.take_left' hright, ← hsize, hdrop hleft,
      hdrop hright, ← hbackLength, ← haheadLength]
    simp only [List.length_append, List.length_reverse] at hleft hright ⊢
    omega

/-- **The longest run** lies in both lists, with the same lines. -/
theorem longest_common (old : List String) (new : List Anchor) :
    (longest old new).Common old (new.map Anchor.line) :=
  (longestFrom_first old new).common.grow

/-! ## A list and itself -/

section Self

variable {old : List String} {usable : String → Bool} {new : List Anchor}
  (hnew : new = old.map fun line => ⟨line, usable line⟩)

include hnew

theorem endingLength_le_diagonal (i j : Nat) :
    endingLength old new i j ≤ endingLength old new i i ∧
      endingLength old new i j ≤ endingLength old new j j := by
  induction i generalizing j with
  | zero => exact ⟨Nat.zero_le _, Nat.zero_le _⟩
  | succ i ih =>
    cases j with
    | zero => exact ⟨Nat.zero_le _, Nat.zero_le _⟩
    | succ j =>
      rcases endingLength_succ_cases old new i j with
        hzero | ⟨anchor, hline, hanchor, husable, hlength⟩
      · rw [hzero]
        exact ⟨Nat.zero_le _, Nat.zero_le _⟩
      -- the anchor is that of the line, here and there
      have hat : ∀ k : Nat, new[k]? = old[k]?.map fun line => Anchor.mk line (usable line) := by
        intro k
        rw [hnew, List.getElem?_map]
      have hline' : old[j]? = some anchor.line := by
        rw [hat] at hanchor
        obtain ⟨line, hj, rfl⟩ := Option.map_eq_some_iff.mp hanchor
        exact hj
      have hself : ∀ k, old[k]? = some anchor.line →
          endingLength old new (k + 1) (k + 1) = endingLength old new k k + 1 := by
        intro k hk
        have hsame : new[k]? = some anchor := by rw [hat, hk, ← hline', ← hat, hanchor]
        rw [endingLength_succ hk hsame, husable]
        simp
      obtain ⟨hi, hj⟩ := ih j
      rw [hlength, hself i hline, hself j hline']
      exact ⟨Nat.succ_le_succ hi, Nat.succ_le_succ hj⟩

theorem FirstLongest.diagonal {i j : Nat} {run : Run} (h : FirstLongest old new i j run) :
    run.left = run.right := by
  rcases h.first with rfl | ⟨a, b, hleft, hright, -, hsize, hfirst⟩
  · rfl
  · -- a run as long that ends at one place in both does not come before this one
    obtain ⟨ha, hb⟩ := endingLength_le_diagonal hnew (a + 1) (b + 1)
    have hle : ¬ a < b := fun hlt => by
      have := hfirst a a (by omega)
      omega
    have hge : ¬ b < a := fun hlt => by
      have := hfirst b b (by omega)
      omega
    obtain rfl : a = b := by omega
    rw [hleft, hright]

theorem longest_self : longest old new = ⟨0, 0, old.length⟩ := by
  have hlines : new.map Anchor.line = old := by
    rw [hnew, List.map_map]
    exact List.map_id' old
  have hfirst := longestFrom_first old new
  have hcommon := hfirst.common
  rw [hlines] at hcommon
  obtain ⟨before, _, lines, after, _, hold, -, hleft, -, hsize⟩ := hcommon
  have hlength := congrArg List.length hold
  simp only [List.length_append, hleft, hsize] at hlength
  rw [longest, hlines, Run.grow, ← hfirst.diagonal hnew, commonLength_self, commonLength_self,
    List.length_reverse, List.length_take, List.length_drop, Run.mk.injEq]
  omega

end Self

end ExpectError.Diff
