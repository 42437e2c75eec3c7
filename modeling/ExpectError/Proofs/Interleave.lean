import ExpectError.Mutation
import Mathlib.Tactic

/-!
# Lines with blocks in front of them

`interleave front first items` is the list in which `front n` stands in front of item number `n`.
It is what a file looks like once the blocks of a list of edits are in place, and it is said without
any insertion into a list that is already changed. The statements below tell where the items have
gone: item number `n` is number `landing size edits n` of the result (`itemAt_interleave`), and what
stands right above it is the end of its own block, or else the item that was there before
(`itemAt_above_edit`, `itemAt_above_free`).
-/

namespace ExpectError

variable {α : Type}

/-! ## Items by their number -/

/-- The item of a number; the first has the number one. -/
def itemAt (items : List α) (n : Int) : Option α :=
  if n < 1 then none else items[(n - 1).toNat]?

theorem itemAt_eq_none_iff {items : List α} {n : Int} :
    itemAt items n = none ↔ n < 1 ∨ items.length < n := by
  unfold itemAt
  split_ifs with h
  · simp [h]
  · rw [List.getElem?_eq_none_iff]
    omega

theorem itemAt_bounds {items : List α} {n : Int} {item : α} (h : itemAt items n = some item) :
    1 ≤ n ∧ n ≤ items.length := by
  have hne : ¬ (n < 1 ∨ items.length < n) := by
    rw [← @itemAt_eq_none_iff α items n, h]
    simp
  omega

theorem exists_itemAt {items : List α} {n : Int} (hlow : 1 ≤ n) (hhigh : n ≤ items.length) :
    ∃ item, itemAt items n = some item := by
  rw [← Option.ne_none_iff_exists', Ne, itemAt_eq_none_iff]
  omega

theorem itemAt_append_left {items more : List α} {n : Int} (h : n ≤ items.length) :
    itemAt (items ++ more) n = itemAt items n := by
  unfold itemAt
  split_ifs with hlow
  · rfl
  · rw [List.getElem?_append_left (by omega)]

theorem itemAt_append_right {items more : List α} {n : Int} (h : items.length < n) :
    itemAt (items ++ more) n = itemAt more (n - items.length) := by
  unfold itemAt
  rw [if_neg (by omega), if_neg (by omega), List.getElem?_append_right (by omega)]
  congr 1
  omega

theorem itemAt_take {items : List α} {k : Nat} {n : Int} (h : n ≤ k) :
    itemAt (items.take k) n = itemAt items n := by
  unfold itemAt
  split_ifs with hlow
  · rfl
  · rw [List.getElem?_take_of_lt (by omega)]

theorem drop_eq_cons_of_itemAt {items : List α} {n : Int} {item : α}
    (h : itemAt items n = some item) : items.drop (n - 1).toNat = item :: items.drop n.toNat := by
  have hb := itemAt_bounds h
  have hi : (n - 1).toNat < items.length := by omega
  have hget : items[(n - 1).toNat] = item := by
    rw [itemAt, if_neg (by omega), List.getElem?_eq_getElem hi] at h
    exact Option.some.inj h
  have hn : n.toNat = (n - 1).toNat + 1 := by omega
  rw [hn, ← hget, List.getElem_cons_drop]

theorem eq_take_append_drop_of_itemAt {items : List α} {n : Int} {item : α}
    (h : itemAt items n = some item) :
    items = items.take (n - 1).toNat ++ item :: items.drop n.toNat := by
  rw [← drop_eq_cons_of_itemAt h, List.take_append_drop]

theorem itemAt_mapIdx {β : Type} (f : Nat → α → β) (items : List α) (n : Int) :
    itemAt (items.mapIdx f) n = (itemAt items n).map (f (n - 1).toNat) := by
  unfold itemAt
  split_ifs
  · rfl
  · rw [List.getElem?_mapIdx]

/-! ## Interleaving -/

/-- The items with others in front of each: `front n` goes in front of item number `n`. The first
item has the number `first`. -/
def interleave (front : Int → List α) : Int → List α → List α
  | _, [] => []
  | first, item :: items => front first ++ item :: interleave front (first + 1) items

theorem interleave_append (front : Int → List α) (first : Int) (items more : List α) :
    interleave front first (items ++ more) =
      interleave front first items ++ interleave front (first + items.length) more := by
  induction items generalizing first with
  | nil => simp [interleave]
  | cons item items ih =>
    have hlen : first + 1 + items.length = first + (item :: items).length := by
      rw [List.length_cons]
      omega
    rw [List.cons_append, interleave, ih, hlen, interleave, List.append_assoc, List.cons_append]

theorem interleave_congr {front front' : Int → List α} {first : Int} {items : List α}
    (h : ∀ n, first ≤ n → n < first + items.length → front n = front' n) :
    interleave front first items = interleave front' first items := by
  induction items generalizing first with
  | nil => rfl
  | cons item items ih =>
    simp only [List.length_cons] at h
    rw [interleave, interleave, h first (le_refl _) (by omega),
      ih fun n hlow hhigh => h n (by omega) (by push_cast; omega)]

theorem interleave_eq_self {front : Int → List α} {first : Int} {items : List α}
    (h : ∀ n, first ≤ n → n < first + items.length → front n = []) :
    interleave front first items = items := by
  induction items generalizing first with
  | nil => rfl
  | cons item items ih =>
    simp only [List.length_cons] at h
    rw [interleave, h first (le_refl _) (by omega),
      ih fun n hlow hhigh => h n (by omega) (by push_cast; omega), List.nil_append]

theorem take_interleave {front : Int → List α} {first : Int} {items : List α} {k : Nat}
    (h : ∀ n, first ≤ n → n < first + k → front n = []) :
    (interleave front first items).take k = items.take k := by
  induction items generalizing first k with
  | nil => rfl
  | cons item items ih =>
    cases k with
    | zero => rfl
    | succ k =>
      rw [interleave, h first le_rfl (by omega), List.nil_append, List.take_succ_cons,
        List.take_succ_cons, ih fun n hlow hhigh => h n (by omega) (by push_cast; omega)]

theorem interleave_split {front : Int → List α} {items : List α} {n : Int} {item : α}
    (h : itemAt items n = some item) :
    interleave front 1 items =
      interleave front 1 (items.take (n - 1).toNat) ++ front n ++
        item :: interleave front (n + 1) (items.drop n.toNat) := by
  have hb := itemAt_bounds h
  have hlen : (1 : Int) + (items.take (n - 1).toNat).length = n := by
    rw [List.length_take]
    omega
  conv_lhs => rw [eq_take_append_drop_of_itemAt h]
  rw [interleave_append, interleave, hlen, List.append_assoc]

theorem map_interleave {β : Type} (f : α → β) (front : Int → List α) (first : Int)
    (items : List α) :
    (interleave front first items).map f =
      interleave (fun n => (front n).map f) first (items.map f) := by
  induction items generalizing first with
  | nil => rfl
  | cons item items ih => simp [interleave, ih]

theorem mem_interleave {front : Int → List α} {first : Int} {items : List α} {x : α}
    (h : x ∈ interleave front first items) : x ∈ items ∨ ∃ n, x ∈ front n := by
  induction items generalizing first with
  | nil => simp [interleave] at h
  | cons item items ih =>
    rw [interleave, List.mem_append, List.mem_cons] at h
    rcases h with h | rfl | h
    · exact Or.inr ⟨first, h⟩
    · exact Or.inl List.mem_cons_self
    · exact (ih h).imp_left (List.mem_cons_of_mem _)

theorem interleave_ne_nil {front : Int → List α} {first : Int} {items : List α}
    (h : items ≠ []) : interleave front first items ≠ [] := by
  obtain ⟨item, rest, rfl⟩ := List.exists_cons_of_ne_nil h
  simp [interleave]

theorem mem_dropLast_interleave {front : Int → List α} {first : Int} {items : List α}
    {x : α} (h : x ∈ items.dropLast) : x ∈ (interleave front first items).dropLast := by
  induction items generalizing first with
  | nil => simp at h
  | cons item items ih =>
    cases items with
    | nil => simp at h
    | cons next more =>
      have hne : interleave front (first + 1) (next :: more) ≠ [] :=
        interleave_ne_nil (List.cons_ne_nil next more)
      rw [List.dropLast_cons_of_ne_nil (List.cons_ne_nil _ _), List.mem_cons] at h
      rw [interleave, List.dropLast_append_of_ne_nil (List.cons_ne_nil _ _),
        List.dropLast_cons_of_ne_nil hne, List.mem_append, List.mem_cons]
      rcases h with rfl | h
      · exact Or.inr (Or.inl rfl)
      · exact Or.inr (Or.inr (ih h))

theorem le_length_interleave (front : Int → List α) (first : Int) (items : List α) :
    items.length ≤ (interleave front first items).length := by
  induction items generalizing first with
  | nil => simp
  | cons item items ih =>
    have hi := ih (first + 1)
    rw [interleave, List.length_append, List.length_cons, List.length_cons]
    omega

theorem interleave_interleave {front front' : Int → List α} {first : Int}
    {items : List α} (h : ∀ n, front' n ≠ [] → ∀ k ≤ n, front k = []) :
    interleave front' first (interleave front first items) =
      interleave (fun n => front' n ++ front n) first items := by
  induction items generalizing first with
  | nil => rfl
  | cons item items ih =>
    by_cases hfront : front first = []
    · rw [interleave, interleave, hfront, List.append_nil, List.nil_append, interleave, ih]
    · -- from the first block on, the second layer is empty
      have hfree : ∀ n, first ≤ n → front' n = [] := fun n hn => by
        by_contra hne
        exact hfront (h n hne first hn)
      rw [interleave_eq_self fun n hn _ => hfree n hn]
      exact interleave_congr fun n hn _ => by rw [hfree n hn, List.nil_append]

/-! ## The blocks of edits -/

/-- The items are in strictly descending order of their lines. -/
def Descending (line : α → Int) (items : List α) : Prop :=
  items.Pairwise fun a b => line b < line a

theorem descending_append {edits more : List Edit} :
    Descending Edit.line (edits ++ more) ↔ Descending Edit.line edits ∧
      Descending Edit.line more ∧ ∀ e ∈ edits, ∀ e' ∈ more, e'.line < e.line :=
  List.pairwise_append

/-- What stands in front of a line: the block of the edit at that line, in some rendering, and
nothing if there is no such edit. -/
def frontAt (render : Edit → List α) (edits : List Edit) (n : Int) : List α :=
  match edits.find? fun e => e.line = n with
  | some edit => render edit
  | none => []

/-- The number of a line once the blocks of edits stand in front of their lines. A block takes
`size` lines. -/
def landing (size : Edit → Nat) (edits : List Edit) (n : Int) : Int :=
  n + ((edits.filter fun e => e.line ≤ n).map size).sum

section Fronts

variable {render : Edit → List α} {edits : List Edit}

@[simp] theorem frontAt_nil (n : Int) : frontAt render [] n = [] := rfl

theorem frontAt_cons (edit : Edit) (n : Int) :
    frontAt render (edit :: edits) n =
      if edit.line = n then render edit else frontAt render edits n := by
  by_cases h : edit.line = n <;> simp [frontAt, h]

theorem frontAt_eq_nil {n : Int} (h : ∀ e ∈ edits, e.line ≠ n) : frontAt render edits n = [] := by
  induction edits with
  | nil => rfl
  | cons edit edits ih =>
    rw [frontAt_cons, if_neg (h edit (by simp)), ih fun e he => h e (by simp [he])]

theorem frontAt_line {edit : Edit} (hdesc : Descending Edit.line edits) (hmem : edit ∈ edits) :
    frontAt render edits edit.line = render edit := by
  induction edits with
  | nil => simp at hmem
  | cons first edits ih =>
    obtain ⟨hfirst, hrest⟩ := List.pairwise_cons.mp hdesc
    rw [frontAt_cons]
    rcases List.mem_cons.mp hmem with rfl | hmem
    · rw [if_pos rfl]
    · have hlt := hfirst edit hmem
      rw [if_neg (by omega), ih hrest hmem]

theorem mem_frontAt {n : Int} {x : α} (h : x ∈ frontAt render edits n) :
    ∃ edit ∈ edits, x ∈ render edit := by
  unfold frontAt at h
  split at h
  · next edit hfind => exact ⟨edit, List.mem_of_find?_eq_some hfind, h⟩
  · simp at h

theorem map_frontAt {β : Type} (f : α → β) (n : Int) :
    (frontAt render edits n).map f = frontAt (fun e => (render e).map f) edits n := by
  unfold frontAt
  split <;> rfl

end Fronts

theorem interleave_insertAt {edit : Edit} {edits : List Edit} {lines : List String}
    {target : String} (htarget : itemAt lines edit.line = some target)
    (hbelow : ∀ e ∈ edits, e.line < edit.line) :
    interleave (frontAt Edit.block edits) 1 (insertAt lines (edit.line - 1).toNat edit.block) =
      interleave (frontAt Edit.block (edit :: edits)) 1 lines := by
  have hb := itemAt_bounds htarget
  have hlen : (1 : Int) + (lines.take (edit.line - 1).toNat).length = edit.line := by
    rw [List.length_take]
    omega
  have hnil : ∀ n, edit.line ≤ n → frontAt Edit.block edits n = [] := fun n hn =>
    frontAt_eq_nil fun e he => by have := hbelow e he; omega
  have hfront : interleave (frontAt Edit.block (edit :: edits)) 1
      (lines.take (edit.line - 1).toNat) =
        interleave (frontAt Edit.block edits) 1 (lines.take (edit.line - 1).toNat) :=
    interleave_congr fun n _ hn => by rw [frontAt_cons, if_neg (by omega)]
  have hrest : interleave (frontAt Edit.block (edit :: edits)) (edit.line + 1)
      (lines.drop edit.line.toNat) = lines.drop edit.line.toNat :=
    interleave_eq_self fun n hn _ => by
      rw [frontAt_cons, if_neg (by omega), hnil n (by omega)]
  -- everything from the block on stays as it is, and so do the lines above it
  calc interleave (frontAt Edit.block edits) 1 (insertAt lines (edit.line - 1).toNat edit.block)
      = interleave (frontAt Edit.block edits) 1 (lines.take (edit.line - 1).toNat) ++
          (edit.block ++ lines.drop (edit.line - 1).toNat) := by
        rw [insertAt, List.append_assoc, interleave_append, hlen,
          interleave_eq_self fun n hn _ => hnil n hn]
    _ = interleave (frontAt Edit.block (edit :: edits)) 1 (lines.take (edit.line - 1).toNat) ++
          edit.block ++ target :: lines.drop edit.line.toNat := by
        rw [hfront, List.append_assoc, drop_eq_cons_of_itemAt htarget]
    _ = interleave (frontAt Edit.block (edit :: edits)) 1 lines := by
        rw [interleave_split htarget, hrest, frontAt_cons, if_pos rfl]

theorem le_landing (size : Edit → Nat) (edits : List Edit) (n : Int) :
    n ≤ landing size edits n := by
  unfold landing
  omega

theorem landing_eq_self {size : Edit → Nat} {edits : List Edit} {n : Int}
    (h : ∀ e ∈ edits, n < e.line) : landing size edits n = n := by
  have hnone : (edits.filter fun e => e.line ≤ n) = [] := by
    rw [List.filter_eq_nil_iff]
    intro e he
    have := h e he
    simp only [decide_eq_true_eq]
    omega
  simp [landing, hnone]

theorem landing_eq_self_iff {size : Edit → Nat} {edits : List Edit}
    (hsize : ∀ e ∈ edits, 0 < size e) {n : Int} :
    landing size edits n = n ↔ ∀ e ∈ edits, n < e.line := by
  refine ⟨fun h e he => ?_, landing_eq_self⟩
  by_contra hle
  have hmem : size e ∈ (edits.filter fun e => e.line ≤ n).map size :=
    List.mem_map_of_mem (List.mem_filter.mpr ⟨he, by simpa using hle⟩)
  have hpos := List.le_sum_of_mem hmem
  have := hsize e he
  unfold landing at h
  omega

theorem landing_lt_landing (size : Edit → Nat) (edits : List Edit) {n m : Int} (h : n < m) :
    landing size edits n < landing size edits m := by
  have hsub : (edits.filter fun e => e.line ≤ n).Sublist (edits.filter fun e => e.line ≤ m) :=
    List.monotone_filter_right _ fun e he => by
      simp only [decide_eq_true_eq] at he ⊢
      omega
  have hle := (hsub.map size).sum_le_sum fun _ _ => Nat.zero_le _
  unfold landing
  omega

section Landing

variable (render : Edit → List α) {edits : List Edit} (hdesc : Descending Edit.line edits)

include hdesc

theorem landing_succ (n : Int) :
    landing (fun e => (render e).length) edits (n + 1) =
      landing (fun e => (render e).length) edits n + (frontAt render edits (n + 1)).length + 1 := by
  induction edits with
  | nil => simp [landing]
  | cons edit edits ih =>
    obtain ⟨hfirst, hrest⟩ := List.pairwise_cons.mp hdesc
    have hi := ih hrest
    unfold landing at hi ⊢
    rw [frontAt_cons]
    rcases lt_trichotomy edit.line (n + 1) with h | h | h
    · rw [List.filter_cons_of_pos (by simp; omega), List.filter_cons_of_pos (by simp; omega),
        if_neg (by omega)]
      simp only [List.map_cons, List.sum_cons]
      push_cast at hi ⊢
      omega
    · -- no other edit has this line
      have hnone : frontAt render edits (n + 1) = [] :=
        frontAt_eq_nil fun e he => by have := hfirst e he; omega
      rw [List.filter_cons_of_pos (by simp; omega), List.filter_cons_of_neg (by simp; omega),
        if_pos h]
      rw [hnone] at hi
      simp only [List.map_cons, List.sum_cons, List.length_nil] at hi ⊢
      push_cast at hi ⊢
      omega
    · rw [List.filter_cons_of_neg (by simp; omega), List.filter_cons_of_neg (by simp; omega),
        if_neg (by omega)]
      exact hi

variable (hpos : ∀ e ∈ edits, 1 ≤ e.line)

include hpos

theorem length_interleave (items : List α) :
    ((interleave (frontAt render edits) 1 items).length : Int) =
      landing (fun e => (render e).length) edits items.length := by
  induction items using List.reverseRecOn with
  | nil =>
    rw [List.length_nil, Nat.cast_zero,
      landing_eq_self fun e he => by have := hpos e he; omega]
    rfl
  | append_singleton items item ih =>
    have hs := landing_succ render hdesc items.length
    rw [interleave_append, List.length_append, List.length_append]
    simp only [interleave, List.length_append, List.length_cons, List.length_nil]
    rw [add_comm (1 : Int)]
    push_cast at hs ⊢
    omega

theorem length_interleave_before {items : List α} {n : Int} (hlow : 1 ≤ n)
    (hhigh : n ≤ items.length) :
    ((interleave (frontAt render edits) 1 (items.take (n - 1).toNat) ++
        frontAt render edits n).length : Int) =
      landing (fun e => (render e).length) edits n - 1 := by
  have hlen : ((items.take (n - 1).toNat).length : Int) = n - 1 := by
    rw [List.length_take]
    omega
  have hs := landing_succ render hdesc (n - 1)
  rw [sub_add_cancel] at hs
  rw [List.length_append, Nat.cast_add, length_interleave render hdesc hpos, hlen]
  omega

theorem drop_landing {items : List α} {n : Int} {item : α} (h : itemAt items n = some item) :
    (interleave (frontAt render edits) 1 items).drop
        (landing (fun e => (render e).length) edits n - 1).toNat =
      item :: interleave (frontAt render edits) (n + 1) (items.drop n.toNat) := by
  obtain ⟨hlow, hhigh⟩ := itemAt_bounds h
  have hlen := length_interleave_before render hdesc hpos hlow hhigh
  rw [interleave_split h]
  exact List.drop_left' (by omega)

/-- **Where an item goes.** The item of a number is found at the number where it lands. -/
theorem itemAt_interleave {items : List α} {n : Int} (hlow : 1 ≤ n) (hhigh : n ≤ items.length) :
    itemAt (interleave (frontAt render edits) 1 items)
        (landing (fun e => (render e).length) edits n) = itemAt items n := by
  obtain ⟨item, hitem⟩ := exists_itemAt hlow hhigh
  have hlen := length_interleave_before render hdesc hpos hlow hhigh
  rw [interleave_split hitem, itemAt_append_right (by omega), hlen, hitem, sub_sub_cancel]
  rfl

theorem itemAt_above_edit {items body : List α} {last : α} {n : Int} (hlow : 1 ≤ n)
    (hhigh : n ≤ items.length) (hfront : frontAt render edits n = body ++ [last]) :
    itemAt (interleave (frontAt render edits) 1 items)
        (landing (fun e => (render e).length) edits n - 1) = some last := by
  obtain ⟨item, hitem⟩ := exists_itemAt hlow hhigh
  have hlen := length_interleave_before render hdesc hpos hlow hhigh
  rw [hfront, ← List.append_assoc, List.length_append, List.length_singleton] at hlen
  have hone : landing (fun e => (render e).length) edits n - 1 -
      (interleave (frontAt render edits) 1 (items.take (n - 1).toNat) ++ body).length = 1 := by
    push_cast at hlen
    omega
  rw [interleave_split hitem, hfront, ← List.append_assoc,
    itemAt_append_left (by rw [List.length_append, List.length_singleton]; omega),
    itemAt_append_right (by omega), hone]
  rfl

theorem itemAt_above_free {items : List α} {n : Int} (hlow : 2 ≤ n) (hhigh : n ≤ items.length)
    (hfront : frontAt render edits n = []) :
    itemAt (interleave (frontAt render edits) 1 items)
        (landing (fun e => (render e).length) edits n - 1) = itemAt items (n - 1) := by
  have hs := landing_succ render hdesc (n - 1)
  rw [sub_add_cancel, hfront, List.length_nil] at hs
  rw [← itemAt_interleave render hdesc hpos (by omega) (by omega : n - 1 ≤ items.length)]
  congr 1
  push_cast at hs
  omega

end Landing

end ExpectError
