import ExpectError.Random.Sample
import Mathlib.Data.Fintype.Basic
import Mathlib.Data.List.FinRange
import Mathlib.Data.List.Perm.Basic
import Mathlib.Data.List.Perm.Subperm
import Mathlib.Logic.Function.Iterate
import Mathlib.Tactic

/-!
# Samples by position

A sample is a choice of places in the list, no place twice, whatever words the source gives. The
pool keeps the places that are still free: to take one out and to move the last one into the gap is
to erase it, up to order (`perm_cons_moveLast`), so what is drawn is a part of the pool
(`fromPool_subperm`). Places drawn from a range avoid those that are taken (`fromRange_fresh`). Both
branches agree in what they promise (`positions_distinct`).

A draw comes to its end if the source sooner or later gives each number that is asked for
(`drawUntil_isSome_iff`, `positions_isSome`).
-/

namespace ExpectError.Random

open scoped List

variable {α σ : Type} {draw : WordSource σ}

/-! ## Numbers until one will do -/

/-- The number of so many bits that the source gives when some such numbers have been passed
over. -/
def upcoming (draw : WordSource σ) (count passed : Nat) (state : σ) : Nat :=
  (bits draw count ((fun state => (bits draw count state).2)^[passed] state)).1

/-- Whether the source sooner or later gives each number below a bound, whatever its state is. -/
def Gives (draw : WordSource σ) (bound : Nat) : Prop :=
  ∀ value < bound, ∀ state, ∃ passed, upcoming draw (bound.log2 + 1) passed state = value

section Until

variable {accept : Nat → Bool} {bound : Nat} {state : σ}

theorem drawUntil_usable {value : Nat} {state' : σ}
    (h : draw.drawUntil accept bound state = some (value, state')) :
    value < bound ∧ accept value = true := by
  refine WordSource.drawUntil.partial_correctness draw accept bound
    (fun _ drawn => drawn.1 < bound ∧ accept drawn.1 = true) ?_ state (value, state') h
  intro rest ih state drawn hstep
  dsimp only at hstep
  split_ifs at hstep with husable
  · obtain rfl := Option.some.inj hstep
    simpa using husable
  · exact ih _ _ hstep

theorem drawUntil_isSome_iff :
    (draw.drawUntil accept bound state).isSome ↔ ∃ passed,
      upcoming draw (bound.log2 + 1) passed state < bound ∧
        accept (upcoming draw (bound.log2 + 1) passed state) = true := by
  constructor
  · intro h
    obtain ⟨drawn, hdrawn⟩ := Option.isSome_iff_exists.mp h
    refine WordSource.drawUntil.partial_correctness draw accept bound
      (fun state _ => ∃ passed, upcoming draw (bound.log2 + 1) passed state < bound ∧
        accept (upcoming draw (bound.log2 + 1) passed state) = true) ?_ state drawn hdrawn
    intro rest ih state drawn hstep
    dsimp only at hstep
    split_ifs at hstep with husable
    · exact ⟨0, by simpa [upcoming] using husable⟩
    · obtain ⟨passed, hpassed⟩ := ih _ _ hstep
      exact ⟨passed + 1, hpassed⟩
  · rintro ⟨passed, hpassed⟩
    induction passed generalizing state with
    | zero =>
      have husable : ((bits draw (bound.log2 + 1) state).1 < bound &&
          accept (bits draw (bound.log2 + 1) state).1) = true := by
        simpa [upcoming] using hpassed
      rw [WordSource.drawUntil]
      simp only [husable, if_true, Option.isSome_some]
    | succ passed ih =>
      rw [WordSource.drawUntil]
      dsimp only
      split_ifs
      · rfl
      · exact ih hpassed

theorem drawUntil_isSome (hgives : Gives draw bound) {value : Nat} (hvalue : value < bound)
    (haccept : accept value = true) : (draw.drawUntil accept bound state).isSome := by
  obtain ⟨passed, hpassed⟩ := hgives value hvalue state
  rw [drawUntil_isSome_iff]
  exact ⟨passed, hpassed ▸ ⟨hvalue, haccept⟩⟩

end Until

/-! ## Places from a pool -/

theorem perm_cons_moveLast {pool : List α} {j : Nat} {item last : α} (hitem : pool[j]? = some item)
    (hlast : pool.getLast? = some last) : pool ~ item :: (pool.set j last).dropLast := by
  obtain ⟨hj, rfl⟩ := List.getElem?_eq_some_iff.mp hitem
  have hend : (pool.set j last).getLast? = some last := by
    rw [List.getLast?_eq_getElem?] at hlast ⊢
    rw [List.length_set, List.getElem?_set]
    split_ifs
    · rfl
    · exact hlast
  have hrest : (pool.set j last).dropLast ~ pool.eraseIdx j := by
    refine List.Perm.cons_inv (a := last) ?_
    calc last :: (pool.set j last).dropLast
      _ ~ (pool.set j last).dropLast ++ [last] := (List.perm_append_singleton _ _).symm
      _ = pool.set j last := List.dropLast_append_getLast? last hend
      _ ~ last :: pool.eraseIdx j := List.set_perm_cons_eraseIdx hj last
  exact (List.getElem_cons_eraseIdx_perm hj).symm.trans (hrest.symm.cons _)

theorem fromPool_subperm {count : Nat} {pool picked : List Nat} {state state' : σ}
    (h : fromPool draw count pool state = some (picked, state')) :
    picked.length = count ∧ picked.Subperm pool := by
  induction count generalizing pool picked state state' with
  | zero =>
    obtain ⟨rfl, -⟩ := Prod.mk.inj (Option.some.inj h)
    exact ⟨rfl, List.nil_subperm⟩
  | succ count ih =>
    simp only [fromPool, Option.bind_eq_bind, Option.bind_eq_some_iff] at h
    obtain ⟨⟨j, middle⟩, -, position, hposition, last, hlast, ⟨rest, state''⟩, hrest, hpicked⟩ := h
    obtain ⟨rfl, -⟩ := Prod.mk.inj (Option.some.inj hpicked)
    obtain ⟨hlength, hsub⟩ := ih hrest
    refine ⟨by rw [List.length_cons, hlength], ?_⟩
    exact ((List.subperm_cons position).mpr hsub).trans
      (perm_cons_moveLast hposition hlast).symm.subperm

theorem fromPool_isSome {count : Nat} {pool : List Nat} {state : σ}
    (hgives : ∀ bound ≤ pool.length, Gives draw bound) (hcount : count ≤ pool.length) :
    (fromPool draw count pool state).isSome := by
  induction count generalizing pool state with
  | zero => rfl
  | succ count ih =>
    have hpos : 0 < pool.length := by omega
    obtain ⟨⟨j, middle⟩, hdrawn⟩ :
        ∃ drawn, draw.drawUntil (fun _ => true) pool.length state = some drawn :=
      Option.isSome_iff_exists.mp (drawUntil_isSome (hgives _ le_rfl) hpos rfl)
    have hj : j < pool.length := (drawUntil_usable hdrawn).1
    obtain ⟨last, hlast⟩ : ∃ last, pool.getLast? = some last :=
      ⟨_, List.getLast?_eq_some_getLast (List.ne_nil_of_length_pos hpos)⟩
    have hlength : (pool.set j last).dropLast.length = pool.length - 1 := by
      rw [List.length_dropLast, List.length_set]
    obtain ⟨⟨rest, state''⟩, hrest⟩ :
        ∃ drawn, fromPool draw count (pool.set j last).dropLast middle = some drawn :=
      Option.isSome_iff_exists.mp (ih (fun bound hbound => hgives bound (by omega)) (by omega))
    simp only [fromPool, hdrawn, Option.bind_eq_bind, Option.bind_some, List.getElem?_eq_getElem hj,
      hlast, hrest]
    rfl

/-! ## Places from a range -/

theorem fromRange_fresh {bound count : Nat} {taken picked : List Nat} {state state' : σ}
    (h : fromRange draw bound count taken state = some (picked, state')) :
    picked.length = count ∧ picked.Nodup ∧ ∀ place ∈ picked, place < bound ∧ place ∉ taken := by
  induction count generalizing taken picked state state' with
  | zero =>
    obtain ⟨rfl, -⟩ := Prod.mk.inj (Option.some.inj h)
    exact ⟨rfl, List.nodup_nil, by simp⟩
  | succ count ih =>
    simp only [fromRange, Option.bind_eq_bind, Option.bind_eq_some_iff] at h
    obtain ⟨⟨j, middle⟩, hdrawn, ⟨rest, state''⟩, hrest, hpicked⟩ := h
    obtain ⟨rfl, -⟩ := Prod.mk.inj (Option.some.inj hpicked)
    obtain ⟨hj, hfree⟩ := drawUntil_usable hdrawn
    obtain ⟨hlength, hnodup, hfresh⟩ := ih hrest
    refine ⟨by rw [List.length_cons, hlength], List.nodup_cons.mpr ⟨fun hmem => ?_, hnodup⟩, ?_⟩
    · exact (hfresh j hmem).2 List.mem_cons_self
    · rw [List.forall_mem_cons]
      refine ⟨⟨hj, by simpa using hfree⟩, fun place hplace => ?_⟩
      obtain ⟨hbound, hout⟩ := hfresh place hplace
      exact ⟨hbound, fun hmem => hout (List.mem_cons_of_mem j hmem)⟩

theorem exists_free {bound : Nat} {taken : List Nat} (h : taken.length < bound) :
    ∃ place < bound, place ∉ taken := by
  by_contra hall
  push Not at hall
  have hsub : (List.range bound).Subperm taken :=
    List.nodup_range.subperm fun place hplace => hall place (List.mem_range.mp hplace)
  have hle := hsub.length_le
  rw [List.length_range] at hle
  omega

theorem fromRange_isSome {bound count : Nat} {taken : List Nat} {state : σ}
    (hgives : Gives draw bound) (hcount : taken.length + count ≤ bound) :
    (fromRange draw bound count taken state).isSome := by
  induction count generalizing taken state with
  | zero => rfl
  | succ count ih =>
    obtain ⟨place, hplace, hfree⟩ := exists_free (show taken.length < bound by omega)
    obtain ⟨⟨j, middle⟩, hdrawn⟩ :
        ∃ drawn, draw.drawUntil (fun j => !taken.contains j) bound state = some drawn :=
      Option.isSome_iff_exists.mp (drawUntil_isSome hgives hplace (by simpa using hfree))
    obtain ⟨⟨rest, state''⟩, hrest⟩ :
        ∃ drawn, fromRange draw bound count (j :: taken) middle = some drawn :=
      Option.isSome_iff_exists.mp (ih (by rw [List.length_cons]; omega))
    simp only [fromRange, hdrawn, Option.bind_eq_bind, Option.bind_some, hrest]
    rfl

/-! ## Either way -/

theorem positions_distinct {size count : Nat} {state state' : σ} {picked : List Nat}
    (h : positions draw size count state = some (picked, state')) :
    picked.length = count ∧ picked.Nodup ∧ ∀ place ∈ picked, place < size := by
  unfold positions at h
  split_ifs at h
  · obtain ⟨hlength, hsub⟩ := fromPool_subperm h
    refine ⟨hlength, ?_, fun place hplace => List.mem_range.mp (hsub.subset hplace)⟩
    obtain ⟨part, hperm, hpart⟩ := hsub
    exact hperm.nodup_iff.mp (hpart.nodup List.nodup_range)
  · obtain ⟨hlength, hnodup, hfresh⟩ := fromRange_fresh h
    exact ⟨hlength, hnodup, fun place hplace => (hfresh place hplace).1⟩

theorem positions_isSome {size count : Nat} {state : σ}
    (hgives : ∀ bound ≤ size, Gives draw bound) (hcount : count ≤ size) :
    (positions draw size count state).isSome := by
  unfold positions
  split_ifs
  · exact fromPool_isSome (by rwa [List.length_range]) (by rwa [List.length_range])
  · exact fromRange_isSome (hgives size le_rfl) (by simpa using hcount)

/-! ## Samples -/

/-- The items at so many places of a list, no place twice. -/
def DrawnFrom (items : List α) (count : Int) (picked : List α) : Prop :=
  ∃ places : List (Fin items.length),
    places.Nodup ∧ (places.length : Int) = count ∧ picked = places.map items.get

section Samples

variable {items picked : List α} {count : Int} {state : σ}

theorem DrawnFrom.subperm (h : DrawnFrom items count picked) : picked <+~ items := by
  obtain ⟨places, hnodup, -, rfl⟩ := h
  have hsub : places <+~ List.finRange items.length :=
    hnodup.subperm fun place _ => List.mem_finRange place
  obtain ⟨part, hperm, hpart⟩ := hsub
  have hmap := hpart.map items.get
  rw [List.map_get_finRange] at hmap
  exact ⟨part.map items.get, hperm.map items.get, hmap⟩

theorem DrawnFrom.length (h : DrawnFrom items count picked) : (picked.length : Int) = count := by
  obtain ⟨places, -, hlength, rfl⟩ := h
  rw [List.length_map, hlength]

theorem DrawnFrom.perm (h : DrawnFrom items items.length picked) : picked ~ items :=
  h.subperm.perm_of_length_le (by have := h.length; omega)

theorem isWritable_iff {n : Int} :
    Text.isWritable n = true ↔ n.natAbs < 10 ^ Text.digitLimit := by
  rw [Text.isWritable, decide_eq_true_iff, Nat.length_toDigits_le_iff (by decide) (by decide)]

theorem refusal_of_lt {size : Nat} (h : count.natAbs < 10 ^ Text.digitLimit) :
    refusal count size = .outOfBounds count size :=
  if_pos (isWritable_iff.mpr h)

theorem refusal_of_le {size : Nat} (h : 10 ^ Text.digitLimit ≤ count.natAbs) :
    refusal count size = .unwritable :=
  if_neg fun hshort => (isWritable_iff.mp hshort).not_ge h

theorem refusal_eq_outOfBounds_iff {size : Nat} :
    (∃ told size', refusal count size = .outOfBounds told size') ↔
      count.natAbs < 10 ^ Text.digitLimit := by
  rcases lt_or_ge count.natAbs (10 ^ Text.digitLimit) with h | h
  · simp [refusal_of_lt h, h]
  · simp [refusal_of_le h, h.not_gt]

theorem refusal_eq_unwritable_iff {size : Nat} :
    refusal count size = .unwritable ↔ 10 ^ Text.digitLimit ≤ count.natAbs := by
  rcases lt_or_ge count.natAbs (10 ^ Text.digitLimit) with h | h
  · simp [refusal_of_lt h, h.not_ge]
  · simp [refusal_of_le h, h]

theorem sample_refused (h : count < 0 ∨ (items.length : Int) < count) :
    sample draw items count state = (.error (refusal count items.length), state) :=
  if_pos h

theorem sample_zero : sample draw items 0 state = (.ok [], state) := by
  have hplaces : positions draw items.length 0 state = some ([], state) := by
    unfold positions
    split_ifs <;> rfl
  have hfits : ¬ ((0 : Int) < 0 ∨ (items.length : Int) < 0) := by omega
  rw [sample, if_neg hfits, Int.toNat_zero, hplaces]
  rfl

/-- Apart from a draw that does not come to its end, the one way to fail is to be refused. -/
theorem sample_error_iff {error : SampleError} (hfinished : error ≠ .unfinished) :
    (sample draw items count state).1 = .error error ↔
      (count < 0 ∨ (items.length : Int) < count) ∧ refusal count items.length = error := by
  by_cases hrefused : count < 0 ∨ (items.length : Int) < count
  · simp [sample_refused hrefused, hrefused]
  · rw [sample, if_neg hrefused]
    rcases positions draw items.length count.toNat state with _ | drawn
    · simp [hrefused, hfinished.symm]
    · simp [hrefused]

theorem sample_outOfBounds_iff :
    (∃ told size, (sample draw items count state).1 = .error (.outOfBounds told size)) ↔
      (count < 0 ∨ (items.length : Int) < count) ∧ count.natAbs < 10 ^ Text.digitLimit := by
  have herror : ∀ told size, (sample draw items count state).1 = .error (.outOfBounds told size) ↔
      _ := fun told size => sample_error_iff (by simp)
  simp only [herror, exists_and_left, refusal_eq_outOfBounds_iff]

theorem sample_unwritable_iff :
    (sample draw items count state).1 = .error .unwritable ↔
      (count < 0 ∨ (items.length : Int) < count) ∧ 10 ^ Text.digitLimit ≤ count.natAbs := by
  rw [sample_error_iff (by simp), refusal_eq_unwritable_iff]

theorem sample_drawnFrom (h : (sample draw items count state).1 = .ok picked) :
    DrawnFrom items count picked := by
  unfold sample at h
  split_ifs at h with hbounds
  split at h
  case h_1 => cases h
  case h_2 places state' hplaces =>
    obtain rfl := Except.ok.inj h
    obtain ⟨hlength, hnodup, hin⟩ := positions_distinct hplaces
    lift places to List (Fin items.length) using hin
    rw [List.length_map] at hlength
    refine ⟨places, hnodup.of_map, by omega, ?_⟩
    rw [List.filterMap_map, ← List.filterMap_eq_map]
    exact List.filterMap_congr fun place _ => List.getElem?_eq_getElem place.isLt

theorem sample_isOk (hgives : ∀ bound ≤ items.length, Gives draw bound)
    (h : ¬ (count < 0 ∨ (items.length : Int) < count)) :
    ∃ picked, (sample draw items count state).1 = .ok picked := by
  obtain ⟨⟨places, state'⟩, hplaces⟩ :
      ∃ drawn, positions draw items.length count.toNat state = some drawn :=
    Option.isSome_iff_exists.mp (positions_isSome hgives (by omega))
  refine ⟨places.filterMap (items[·]?), ?_⟩
  simp only [sample, if_neg h, hplaces]

end Samples

/-- Whether a request asks for as many items as there are, or fewer. -/
def fits (request : List α × Int) : Bool :=
  0 ≤ request.2 && request.2 ≤ request.1.length

theorem sampleEach_length (requests : List (List α × Int)) (state : σ) :
    (sampleEach draw requests state).1.length = requests.length := by
  induction requests generalizing state with
  | nil => rfl
  | cons request requests ih => exact congrArg (· + 1) (ih _)

theorem sampleEach_filter (requests : List (List α × Int)) (state : σ) :
    sampleEach draw (requests.filter fits) state =
      (((requests.zip (sampleEach draw requests state).1).filter (fits ·.1)).map Prod.snd,
        (sampleEach draw requests state).2) := by
  induction requests generalizing state with
  | nil => rfl
  | cons request requests ih =>
    obtain ⟨items, count⟩ := request
    cases hfits : fits (items, count) with
    | true =>
      rw [List.filter_cons_of_pos hfits]
      simp only [sampleEach, ih, List.zip_cons_cons, List.filter_cons, hfits, if_true,
        List.map_cons]
    | false =>
      have hrefused : sample draw items count state =
          (.error (refusal count items.length), state) :=
        sample_refused (by simp [fits] at hfits; omega)
      rw [List.filter_cons_of_neg (by simp [hfits])]
      simp only [sampleEach, hrefused, ih, List.zip_cons_cons, List.filter_cons, hfits]
      rfl

/-- **Samples are drawn by position.** A sample is refused exactly if its size is negative or larger
than the list, and then the source is left as it is. It is refused in words if the size has few
enough digits to be told, and with a fault of another kind if it has not. Otherwise, if the draw
comes to its end, and it does if the source sooner or later gives each number that may be asked for,
the sample consists of the items at so many distinct places of the list: no item occurs more often
than in the list, and a sample of full size is a permutation. Of several requests to one source,
those that are refused have no bearing on the others. -/
theorem samples_by_position (draw : WordSource σ) (items : List α) (count : Int) (state : σ) :
    let drawn := sample draw items count state
    let refused := count < 0 ∨ (items.length : Int) < count
    ((∃ told size, drawn.1 = .error (.outOfBounds told size)) ↔
      refused ∧ count.natAbs < 10 ^ Text.digitLimit) ∧
    (drawn.1 = .error .unwritable ↔ refused ∧ 10 ^ Text.digitLimit ≤ count.natAbs) ∧
    (refused → drawn.2 = state ∧ (count.natAbs < 10 ^ Text.digitLimit →
      drawn.1 = .error (.outOfBounds count items.length))) ∧
    (∀ picked, drawn.1 = .ok picked → DrawnFrom items count picked ∧ picked <+~ items ∧
      (count = items.length → picked ~ items)) ∧
    (¬ refused → (∀ bound ≤ items.length, Gives draw bound) → ∃ picked, drawn.1 = .ok picked) ∧
    ∀ requests : List (List α × Int),
      let run := sampleEach draw requests state
      let answered := requests.zip run.1
      answered.map Prod.fst = requests ∧
      sampleEach draw (requests.filter fits) state =
        ((answered.filter (fits ·.1)).map Prod.snd, run.2) := by
  intro drawn refused
  refine ⟨sample_outOfBounds_iff, sample_unwritable_iff, fun h => ?_, fun picked hpicked => ?_,
    fun hfits hgives => sample_isOk hgives hfits,
    fun requests => ⟨?_, sampleEach_filter requests state⟩⟩
  · have hdrawn : drawn = (.error (refusal count items.length), state) := sample_refused h
    rw [hdrawn]
    exact ⟨rfl, fun hshort => by rw [refusal_of_lt hshort]⟩
  · have hdrawn := sample_drawnFrom hpicked
    exact ⟨hdrawn, hdrawn.subperm, fun hall => (hall ▸ hdrawn).perm⟩
  · exact List.map_fst_zip (sampleEach_length requests state).ge

/-- A source that counts with the top two bits of its words. -/
def counting : WordSource (Fin 4) :=
  fun state => (UInt32.ofNat (state.val <<< 30), state + 1)

/-- All of a list with a repeated item, behind a request for one too many. -/
theorem samples_by_position_counting :
    let items := ["a", "b", "b"]
    (∀ bound ≤ 3, Gives counting bound) ∧ (sample counting items 4 1).2 = 1 ∧
    ∃ picked, (sample counting items 3 1).1 = .ok picked ∧ DrawnFrom items 3 picked ∧
      picked ~ items ∧
      sampleEach counting [(items, 4), (items, 3)] 1 =
        ([.error (.outOfBounds 4 3), .ok picked], (sample counting items 3 1).2) := by
  intro items
  have hgives : ∀ bound ≤ 3, Gives counting bound := by
    have hsoon : ∀ bound ≤ 3, ∀ value < bound, ∀ state, ∃ passed < 4,
        upcoming counting (bound.log2 + 1) passed state = value := by decide +kernel
    intro bound hbound value hvalue state
    obtain ⟨passed, -, hpassed⟩ := hsoon bound hbound value hvalue state
    exact ⟨passed, hpassed⟩
  obtain ⟨-, -, hrefused, -, -, -⟩ := samples_by_position counting items 4 1
  obtain ⟨-, -, -, hdrawn, hends, -⟩ := samples_by_position counting items 3 1
  obtain ⟨picked, hpicked⟩ := hends (by decide) hgives
  obtain ⟨hplaces, -, hperm⟩ := hdrawn picked hpicked
  obtain ⟨hkept, hwords⟩ := hrefused (by decide)
  refine ⟨hgives, hkept, picked, hpicked, hplaces, hperm rfl, ?_⟩
  simp only [sampleEach, hkept, hwords (by decide +kernel), hpicked]
  rfl

theorem natAbs_ten_pow (k : Nat) : ((10 : Int) ^ k).natAbs = 10 ^ k :=
  Int.natAbs_pow 10 k

theorem one_lt_ten_pow {k : Nat} (h : k ≠ 0) : (1 : Int) < 10 ^ k := by
  exact_mod_cast Nat.one_lt_pow h (by decide)

/-- A size of a one and 4300 zeros is larger than the list, and cannot be told. -/
theorem sample_of_long_size :
    let count : Int := 10 ^ Text.digitLimit
    let drawn := sample counting ["a"] count 0
    (1 : Int) < count ∧ drawn.1 = .error .unwritable ∧
      ¬ ∃ told size, drawn.1 = .error (.outOfBounds told size) := by
  intro count drawn
  have hlong : 10 ^ Text.digitLimit ≤ count.natAbs := (natAbs_ten_pow Text.digitLimit).ge
  have hlarge : (1 : Int) < count := one_lt_ten_pow (by decide)
  refine ⟨hlarge, sample_unwritable_iff.mpr ⟨Or.inr hlarge, hlong⟩, fun hwords => ?_⟩
  exact (sample_outOfBounds_iff.mp hwords).2.not_ge hlong

end ExpectError.Random
