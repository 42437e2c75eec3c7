import ExpectError.Proofs.Interleave

/-!
# The lines of a window

A window around a line has two halves: the lines above it (`linesAbove`) and the lines from it on
(`linesFrom`). The first half stops at the start of the file and the second at its end
(`around_eq`). With a radius below zero the window is empty (`around_lines_of_neg`).
-/

namespace ExpectError.Markup

/-- The lines above a number that a window of a radius shows. -/
def linesAbove (radius : Int) (lines : List String) (n : Int) : List String :=
  (lines.take (n - 1).toNat).drop (n - 1 - radius).toNat

/-- The lines from a number on that a window of a radius shows; the line itself is always one of
them. -/
def linesFrom (radius : Int) (lines : List String) (n : Int) : List String :=
  (lines.drop (n - 1).toNat).take (max radius 1).toNat

theorem drop_take_split {α : Type} {items : List α} {start index stop : Nat}
    (hstart : start ≤ index) (hindex : index ≤ items.length) (hstop : index ≤ stop) :
    (items.take stop).drop start =
      (items.take index).drop start ++ (items.drop index).take (stop - index) := by
  have hsplit : items.take stop = items.take index ++ (items.drop index).take (stop - index) := by
    rw [← List.take_add, Nat.add_sub_cancel' hstop]
  have hle : start ≤ (items.take index).length := by
    rw [List.length_take]
    omega
  rw [hsplit, List.drop_append_of_le_length hle]

theorem around_eq {lines : List String} {n radius : Int} (hlow : 1 ≤ n) (hhigh : n ≤ lines.length)
    (hradius : 0 ≤ radius) :
    Window.around lines (n - 1) radius =
      ⟨linesAbove radius lines n ++ linesFrom radius lines n, min (n - 1) radius⟩ := by
  have hstop : clampBound lines.length (min (lines.length : Int) (max (n - 1 + radius) (n - 1 + 1)))
      = min lines.length ((n - 1).toNat + (max radius 1).toNat) := by
    rw [clampBound, if_neg (by omega)]
    omega
  have hcut : lines.take (min lines.length ((n - 1).toNat + (max radius 1).toNat)) =
      lines.take ((n - 1).toNat + (max radius 1).toNat) := by
    rw [List.take_eq_take_iff]
    omega
  have hstart : (max 0 (n - 1 - radius)).toNat = (n - 1 - radius).toNat := by omega
  have hfocus : n - 1 - max 0 (n - 1 - radius) = min (n - 1) radius := by omega
  simp only [Window.around, hstop, hcut, hstart, hfocus]
  rw [drop_take_split (show (n - 1 - radius).toNat ≤ (n - 1).toNat by omega) (by omega)
    (by omega), Nat.add_sub_cancel_left]
  rfl

theorem around_lines_of_neg {lines : List String} {n radius : Int} (hlow : 1 ≤ n)
    (hradius : radius < 0) : (Window.around lines (n - 1) radius).lines = [] := by
  have hstop : clampBound lines.length (min (lines.length : Int) (max (n - 1 + radius) (n - 1 + 1)))
      ≤ n.toNat := by
    rw [clampBound, if_neg (by omega)]
    omega
  have hstart : n.toNat ≤ (max 0 (n - 1 - radius)).toNat := by omega
  rw [Window.around, List.drop_eq_nil_iff, List.length_take]
  omega

theorem length_linesAbove {lines : List String} {n radius : Int} (hlow : 1 ≤ n)
    (hhigh : n ≤ lines.length) (hradius : 0 ≤ radius) :
    ((linesAbove radius lines n).length : Int) = min (n - 1) radius := by
  rw [linesAbove, List.length_drop, List.length_take]
  omega

theorem linesFrom_eq_cons {lines : List String} {n : Int} (radius : Int) {target : String}
    (h : itemAt lines n = some target) :
    linesFrom radius lines n =
      target :: (lines.drop n.toNat).take ((max radius 1).toNat - 1) := by
  have hone : (max radius 1).toNat = ((max radius 1).toNat - 1) + 1 := by omega
  rw [linesFrom, drop_eq_cons_of_itemAt h, hone, List.take_succ_cons]
  rfl

end ExpectError.Markup
