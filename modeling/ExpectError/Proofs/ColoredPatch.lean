import ExpectError.Diff.Patch
import ExpectError.Proofs.FileLines
import ExpectError.Proofs.Painting
import ExpectError.Proofs.ReportRender

/-!
# What a colored patch shows

Each line of a patch is painted, and the whole patch is painted once more around that. Painted text
shows what it showed, so a colored patch shows the lines with their line ends made visible, each
with its number if that is wanted and with a line feed behind it (`renderPatch_shows`). A line must
hold no escape character of its own: a sequence in it would be taken out with those of the paint.
-/

namespace ExpectError.Diff

open Style (escape Shows strip)

/-! ## Lines -/

theorem mem_visible {c : Char} {line : List Char} (h : c ∈ visible line) :
    c ≠ '\n' ∧ (c = '\\' ∨ c = 'r' ∨ c = 'n' ∨ c ∈ line) := by
  obtain ⟨d, hd, hin⟩ := List.mem_flatMap.mp h
  split_ifs at hin with hreturn hfeed
  · simp only [List.mem_cons, List.not_mem_nil, or_false] at hin
    rcases hin with rfl | rfl <;> simp
  · simp only [List.mem_cons, List.not_mem_nil, or_false] at hin
    rcases hin with rfl | rfl <;> simp
  · obtain rfl := List.mem_singleton.mp hin
    exact ⟨hfeed, Or.inr (Or.inr (Or.inr hd))⟩

theorem visible_free {line : List Char} (hline : escape ∉ line) : escape ∉ visible line := by
  intro h
  rcases (mem_visible h).2 with h | h | h | h
  · exact absurd h (by decide)
  · exact absurd h (by decide)
  · exact absurd h (by decide)
  · exact hline h

/-- The number of a line is written in as many digits as it takes, but in four at least. -/
structure NumberForm (n : Nat) (text : String) : Prop where
  digits : ∀ c ∈ text.toList, c.isDigit = true
  value : Text.digitsValue text.toList = n
  padded : n < 10000 → text.length = 4
  whole : 10000 ≤ n → text = toString n

theorem numberText_form (n : Nat) : NumberForm n (numberText n) := by
  have htext : (numberText n).toList =
      List.replicate (4 - (Nat.toDigits 10 n).length) '0' ++ Nat.toDigits 10 n :=
    String.toList_ofList
  have hshort : (Nat.toDigits 10 n).length ≤ 4 ↔ n < 10000 :=
    Nat.length_toDigits_le_iff (by decide) (by decide)
  refine ⟨fun c hc => ?_, ?_, fun h => ?_, fun h => ?_⟩
  · rw [htext, List.mem_append] at hc
    rcases hc with hc | hc
    · rw [List.eq_of_mem_replicate hc]
      rfl
    · exact Style.isDigit_of_mem_toDigits hc
  · -- zeros in front do not count
    have hzeros : ∀ k : Nat, Text.digitsValue (List.replicate k '0' ++ Nat.toDigits 10 n) = n := by
      intro k
      induction k with
      | zero => exact Text.digitsValue_toDigits n
      | succ k ih =>
        rw [List.replicate_succ, List.cons_append, Text.digitsValue, List.foldl_cons]
        exact ih
    rw [htext, hzeros]
  · rw [← String.length_toList, htext, List.length_append, List.length_replicate]
    have := hshort.mpr h
    omega
  · have hnone : 4 - (Nat.toDigits 10 n).length = 0 := by
      have := mt hshort.mp (by omega)
      omega
    rw [← String.toList_inj, htext, hnone, Nat.toString_eq_ofList_toDigits, String.toList_ofList]
    rfl

/-- A line of a patch as it is to be read. -/
def plainLine (numbers : Bool) (n : Nat) (line : String) : String :=
  (if numbers then numberText n ++ "|" else "") ++ String.ofList (visible line.toList) ++ "\n"

/-- The lines of a patch as they are to be read, from a line number on. -/
def plainLines (numbers : Bool) (first : Nat) (lines : List String) : String :=
  String.join ((lines.zipIdx first).map fun (line, n) => plainLine numbers n line)

theorem patchLine_shows (colors numbers : Bool) (n : Nat) {line : String}
    (hline : escape ∉ line.toList) :
    Shows (patchLine colors numbers n line).toList (plainLine numbers n line).toList := by
  have hnumber : Shows (if numbers then numberText n ++ "|" else "").toList
      (if numbers then numberText n ++ "|" else "").toList := by
    refine .refl ?_
    cases numbers with
    | false => simp
    | true =>
      rw [if_pos rfl, String.toList_append, List.mem_append, not_or]
      refine ⟨fun hin => ?_, by decide⟩
      exact absurd ((numberText_form n).digits _ hin) (by decide)
  have hcontent : Shows ((paintOf line.toList).apply colors
      (String.ofList (visible line.toList))).toList (visible line.toList) := by
    refine Shows.apply ?_ _ _
    rw [String.toList_ofList]
    exact .refl (visible_free hline)
  have hend : Shows "\n".toList "\n".toList := .refl (by decide)
  simp only [patchLine, plainLine, String.toList_append, String.toList_ofList]
  exact (hnumber.append hcontent).append hend

theorem patchLines_shows (colors numbers : Bool) (first : Nat) {lines : List String}
    (hlines : ∀ line ∈ lines, escape ∉ line.toList) :
    Shows (String.join (patchLines colors numbers first lines)).toList
      (plainLines numbers first lines).toList := by
  induction lines generalizing first with
  | nil => exact .nil
  | cons line lines ih =>
    rw [List.forall_mem_cons] at hlines
    rw [patchLines, plainLines, List.zipIdx_cons, List.map_cons, String.join_cons, String.join_cons,
      String.toList_append, String.toList_append]
    exact (patchLine_shows colors numbers first hlines.1).append (ih (first + 1) hlines.2)

theorem renderPatch_shows (colors numbers : Bool) {lines : List String}
    (hlines : ∀ line ∈ lines, escape ∉ line.toList) :
    Shows (renderPatch colors numbers lines).toList (plainLines numbers 1 lines).toList :=
  (patchLines_shows colors numbers 1 hlines).apply _ colors

theorem count_plainLine (numbers : Bool) (n : Nat) (line : String) :
    (plainLine numbers n line).toList.count '\n' = 1 := by
  have hnumber : (if numbers then numberText n ++ "|" else "").toList.count '\n' = 0 := by
    rw [List.count_eq_zero]
    cases numbers with
    | false => simp
    | true =>
      rw [if_pos rfl, String.toList_append, List.mem_append, not_or]
      refine ⟨fun hin => ?_, by decide⟩
      exact absurd ((numberText_form n).digits _ hin) (by decide)
  have hcontent : (visible line.toList).count '\n' = 0 :=
    List.count_eq_zero.mpr fun hin => (mem_visible hin).1 rfl
  have hend : "\n".toList.count '\n' = 1 := by decide
  simp only [plainLine, String.toList_append, String.toList_ofList, List.count_append, hnumber,
    hcontent, hend]

theorem count_plainLines (numbers : Bool) (first : Nat) (lines : List String) :
    (plainLines numbers first lines).toList.count '\n' = lines.length := by
  induction lines generalizing first with
  | nil => rfl
  | cons line lines ih =>
    rw [plainLines, List.zipIdx_cons, List.map_cons, String.join_cons, String.toList_append,
      List.count_append, count_plainLine, List.length_cons, Nat.add_comm]
    exact congrArg (· + 1) (ih (first + 1))

/-! ## Patches that are one text -/

theorem mem_of_mem_lines {text : List Char} {c : Char} (h : c ∈ (Text.lines text).flatten) :
    c ∈ text := by
  fun_induction Text.lines text with
  | case1 => simp at h
  | case2 rest ih => exact List.mem_cons_of_mem _ (List.mem_cons_of_mem _ (ih h))
  | case3 d rest _ _ ih => exact List.mem_cons_of_mem _ (ih h)
  | case4 d rest _ _ ih =>
    rw [Text.flatten_consFirst] at h
    rcases List.mem_cons.mp h with rfl | h
    · exact List.mem_cons_self
    · exact List.mem_cons_of_mem _ (ih h)

/-- **A colored patch** shows its lines. If no line holds an escape character, then taking all
sequences out of the patch leaves, for each line in order, its number if numbers are wanted and a
bar, the line with its line ends made visible, and a line feed. So the patch has one line feed for
each line, with colors or without. A patch that is one text shows its lines in the same way. -/
theorem colored_patch_content (colors numbers : Bool) (lines : List String)
    (hlines : ∀ line ∈ lines, escape ∉ line.toList) :
    strip (renderPatch colors numbers lines) = plainLines numbers 1 lines ∧
    (renderPatch colors numbers lines).toList.count '\n' = lines.length ∧
    (strip (renderPatch colors numbers lines)).toList.count '\n' = lines.length ∧
    (∀ n, NumberForm n (numberText n)) ∧
    ∀ text : String, escape ∉ text.toList →
      strip (renderPatch colors numbers (patchOfText text)) =
        plainLines numbers 1 (patchOfText text) := by
  have hstrip : ∀ lines : List String, (∀ line ∈ lines, escape ∉ line.toList) →
      strip (renderPatch colors numbers lines) = plainLines numbers 1 lines := by
    intro lines hlines
    rw [strip, (renderPatch_shows colors numbers hlines).strip, String.ofList_toList]
  refine ⟨hstrip lines hlines, ?_, ?_, numberText_form, fun text htext => hstrip _ ?_⟩
  · rw [(renderPatch_shows colors numbers hlines).count_newline, count_plainLines]
  · rw [hstrip lines hlines, count_plainLines]
  · intro line hline
    obtain ⟨piece, hpiece, rfl⟩ := List.mem_map.mp hline
    rw [String.toList_ofList]
    exact fun hin => htext (mem_of_mem_lines (List.mem_flatten_of_mem hpiece hin))

/-- A removed line with a return in it and one that looks like the end of a sequence, with numbers
in front; the same patch as one text, in which the return ends a line. -/
theorem colored_patch_content_return :
    let lines := ["-a\rb", "+[0m", "@@"]
    (∀ line ∈ lines, escape ∉ line.toList) ∧
    strip (renderPatch true true lines) = "0001|-a\\rb\n0002|+[0m\n0003|@@\n" ∧
    strip (renderPatch true false (patchOfText "-a\rb\r\n+[0m")) = "-a\nb\n+[0m\n" := by
  intro lines
  have hlines : ∀ line ∈ lines, escape ∉ line.toList := by decide
  refine ⟨hlines, ?_, ?_⟩
  · rw [(colored_patch_content true true lines hlines).1]
    decide +kernel
  · rw [(colored_patch_content true false lines hlines).2.2.2.2 _ (by decide)]
    decide +kernel

end ExpectError.Diff
