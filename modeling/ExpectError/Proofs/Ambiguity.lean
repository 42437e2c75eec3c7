import ExpectError.Proofs.Questions

/-!
# When a site is ambiguous

A site raises a question by what stands in the lines around it, and this can be said without the
scan over their characters: one of them holds `/>`, `</`, `=\x7b`, or a `<` between a character that
is none of a word and one that is (`hints_iff`). Which lines count is said by their positions
(`mem_around_iff`). Both together are `Ambiguous`, and a site is put to the decision source exactly
if it is so (`ambiguity_exact`). A wider window has more lines, so nothing stops being ambiguous
when the radius grows (`Ambiguous.mono`).
-/

namespace ExpectError

namespace Markup

open Text (isWord)

/-! ## Lines -/

/-- The words that hint at markup wherever they stand. -/
def marks : List String :=
  ["/>", "</", "=\x7b"]

/-- The line holds one of the marks, or a `<` with a character before it that is none of a word and
one behind it that is. -/
def ShowsMarkup (line : String) : Prop :=
  (∃ mark ∈ marks, Carries mark line) ∨
    ∃ a b, isWord a = false ∧ isWord b = true ∧ [a, '<', b] <:+: line.toList

theorem isMark_iff {a b : Char} : isMark a b = true ↔ ∃ mark ∈ marks, mark.toList = [a, b] := by
  simp only [isMark, marks, List.mem_cons, List.not_mem_nil, or_false, exists_eq_or_imp,
    exists_eq_left, Bool.or_eq_true, Bool.and_eq_true, decide_eq_true_eq, or_assoc]
  simp [eq_comm]

theorem exists_pair_infix_cons {P : Char → Char → Prop} {a b : Char} {rest : List Char} :
    (∃ x y, P x y ∧ [x, y] <:+: a :: b :: rest) ↔
      P a b ∨ ∃ x y, P x y ∧ [x, y] <:+: b :: rest := by
  simp only [List.infix_cons_iff (a := a), List.cons_prefix_cons, List.nil_prefix, and_true,
    and_or_left, exists_or]
  simp

theorem exists_around_infix_cons {P : Char → Char → Prop} {m a b c : Char} {rest : List Char} :
    (∃ x y, P x y ∧ [x, m, y] <:+: a :: b :: c :: rest) ↔
      (P a c ∧ b = m) ∨ ∃ x y, P x y ∧ [x, m, y] <:+: b :: c :: rest := by
  simp only [List.infix_cons_iff (a := a), List.cons_prefix_cons, List.nil_prefix, and_true,
    and_or_left, exists_or]
  simp [eq_comm]

theorem opensTag_iff {a b c : Char} :
    opensTag a b c = true ↔ (isWord a = false ∧ isWord c = true) ∧ b = '<' := by
  simp only [opensTag, Bool.and_eq_true, Bool.not_eq_true', decide_eq_true_eq]
  exact and_right_comm

theorem hints_iff {line : List Char} :
    hints line = true ↔
      (∃ a b, isMark a b = true ∧ [a, b] <:+: line) ∨
        ∃ a b, (isWord a = false ∧ isWord b = true) ∧ [a, '<', b] <:+: line := by
  fun_induction hints line with
  | case1 a b c rest ih =>
    rw [Bool.or_eq_true, Bool.or_eq_true, ih, exists_pair_infix_cons (a := a),
      exists_around_infix_cons (a := a), opensTag_iff]
    exact or_or_or_comm
  | case2 a b =>
    have hlong : ∀ x y, ¬ [x, '<', y] <:+: [a, b] := fun x y h => by simpa using h.length_le
    have hone : ∀ x y, ¬ [x, y] <:+: [b] := fun x y h => by simpa using h.length_le
    simp [exists_pair_infix_cons, hlong, hone]
  | case3 line hlong hpair =>
    have hshort : line.length ≤ 1 := by
      match line with
      | [] => simp
      | [_] => simp
      | [a, b] => exact absurd rfl (hpair a b)
      | a :: b :: c :: rest => exact absurd rfl (hlong a b c rest)
    have hnone : ∀ word : List Char, 2 ≤ word.length → ¬ word <:+: line := fun word hword h => by
      have := h.length_le
      omega
    simp [hnone]

theorem hints_iff_showsMarkup {line : String} : hints line.toList = true ↔ ShowsMarkup line := by
  rw [hints_iff, ShowsMarkup]
  simp only [isMark_iff, Carries, and_assoc]
  refine or_congr ⟨?_, ?_⟩ Iff.rfl
  · rintro ⟨a, b, ⟨mark, hmark, hchars⟩, hin⟩
    exact ⟨mark, hmark, hchars ▸ hin⟩
  · rintro ⟨mark, hmark, hin⟩
    have hpair : ∃ a b, mark.toList = [a, b] := by
      revert mark
      simp [marks]
    obtain ⟨a, b, hchars⟩ := hpair
    exact ⟨a, b, ⟨mark, hmark, hchars⟩, hchars ▸ hin⟩

/-! ## The window -/

theorem mem_around_iff {lines : List String} {n radius : Int} (hlow : 1 ≤ n)
    (hhigh : n ≤ lines.length) {line : String} :
    line ∈ (Window.around lines (n - 1) radius).lines ↔
      ∃ k : Nat, lines[k]? = some line ∧ max 0 (n - 1 - radius) ≤ (k : Int) ∧
        (k : Int) < min (lines.length : Int) (max (n - 1 + radius) (n - 1 + 1)) := by
  have hstop : clampBound lines.length (min (lines.length : Int) (max (n - 1 + radius) (n - 1 + 1)))
      = (min (lines.length : Int) (max (n - 1 + radius) (n - 1 + 1))).toNat :=
    if_neg (by omega)
  simp only [Window.around, hstop, List.mem_iff_getElem?, List.getElem?_drop, List.getElem?_take,
    Option.ite_none_right_eq_some]
  constructor
  · rintro ⟨k, hlt, hline⟩
    exact ⟨_, hline, by omega, by omega⟩
  · rintro ⟨k, hline, hstart, hend⟩
    refine ⟨k - (max 0 (n - 1 - radius)).toNat, by omega, ?_⟩
    rw [← hline]
    congr 1
    omega

end Markup

/-! ## Sites -/

/-- A site at a line is ambiguous: its file is one with markup, and a line not too far away shows
some. There are as many such lines before the site as the radius says, and one less behind it, but
the line of the site is always one of them. -/
def Ambiguous (config : Config) (path : String) (lines : List String) (n : Int) : Prop :=
  (∃ ending ∈ config.markupExtensions, ending.toList <:+ path.toList) ∧
    ∃ (k : Nat) (line : String), lines[k]? = some line ∧
      max 0 (n - 1 - config.context) ≤ (k : Int) ∧
      (k : Int) < min (lines.length : Int) (max (n - 1 + config.context) (n - 1 + 1)) ∧
      Markup.ShowsMarkup line

theorem Config.isMarkupFile_iff {config : Config} {path : String} :
    config.isMarkupFile path = true ↔
      ∃ ending ∈ config.markupExtensions, ending.toList <:+ path.toList := by
  simp [Config.isMarkupFile, List.isSuffixOf_iff_suffix]

theorem Ambiguous.mono {config : Config} {path : String} {lines : List String} {n radius : Int}
    (h : Ambiguous config path lines n) (hradius : config.context ≤ radius) :
    Ambiguous { config with context := radius } path lines n := by
  obtain ⟨hfile, k, line, hline, hstart, hend, hshows⟩ := h
  exact ⟨hfile, k, line, hline, by dsimp only; omega, by dsimp only; omega, hshows⟩

variable {σ : Type}

theorem question?_isSome_iff (rules : SiteRules) (site : Site) {lines : List String}
    (hlow : 1 ≤ site.line) (hhigh : site.line ≤ lines.length) :
    (rules.question? site lines).isSome = true ↔
      Ambiguous rules.config rules.path lines site.line := by
  have hwindow : Markup.anyHints
      (Markup.Window.around lines (site.line - 1) rules.config.context).lines = true ↔
        ∃ line ∈ (Markup.Window.around lines (site.line - 1) rules.config.context).lines,
          Markup.ShowsMarkup line := by
    rw [Markup.anyHints, List.any_eq_true]
    simp only [Markup.hints_iff_showsMarkup]
  rw [Option.isSome_iff_exists]
  simp only [question?_eq_some_iff, exists_and_left, exists_eq, and_true, hwindow,
    Config.isMarkupFile_iff, Markup.mem_around_iff hlow hhigh]
  refine and_congr_right fun _ => ⟨?_, ?_⟩
  · rintro ⟨line, ⟨k, hline, hstart, hend⟩, hshows⟩
    exact ⟨k, line, hline, hstart, hend, hshows⟩
  · rintro ⟨k, line, hline, hstart, hend, hshows⟩
    exact ⟨line, ⟨k, hline, hstart, hend⟩, hshows⟩

/-- **Ambiguous sites.** The site of a line that is there is put to the decision source, once and
with its own path, line and messages, if it is ambiguous; then the source says how it is written.
Otherwise the source is left alone, and the comments are line comments. With a larger radius no site
stops being put to the source. -/
theorem ambiguity_exact (rules : SiteRules) (decide : Decider σ) (site : Site)
    (lines : List String) (state : σ) (hlow : 1 ≤ site.line) (hhigh : site.line ≤ lines.length) :
    let choice := chooseStyle rules decide site lines state
    let ambiguous := Ambiguous rules.config rules.path lines site.line
    (choice.2.2.isSome = true ↔ ambiguous) ∧
    (ambiguous → ∃ question : Question, question.path = rules.path ∧ question.line = site.line ∧
      question.messages = site.messages ∧ question.filesRemaining = rules.filesRemaining ∧
      choice = ((decide question state).1, (decide question state).2,
        some ⟨question, (decide question state).1⟩)) ∧
    (¬ ambiguous → choice = (some .plain, state, none)) ∧
    ∀ radius, rules.config.context ≤ radius → choice.2.2.isSome = true →
      let wider := { rules with config := { rules.config with context := radius } }
      (chooseStyle wider decide site lines state).2.2.isSome = true := by
  have hasks : ∀ rules : SiteRules, (chooseStyle rules decide site lines state).2.2.isSome = true ↔
      Ambiguous rules.config rules.path lines site.line := by
    intro rules
    rw [← question?_isSome_iff rules site hlow hhigh, chooseStyle]
    cases rules.question? site lines <;> rfl
  intro choice ambiguous
  refine ⟨hasks rules, fun h => ?_, fun h => ?_, fun radius hradius h => ?_⟩
  · obtain ⟨question, hquestion⟩ :=
      Option.isSome_iff_exists.mp ((question?_isSome_iff rules site hlow hhigh).mpr h)
    have hparts := ((question?_eq_some_iff rules site lines).mp hquestion).2
    refine ⟨question, by rw [hparts], by rw [hparts], by rw [hparts], by rw [hparts], ?_⟩
    simp only [choice, chooseStyle, hquestion]
  · have hnone : rules.question? site lines = none := by
      rw [← Option.not_isSome_iff_eq_none, question?_isSome_iff rules site hlow hhigh]
      exact h
    simp only [choice, chooseStyle, hnone]
  · exact (hasks _).mpr (((hasks rules).mp h).mono hradius)

/-- A tag at the start of its line is no sign, and neither is one behind a word, but one behind a
space is. From the line below it is seen with a radius of one, from the line above only with a
radius of two. -/
theorem ambiguity_exact_window_end :
    let lines := ["<b>", "f<T>(x)", " <i>", "y", "z"]
    let asks (radius line : Int) : Bool :=
      (chooseStyle ⟨({ context := some radius } : Draft).freeze, "a.tsx", "", 0⟩
        Decider.listed ⟨line, ["m"]⟩ lines [.skip]).2.2.isSome
    (1 ≤ (4 : Int) ∧ (4 : Int) ≤ lines.length) ∧ asks 0 4 = false ∧ asks 1 4 = true ∧
      asks 3 4 = true ∧ asks 1 2 = false ∧ asks 2 2 = true ∧
      Ambiguous ({ context := some 1 } : Draft).freeze "a.tsx" lines 4 ∧
      ¬ Ambiguous ({ context := some 1 } : Draft).freeze "a.tsx" lines 2 := by
  intro lines asks
  have hexact : ∀ radius line : Int, 1 ≤ line → line ≤ 5 → (asks radius line = true ↔
      Ambiguous ({ context := some radius } : Draft).freeze "a.tsx" lines line) :=
    fun radius line hlow hhigh => (ambiguity_exact
      ⟨({ context := some radius } : Draft).freeze, "a.tsx", "", 0⟩ Decider.listed ⟨line, ["m"]⟩
      lines [.skip] hlow hhigh).1
  refine ⟨by decide, by decide +kernel, by decide +kernel, by decide +kernel, by decide +kernel,
    by decide +kernel, (hexact 1 4 (by decide) (by decide)).mp (by decide +kernel), fun h => ?_⟩
  exact absurd ((hexact 1 2 (by decide) (by decide)).mpr h) (by decide +kernel)

end ExpectError
