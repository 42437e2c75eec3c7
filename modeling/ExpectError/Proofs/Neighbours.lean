import ExpectError.Proofs.Questions

/-!
# A site and the others of its plan

Does the treatment of a site depend on the other sites of the plan? Whether its line is there,
whether it is silenced, its target and its messages do not. The style of the comments may: it hangs
on the window, and the lower half of the window is read off lines that have the blocks of the sites
below. `site_among_others` says exactly when the site is treated as it would be alone, and
`neighbour_changes_style` is a plan in which it is not.
-/

namespace ExpectError

open Markup (anyHints linesAbove linesFrom leadingSpaces)

variable {σ : Type}

/-! ## What a run says of a line -/

def Mutation.atLine (mutation : Mutation σ) (n : Int) : List Edit × List Skip :=
  (mutation.edits.filter fun e => e.line = n, mutation.skips.filter fun s => s.line = n)

/-- The edits and the skips that an end makes. -/
def SiteEnd.told (ending : SiteEnd) : List Edit × List Skip :=
  (ending.edit?.toList, ending.skip?.toList)

theorem SiteEnd.told_inj {ending ending' : SiteEnd} (h : ending ≠ .abandoned) :
    ending.told = ending'.told ↔ ending = ending' := by
  cases ending <;> cases ending' <;> simp_all [SiteEnd.told, SiteEnd.edit?, SiteEnd.skip?]

theorem SiteEnd.filter_line {ending : SiteEnd} {m : Int} (h : ending.line? = some m) (n : Int) :
    (ending.edit?.toList.filter fun e => e.line = n) = (if m = n then ending.edit?.toList else []) ∧
      (ending.skip?.toList.filter fun s => s.line = n) =
        if m = n then ending.skip?.toList else [] := by
  cases ending with
  | abandoned => cases h
  | edited edit =>
    obtain rfl := Option.some.inj h
    by_cases hn : edit.line = n <;> simp [SiteEnd.edit?, SiteEnd.skip?, hn]
  | skipped skip =>
    obtain rfl := Option.some.inj h
    by_cases hn : skip.line = n <;> simp [SiteEnd.edit?, SiteEnd.skip?, hn]

namespace Mutation

variable (rules : SiteRules) (decide : Decider σ)

theorem atLine_eq_nil {sites : List Site} (lines : List String) (state : σ) {n : Int}
    (h : ∀ site ∈ sites, site.line ≠ n) :
    (apply rules decide sites lines state).atLine n = ([], []) := by
  have hedits := edits_sublist rules decide sites lines state
  have hskips := skips_sublist rules decide sites lines state
  have hnone : ∀ {α : Type} {items : List α} {line : α → Int},
      (items.map line).Sublist (sites.map Site.line) →
        (items.filter fun i => line i = n) = [] := by
    intro α items line hsub
    rw [List.filter_eq_nil_iff]
    intro item hitem heq
    obtain ⟨site, hsite, hline⟩ := List.mem_map.mp (hsub.subset (List.mem_map_of_mem hitem))
    exact h site hsite (hline.trans (by simpa using heq))
  rw [atLine, hnone hedits, hnone hskips]

theorem atLine_cons {site : Site} {sites : List Site} {lines : List String} {state : σ}
    (hend : (applySite rules decide site lines state).ending ≠ .abandoned) (n : Int) :
    let step := applySite rules decide site lines state
    let rest := apply rules decide sites step.lines step.state
    (apply rules decide (site :: sites) lines state).atLine n =
      if site.line = n then (step.ending.told.1 ++ (rest.atLine n).1,
        step.ending.told.2 ++ (rest.atLine n).2)
      else rest.atLine n := by
  intro step rest
  have hline := (applySite_endsAs rules decide site lines state).1.line?_eq hend
  obtain ⟨hedits, hskips⟩ := SiteEnd.filter_line hline n
  rcases apply_cons rules decide site sites lines state with ⟨habandoned, -⟩ | ⟨-, -, hrun⟩
  · exact absurd habandoned hend
  · rw [atLine, edits_cons hrun, skips_cons hrun, List.filter_append, List.filter_append, hedits,
      hskips]
    split_ifs <;> rfl

theorem atLine_eq_told {sites : List Site} (hdesc : Descending Site.line sites)
    (lines : List String) (state : σ)
    (h : .abandoned ∉ (apply rules decide sites lines state).endings)
    {site : Site} {record : SiteRecord}
    (hmem : (site, record) ∈ sites.zip (apply rules decide sites lines state).records) :
    (apply rules decide sites lines state).atLine site.line = record.ending.told := by
  induction sites generalizing lines state with
  | nil => simp at hmem
  | cons first sites ih =>
    obtain ⟨hfirst, hrest⟩ := List.pairwise_cons.mp hdesc
    rcases apply_cons_eq rules decide first sites lines state with ⟨hend, hrun⟩ | ⟨hend, hrun⟩
    · rw [hrun] at h
      simp [endings, hend] at h
    · rw [atLine_cons rules decide hend]
      rw [hrun] at h hmem
      simp only [endings, List.map_cons, List.mem_cons, not_or] at h
      rw [List.zip_cons_cons, List.mem_cons] at hmem
      rcases hmem with heq | hmem
      · obtain ⟨rfl, rfl⟩ := Prod.mk.inj heq
        have hnil := atLine_eq_nil rules decide
          (applySite rules decide site lines state).lines
          (applySite rules decide site lines state).state
          (fun other hother => (hfirst other hother).ne)
        rw [if_pos rfl, hnil, List.append_nil, List.append_nil]
      · have hlt := hfirst site (List.of_mem_zip hmem).1
        rw [if_neg hlt.ne']
        exact ih hrest _ _ h.2 hmem

end Mutation

/-! ## A fixed answer -/

/-- The style that a fixed answer comes to, in view of the lines around a site. -/
def SiteRules.styleFor (rules : SiteRules) (answer : CommentStyle) (window : List String) :
    CommentStyle :=
  if rules.config.isMarkupFile rules.path && anyHints window then answer else .plain

/-- The end of a site that is there and not silenced, in a style. -/
def SiteRules.endIn (rules : SiteRules) (site : Site) (target : String) : CommentStyle → SiteEnd
  | .skip => .skipped ⟨site.line, .declined⟩
  | style =>
    .edited ⟨site.line, rules.config.block site.messages style (leadingSpaces target), target⟩

theorem SiteRules.endIn_ne_abandoned (rules : SiteRules) (site : Site) (target : String)
    (style : CommentStyle) : rules.endIn site target style ≠ .abandoned := by
  cases style <;> simp [SiteRules.endIn]

theorem SiteRules.endIn_inj (rules : SiteRules) (site : Site) (target : String)
    {style style' : CommentStyle} :
    rules.endIn site target style = rules.endIn site target style' ↔ style = style' := by
  -- the two comments around the note differ in length
  have hne : rules.config.block site.messages .plain (leadingSpaces target) ≠
      rules.config.block site.messages .embedded (leadingSpaces target) := by
    intro heq
    rw [block_eq_map (by decide), block_eq_map (by decide), List.map_append, List.map_append] at heq
    have hnote := congrArg String.length (List.singleton_inj.mp (List.append_inj_right' heq rfl))
    simp only [commentLine, CommentStyle.form, String.length_append,
      show "// ".length = 3 from rfl, show "".length = 0 from rfl,
      show "\x7b/* ".length = 4 from rfl, show " */\x7d".length = 4 from rfl] at hnote
    omega
  cases style <;> cases style' <;> simp [SiteRules.endIn, hne, hne.symm]

theorem SiteRules.styleFor_eq_iff (rules : SiteRules) (answer : CommentStyle)
    (window window' : List String) :
    rules.styleFor answer window = rules.styleFor answer window' ↔
      answer = .plain ∨ rules.config.isMarkupFile rules.path = false ∨
        anyHints window = anyHints window' := by
  unfold SiteRules.styleFor
  cases rules.config.isMarkupFile rules.path <;> cases anyHints window <;>
    cases anyHints window' <;> simp [eq_comm]

theorem applySite_fixed (rules : SiteRules) (answer : CommentStyle) {site : Site}
    {lines : List String} (state : σ) {target : String} (h : itemAt lines site.line = some target)
    (habove : ¬ Suppressed rules.directive lines site.line) :
    (applySite rules (Decider.fixed answer) site lines state).ending =
      rules.endIn site target (rules.styleFor answer
        (Markup.Window.around lines (site.line - 1) rules.config.context).lines) := by
  have hsettle : ∀ (style : CommentStyle) (asked : Option Asked),
      (settleSite rules site lines target (some style, state, asked)).ending =
        rules.endIn site target style := by
    intro style asked
    cases style with
    | skip => rfl
    | plain => simp [settleSite, SiteRules.endIn, block_eq_map]
    | embedded => simp [settleSite, SiteRules.endIn, block_eq_map]
  rw [applySite_open rules _ state h habove, chooseStyle, SiteRules.question?,
    SiteRules.styleFor]
  split_ifs with hhints
  · exact hsettle answer _
  · exact hsettle .plain _

/-! ## The whole plan and the site alone -/

theorem Mutation.apply_going {decide : Decider σ} (hdecide : decide.Answers) (rules : SiteRules)
    (sites : List Site) (lines : List String) (state : σ) :
    .abandoned ∉ (Mutation.apply rules decide sites lines state).endings := by
  rw [← Mutation.abandoned_eq_false_iff, ← Bool.not_eq_true, Mutation.apply_abandoned_iff]
  rintro ⟨asked, hasked, hnone⟩
  obtain ⟨state', hanswer⟩ :=
    (Mutation.apply_dialogue rules decide sites lines state).exists_answer hasked
  obtain ⟨style, hstyle⟩ := hdecide asked.question state'
  rw [hnone, hstyle] at hanswer
  cases hanswer

theorem Decider.fixed_answers (answer : CommentStyle) :
    (Decider.fixed answer : Decider σ).Answers :=
  fun _ _ => ⟨answer, rfl⟩

theorem atLine_fixed (rules : SiteRules) (answer : CommentStyle) {sites : List Site}
    (hdesc : Descending Site.line sites) (lines : List String) (state : σ) {site : Site}
    (hsite : site ∈ sites) :
    let run := Mutation.apply rules (Decider.fixed answer) sites lines state
    (itemAt lines site.line = none →
      run.atLine site.line = ([], [⟨site.line, .outOfRange⟩])) ∧
    ∀ target, itemAt lines site.line = some target →
      (Suppressed rules.directive lines site.line →
        run.atLine site.line = ([], [⟨site.line, .alreadySuppressed⟩])) ∧
      (¬ Suppressed rules.directive lines site.line → 0 ≤ rules.config.context →
        run.atLine site.line = (rules.endIn site target (rules.styleFor answer
          (linesAbove rules.config.context lines site.line ++ linesFrom rules.config.context
            run.lines (landing (fun e => e.block.length) run.edits site.line)))).told) := by
  intro run
  have hgoing := Mutation.apply_going (Decider.fixed_answers answer) rules sites lines state
  have hlen := (Mutation.length_endings rules (Decider.fixed answer) sites lines state).2 hgoing
  rw [Mutation.endings, List.length_map] at hlen
  have hmap : (sites.zip run.records).map Prod.fst = sites := List.map_fst_zip hlen.ge
  rw [← hmap, List.mem_map] at hsite
  obtain ⟨⟨_, record⟩, hzip, rfl⟩ := hsite
  have htold := Mutation.atLine_eq_told rules _ hdesc lines state hgoing hzip
  obtain ⟨seen, state', rfl, hseen⟩ := Mutation.exists_seen rules _ hdesc lines state hzip
  refine ⟨fun hnone => ?_, fun target htarget => ⟨fun habove => ?_, fun habove hradius => ?_⟩⟩
  · rw [htold, applySite_outOfRange rules _ state' ((hseen.upTo _ le_rfl).trans hnone)]
    rfl
  · rw [htold, applySite_suppressed rules _ state' ((hseen.upTo _ le_rfl).trans htarget)
      ((hseen.suppressed_iff _).mpr habove)]
    rfl
  · obtain ⟨hlow, hhigh⟩ := itemAt_bounds htarget
    rw [htold, applySite_fixed rules answer state' ((hseen.upTo _ le_rfl).trans htarget)
      (mt (hseen.suppressed_iff _).mp habove), hseen.window_eq hlow hhigh hradius]

theorem Mutation.linesFrom_eq (rules : SiteRules) (decide : Decider σ) {sites : List Site}
    (hdesc : Descending Site.line sites) (lines : List String) (state : σ) {n : Int}
    (radius : Int) {target : String} (htarget : itemAt lines n = some target)
    (hreach : ∀ e ∈ (Mutation.apply rules decide sites lines state).edits,
      n < e.line → n + radius ≤ e.line) :
    linesFrom radius (Mutation.apply rules decide sites lines state).lines
        (landing (fun e => e.block.length)
          (Mutation.apply rules decide sites lines state).edits n) =
      linesFrom radius lines n := by
  have hfree : ∀ k : Int, n + 1 ≤ k → k < n + 1 + ((max radius 1).toNat - 1 : Nat) →
      frontAt Edit.block (Mutation.apply rules decide sites lines state).edits k = [] := by
    intro k hlow hhigh
    refine frontAt_eq_nil fun e he heq => ?_
    have := hreach e he (by omega)
    omega
  have hone : (max radius 1).toNat = ((max radius 1).toNat - 1) + 1 := by omega
  rw [Markup.linesFrom_eq_cons radius htarget, linesFrom, apply_lines rules decide hdesc,
    drop_landing Edit.block (edits_descending rules decide hdesc lines state)
      (edits_pos rules decide hdesc lines state) htarget,
    hone, List.take_succ_cons, take_interleave hfree]
  rfl

/-- **A site among others.** With a fixed answer, a radius that is not negative and descending
lines, a site of the plan is compared with the site alone, both on the same lines:

* if its line is not there or silenced, it is passed over for the same reason;
* otherwise it has the same line, target and messages, and each time the style is the answer if the
  file is one with markup and the window hints at it, and plain if not; in the whole plan the lines
  from the target on are those behind the run, and alone they are those before it;
* so the treatment is the same exactly if the line is not there or silenced, the answer is plain,
  the file is not one with markup, or both windows hint at markup or neither does;
* it is the same if no edit is fewer lines below the site than the radius. -/
theorem site_among_others (config : Config) (path : String) (filesRemaining : Int)
    (answer : CommentStyle) (hradius : 0 ≤ config.context) {sites : List Site}
    (hdesc : Descending Site.line sites) (lines : List String) {site : Site} (hsite : site ∈ sites)
    (state : σ) :
    let rules : SiteRules := ⟨config, path, config.directive, filesRemaining⟩
    let whole := Mutation.apply rules (Decider.fixed answer) sites lines state
    let alone := Mutation.apply rules (Decider.fixed answer) [site] lines state
    let window := linesAbove config.context lines site.line ++
      linesFrom config.context lines site.line
    let window' := linesAbove config.context lines site.line ++
      linesFrom config.context whole.lines
        (landing (fun e => e.block.length) whole.edits site.line)
    let same := whole.atLine site.line = alone.atLine site.line
    (itemAt lines site.line = none ∨ Suppressed config.directive lines site.line → same) ∧
    (∀ target, itemAt lines site.line = some target →
      ¬ Suppressed config.directive lines site.line →
      alone.atLine site.line =
        (rules.endIn site target (rules.styleFor answer window)).told ∧
      whole.atLine site.line =
        (rules.endIn site target (rules.styleFor answer window')).told) ∧
    (same ↔ itemAt lines site.line = none ∨ Suppressed config.directive lines site.line ∨
      answer = .plain ∨ config.isMarkupFile path = false ∨ anyHints window' = anyHints window) ∧
    ((∀ edit ∈ whole.edits, site.line < edit.line → site.line + config.context ≤ edit.line) →
      same) := by
  intro rules whole alone window window' same
  have hsingle : Descending Site.line [site] := List.pairwise_singleton _ _
  obtain ⟨hwholeNone, hwhole⟩ := atLine_fixed rules answer hdesc lines state hsite
  obtain ⟨haloneNone, halone⟩ := atLine_fixed rules answer hsingle lines state List.mem_cons_self
  have hshut : itemAt lines site.line = none ∨ Suppressed config.directive lines site.line →
      same := by
    intro hcase
    rcases htarget : itemAt lines site.line with _ | target
    · exact (hwholeNone htarget).trans (haloneNone htarget).symm
    · have habove := hcase.resolve_left (by simp [htarget])
      exact ((hwhole target htarget).1 habove).trans ((halone target htarget).1 habove).symm
  -- alone, the site has no edit below it
  have hown : ∀ e ∈ alone.edits, site.line < e.line → site.line + config.context ≤ e.line := by
    intro e he hlt
    have hmem := (Mutation.edits_sublist rules (Decider.fixed answer) [site] lines state).subset
      (List.mem_map_of_mem he)
    rw [List.map_singleton, List.mem_singleton] at hmem
    omega
  have hopen : ∀ target, itemAt lines site.line = some target →
      ¬ Suppressed config.directive lines site.line →
      alone.atLine site.line = (rules.endIn site target (rules.styleFor answer window)).told ∧
      whole.atLine site.line =
        (rules.endIn site target (rules.styleFor answer window')).told := by
    intro target htarget habove
    have hfrom := Mutation.linesFrom_eq rules (Decider.fixed answer) hsingle lines state
      config.context htarget hown
    refine ⟨?_, (hwhole target htarget).2 habove hradius⟩
    rw [(halone target htarget).2 habove hradius, hfrom]
  have hiff : same ↔ itemAt lines site.line = none ∨ Suppressed config.directive lines site.line ∨
      answer = .plain ∨ config.isMarkupFile path = false ∨
        anyHints window' = anyHints window := by
    rcases htarget : itemAt lines site.line with _ | target
    · exact ⟨fun _ => Or.inl rfl, fun _ => hshut (Or.inl htarget)⟩
    · by_cases habove : Suppressed config.directive lines site.line
      · exact ⟨fun _ => Or.inr (Or.inl habove), fun _ => hshut (Or.inr habove)⟩
      · obtain ⟨halone', hwhole'⟩ := hopen target htarget habove
        have hstyle := rules.styleFor_eq_iff answer window' window
        rw [← rules.endIn_inj site target,
          ← SiteEnd.told_inj (rules.endIn_ne_abandoned site target _), ← halone', ← hwhole']
          at hstyle
        simpa [habove] using hstyle
  refine ⟨hshut, hopen, hiff, fun hreach => ?_⟩
  rcases htarget : itemAt lines site.line with _ | target
  · exact hshut (Or.inl htarget)
  · refine hiff.mpr (Or.inr (Or.inr (Or.inr (Or.inr ?_))))
    have hfrom := Mutation.linesFrom_eq rules (Decider.fixed answer) hdesc lines state
      config.context htarget hreach
    rw [show window' = window from congrArg _ hfrom]

/-- The site two lines above another is treated as alone, in a file with markup above it. -/
theorem site_among_others_apart :
    let config := ({ context := some 2 } : Draft).freeze
    let rules : SiteRules := ⟨config, "a.tsx", config.directive, 0⟩
    let sites : List Site := [⟨4, ["</p>"]⟩, ⟨2, ["m"]⟩]
    let lines := [" <p>", "x", "y", "z"]
    let whole := Mutation.apply rules (Decider.fixed .embedded) sites lines ()
    let alone := Mutation.apply rules (Decider.fixed .embedded) [⟨2, ["m"]⟩] lines ()
    0 ≤ config.context ∧ Descending Site.line sites ∧ ⟨2, ["m"]⟩ ∈ sites ∧
    whole.atLine 2 = ([⟨2, ["\x7b/* m */\x7d",
      "\x7b/* @ts-expect-error TODO: fix error and remove */\x7d"], "x"⟩], []) ∧
    whole.atLine 2 = alone.atLine 2 := by
  intro config rules sites lines whole alone
  have hdesc : Descending Site.line sites := by simp [Descending, sites]
  have hsite : ⟨2, ["m"]⟩ ∈ sites := by simp [sites]
  obtain ⟨-, -, -, hreach⟩ :=
    site_among_others config "a.tsx" 0 .embedded (by decide) hdesc lines hsite ()
  exact ⟨by decide, hdesc, hsite, by decide +kernel, hreach (by decide +kernel)⟩

/-- **A neighbour changes the style.** The message at line 2 has a tag in it. Once its block is in
place it stands in the window of line 1, which then gets a comment in braces; alone, line 1 gets a
line comment. -/
theorem neighbour_changes_style :
    let config := ({} : Draft).freeze
    let rules : SiteRules := ⟨config, "a.tsx", config.directive, 0⟩
    let sites : List Site := [⟨2, ["</p>"]⟩, ⟨1, ["m"]⟩]
    let lines := ["x", "y"]
    let whole := Mutation.apply rules (Decider.fixed .embedded) sites lines ()
    let alone := Mutation.apply rules (Decider.fixed .embedded) [⟨1, ["m"]⟩] lines ()
    0 ≤ config.context ∧ Descending Site.line sites ∧ ⟨1, ["m"]⟩ ∈ sites ∧
    whole.atLine 1 = ([⟨1, ["\x7b/* m */\x7d",
      "\x7b/* @ts-expect-error TODO: fix error and remove */\x7d"], "x"⟩], []) ∧
    alone.atLine 1 = ([⟨1, ["// m", "// @ts-expect-error TODO: fix error and remove"], "x"⟩], []) ∧
    whole.atLine 1 ≠ alone.atLine 1 := by
  intro config rules sites lines whole alone
  have hdesc : Descending Site.line sites := by simp [Descending, sites]
  exact ⟨by decide, hdesc, by simp [sites], by decide +kernel, by decide +kernel,
    by decide +kernel⟩

end ExpectError
