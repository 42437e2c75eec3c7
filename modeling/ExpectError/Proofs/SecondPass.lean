import ExpectError.Proofs.Placement

/-!
# A second pass

Once a plan is applied, a line that got a block has the directive right above it, and so has a line
that was silenced before, since no block goes in between. Both kinds are silenced at the numbers where
they land (`Placed.silenced_after`). A pass over silenced lines does nothing, whatever made them so
and whatever the sites say apart from their lines (`Mutation.apply_silenced`). `second_pass_idle`
joins the two: a plan for lines that are dealt with changes nothing, in any order and with any
decision source.
-/

namespace ExpectError

variable {σ τ : Type}

/-- The line is there, and the one above it has the directive. -/
def Silenced (directive : String) (lines : List String) (n : Int) : Prop :=
  (1 ≤ n ∧ n ≤ lines.length) ∧ Suppressed directive lines n

theorem Placed.silenced_after {rules : SiteRules} {sites : List Site} {before after : List String}
    {edits : List Edit} (h : Placed rules sites before edits after)
    (hsame : rules.config.directive = rules.directive) {n : Int} (hlow : 1 ≤ n)
    (hhigh : n ≤ before.length)
    (hn : Suppressed rules.directive before n ∨ ∃ edit ∈ edits, edit.line = n) :
    Silenced rules.directive after (landing (fun e => e.block.length) edits n) := by
  obtain ⟨line, hline⟩ := exists_itemAt hlow hhigh
  rw [← h.itemAt_after hlow hhigh] at hline
  exact ⟨itemAt_bounds hline, h.suppressed_after hsame hlow hhigh hn⟩

namespace Mutation

/-! ## Silenced sites -/

/-- What becomes of silenced sites: they are passed over. -/
def silenced (sites : List Site) (lines : List String) (state : σ) : Mutation σ where
  lines := lines
  state := state
  records := sites.map fun site =>
    ⟨lines.length, none, .skipped ⟨site.line, .alreadySuppressed⟩⟩

section Silenced

variable (sites : List Site) (lines : List String) (state : σ)

@[simp] theorem silenced_edits : (silenced sites lines state).edits = [] := by
  simp [silenced, edits]

@[simp] theorem silenced_skips : (silenced sites lines state).skips =
    sites.map fun site => ⟨site.line, .alreadySuppressed⟩ := by
  rw [skips, silenced, List.filterMap_map, ← List.filterMap_eq_map]
  rfl

@[simp] theorem silenced_asked : (silenced sites lines state).asked = [] := by
  simp [silenced, asked]

@[simp] theorem silenced_changed : (silenced sites lines state).changed = false := by
  simp [changed]

@[simp] theorem silenced_abandoned : (silenced sites lines state).abandoned = false := by
  simp [silenced, abandoned]

variable {sites lines}

theorem apply_silenced (rules : SiteRules) (decide : Decider σ)
    (h : ∀ site ∈ sites, Silenced rules.directive lines site.line) :
    apply rules decide sites lines state = silenced sites lines state := by
  induction sites with
  | nil => rfl
  | cons site sites ih =>
    obtain ⟨⟨hlow, hhigh⟩, habove⟩ := h site List.mem_cons_self
    obtain ⟨target, htarget⟩ := exists_itemAt hlow hhigh
    rw [apply, applySite_suppressed rules decide state htarget habove]
    simp [ih fun s hs => h s (List.mem_cons_of_mem _ hs), silenced]

end Silenced

/-! ## Behind a plan -/

/-- The line has been dealt with: it got a block, or it was silenced already. -/
def Covers (mutation : Mutation σ) (n : Int) : Prop :=
  (∃ edit ∈ mutation.edits, edit.line = n) ∨ ⟨n, .alreadySuppressed⟩ ∈ mutation.skips

theorem Covers.line_found {rules : SiteRules} {decide : Decider σ} {sites : List Site}
    (hdesc : Descending Site.line sites) {lines : List String} {state : σ} {n : Int}
    (h : (apply rules decide sites lines state).Covers n) :
    (1 ≤ n ∧ n ≤ lines.length) ∧ (Suppressed rules.directive lines n ∨
      ∃ edit ∈ (apply rules decide sites lines state).edits, edit.line = n) := by
  rcases h with ⟨edit, hedit, rfl⟩ | hskip
  · exact ⟨itemAt_bounds ((placed rules decide hdesc lines state).target hedit),
      Or.inr ⟨edit, hedit, rfl⟩⟩
  · obtain ⟨site, -, hends⟩ := skips_endsAs rules decide hdesc lines state hskip
    exact ⟨hends.of_suppressed.1, Or.inl hends.of_suppressed.2⟩

end Mutation

/-- **A second pass changes nothing.** Behind a plan with descending lines, each line that got a block
or was silenced already is found where the blocks at it and above have moved it. A second plan for
such lines, in any order, repeated, with any messages and any decision source, leaves the lines as
they are and asks nothing, and all its sites are passed over as already silenced. -/
theorem second_pass_idle (config : Config) (path : String) (filesRemaining : Int)
    (decide : Decider σ) {sites : List Site} (hdesc : Descending Site.line sites)
    (lines : List String) (state : σ) :
    let first := Mutation.apply ⟨config, path, config.directive, filesRemaining⟩ decide sites lines
      state
    let moved := landing (fun e => e.block.length) first.edits
    (∀ edit ∈ first.edits, itemAt first.lines (moved edit.line) = some edit.target) ∧
    (∀ n, first.Covers n → ∃ target, itemAt lines n = some target ∧
      itemAt first.lines (moved n) = some target) ∧
    ∀ (rules : SiteRules) (decide₂ : Decider τ) (sites₂ : List Site) (state₂ : τ),
      rules.directive = config.directive →
      (∀ site ∈ sites₂, ∃ n, first.Covers n ∧ site.line = moved n) →
      let second := Mutation.apply rules decide₂ sites₂ first.lines state₂
      second.lines = first.lines ∧ second.edits = [] ∧
        second.skips = sites₂.map (fun site => ⟨site.line, .alreadySuppressed⟩) ∧
        second.asked = [] ∧ second.abandoned = false ∧ second.state = state₂ := by
  intro first moved
  have hplaced : Placed ⟨config, path, config.directive, filesRemaining⟩ sites lines first.edits
      first.lines := Mutation.placed _ decide hdesc lines state
  have hmoved : ∀ n, first.Covers n → ∃ target, itemAt lines n = some target ∧
      itemAt first.lines (moved n) = some target := by
    intro n hn
    obtain ⟨⟨hlow, hhigh⟩, -⟩ := hn.line_found hdesc
    obtain ⟨target, htarget⟩ := exists_itemAt hlow hhigh
    exact ⟨target, htarget, (hplaced.itemAt_after hlow hhigh).trans htarget⟩
  refine ⟨fun edit hedit => ?_, hmoved, fun rules decide₂ sites₂ state₂ hsame hsites => ?_⟩
  · obtain ⟨target, htarget, hfound⟩ := hmoved edit.line (Or.inl ⟨edit, hedit, rfl⟩)
    rw [hfound, ← htarget, hplaced.target hedit]
  · intro second
    have hsecond : second = Mutation.silenced sites₂ first.lines state₂ := by
      refine Mutation.apply_silenced state₂ rules decide₂ fun site hsite => ?_
      obtain ⟨n, hn, hline⟩ := hsites site hsite
      obtain ⟨⟨hlow, hhigh⟩, hdealt⟩ := hn.line_found hdesc
      rw [hsame, hline]
      exact hplaced.silenced_after rfl hlow hhigh hdealt
    rw [hsecond]
    exact ⟨rfl, by simp, by simp, by simp, by simp, rfl⟩

/-- Two neighbours, one of them the first line, and a line that was silenced, with a line break in the
directive. The second plan has them in another order and one of them twice, and its decision source
always gives up. -/
theorem second_pass_idle_neighbours :
    let config := ({ directive := some "@a\n@b" } : Draft).freeze
    let sites : List Site := [⟨4, ["m"]⟩, ⟨2, ["n"]⟩, ⟨1, ["k"]⟩]
    let first := Mutation.apply ⟨config, "a.tsx", config.directive, 0⟩ Decider.listed sites
      [" <p>", "x", "// @a\n@b", "y"] [.embedded]
    let second := Mutation.apply ⟨config, "b.tsx", config.directive, 3⟩
      (fun _ (state : Unit) => (none, state))
      [⟨3, []⟩, ⟨8, ["z"]⟩, ⟨6, ["</p>"]⟩, ⟨3, ["w"]⟩] first.lines ()
    Descending Site.line sites ∧
    first.lines = [" // k", " // @a\n@b TODO: fix error and remove", " <p>", "\x7b/* n */\x7d",
      "\x7b/* @a\n@b TODO: fix error and remove */\x7d", "x", "// @a\n@b", "y"] ∧
    second.lines = first.lines ∧ second.edits = [] ∧ second.asked = [] := by
  intro config sites first second
  have hdesc : Descending Site.line sites := by simp [Descending, sites]
  have hedits : first.edits.map Edit.line = [2, 1] := by decide +kernel
  have hskips : first.skips = [⟨4, .alreadySuppressed⟩] := by decide +kernel
  have hlanding : [1, 2, 4].map (landing (fun e => e.block.length) first.edits) = [3, 6, 8] := by
    decide +kernel
  simp only [List.map_cons, List.map_nil, List.cons.injEq, and_true] at hlanding
  obtain ⟨hone, htwo, hfour⟩ := hlanding
  have hcovers : ∀ n, n = 1 ∨ n = 2 ∨ n = 4 → first.Covers n := by
    intro n hn
    rcases hn with rfl | rfl | rfl
    · exact Or.inl (List.mem_map.mp (hedits ▸ by simp))
    · exact Or.inl (List.mem_map.mp (hedits ▸ by simp))
    · exact Or.inr (by simp [hskips])
  obtain ⟨-, -, hidle⟩ := second_pass_idle config "a.tsx" 0 Decider.listed hdesc
    [" <p>", "x", "// @a\n@b", "y"] [.embedded]
  obtain ⟨hlines, hnone, -, hasked, -, -⟩ := hidle ⟨config, "b.tsx", config.directive, 3⟩
    (fun _ (state : Unit) => (none, state))
    [⟨3, []⟩, ⟨8, ["z"]⟩, ⟨6, ["</p>"]⟩, ⟨3, ["w"]⟩] () rfl <| by
      intro site hsite
      simp only [List.mem_cons, List.not_mem_nil, or_false] at hsite
      rcases hsite with rfl | rfl | rfl | rfl
      · exact ⟨1, hcovers 1 (by simp), hone.symm⟩
      · exact ⟨4, hcovers 4 (by simp), hfour.symm⟩
      · exact ⟨2, hcovers 2 (by simp), htwo.symm⟩
      · exact ⟨1, hcovers 1 (by simp), hone.symm⟩
  exact ⟨hdesc, by decide +kernel, hlines, hnone, hasked⟩

end ExpectError
