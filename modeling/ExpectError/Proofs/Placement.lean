import ExpectError.Proofs.Block

/-!
# Where the blocks go

The sites of a plan are applied to a list that changes under them: the range of a line, the line
above it, its indentation and the place of the insertion are all read off lines that earlier sites
have moved. With the sites in descending order the lines up to the next site are still the first
ones, so every site ends as the *first* lines say (`apply_endsAs`), and the result is these lines
with the blocks in front of theirs (`apply_lines`). `EndsAs` says how a site may end; it mentions
one list of lines only. `Placed` keeps what later modules need to know of the edits of a plan.
-/

namespace ExpectError

open Markup (leadingSpaces)

variable {σ : Type}

/-! ## One site -/

/-- How a site may end, judged by the lines of a file. -/
inductive EndsAs (rules : SiteRules) (lines : List String) (site : Site) : SiteEnd → Prop
  | outOfRange (hrange : itemAt lines site.line = none) :
      EndsAs rules lines site (.skipped ⟨site.line, .outOfRange⟩)
  | suppressed {target : String} (htarget : itemAt lines site.line = some target)
      (habove : Suppressed rules.directive lines site.line) :
      EndsAs rules lines site (.skipped ⟨site.line, .alreadySuppressed⟩)
  | declined {target : String} (htarget : itemAt lines site.line = some target)
      (habove : ¬ Suppressed rules.directive lines site.line) :
      EndsAs rules lines site (.skipped ⟨site.line, .declined⟩)
  | abandoned {target : String} (htarget : itemAt lines site.line = some target)
      (habove : ¬ Suppressed rules.directive lines site.line) :
      EndsAs rules lines site .abandoned
  | edited {target : String} {block : List String} (htarget : itemAt lines site.line = some target)
      (habove : ¬ Suppressed rules.directive lines site.line)
      (hblock : IsBlock rules.config site.messages target block) :
      EndsAs rules lines site (.edited ⟨site.line, block, target⟩)

def SiteEnd.line? : SiteEnd → Option Int
  | .edited edit => some edit.line
  | .skipped skip => some skip.line
  | .abandoned => none

/-- The lines behind a site. -/
def SiteEnd.linesAfter (lines : List String) : SiteEnd → List String
  | .edited edit => insertAt lines (edit.line - 1).toNat edit.block
  | _ => lines

theorem applySite_outOfRange (rules : SiteRules) (decide : Decider σ) {site : Site}
    {lines : List String} (state : σ) (h : itemAt lines site.line = none) :
    applySite rules decide site lines state =
      ⟨lines, state, none, .skipped ⟨site.line, .outOfRange⟩⟩ := by
  unfold applySite
  by_cases hlow : site.line < 1
  · rw [if_pos hlow]
  · rw [itemAt, if_neg hlow] at h
    rw [if_neg hlow, h]

theorem applySite_suppressed (rules : SiteRules) (decide : Decider σ) {site : Site}
    {lines : List String} (state : σ) {target : String} (h : itemAt lines site.line = some target)
    (habove : Suppressed rules.directive lines site.line) :
    applySite rules decide site lines state =
      ⟨lines, state, none, .skipped ⟨site.line, .alreadySuppressed⟩⟩ := by
  have hlow : ¬ site.line < 1 := by have := (itemAt_bounds h).1; omega
  have hsup := (isSuppressed_iff h).mpr habove
  rw [itemAt, if_neg hlow] at h
  unfold applySite
  rw [if_neg hlow, h]
  exact if_pos hsup

/-- The step of a site that is there and not silenced, once its style is chosen. -/
def settleSite (rules : SiteRules) (site : Site) (lines : List String) (target : String) :
    Option CommentStyle × σ × Option Asked → SiteStep σ
  | (none, state, asked) => ⟨lines, state, asked, .abandoned⟩
  | (some .skip, state, asked) => ⟨lines, state, asked, .skipped ⟨site.line, .declined⟩⟩
  | (some style, state, asked) =>
    let block := (site.messages ++ [rules.config.note]).map (commentLine style target)
    ⟨insertAt lines (site.line - 1).toNat block, state, asked, .edited ⟨site.line, block, target⟩⟩

theorem applySite_open (rules : SiteRules) (decide : Decider σ) {site : Site}
    {lines : List String} (state : σ) {target : String} (h : itemAt lines site.line = some target)
    (habove : ¬ Suppressed rules.directive lines site.line) :
    applySite rules decide site lines state =
      settleSite rules site lines target (chooseStyle rules decide site lines state) := by
  have hlow : ¬ site.line < 1 := by have := (itemAt_bounds h).1; omega
  have hsup := mt (isSuppressed_iff h).mp habove
  rw [itemAt, if_neg hlow] at h
  unfold applySite
  rw [if_neg hlow, h]
  dsimp only
  rw [if_neg hsup]
  obtain ⟨style?, state', asked⟩ := chooseStyle rules decide site lines state
  rcases style? with _ | style
  · rfl
  · have hblock : ∀ style : CommentStyle, style ≠ .skip → ∃ first rest,
        rules.config.block site.messages style (leadingSpaces target) = first :: rest ∧
          (site.messages ++ [rules.config.note]).map (commentLine style target) =
            first :: rest := by
      intro style hstyle
      obtain ⟨first, rest, hcons⟩ := List.exists_cons_of_ne_nil (mt block_eq_nil_iff.mp hstyle)
      exact ⟨first, rest, hcons, (block_eq_map hstyle _ _ _).symm.trans hcons⟩
    cases style with
    | skip =>
      have hnil : rules.config.block site.messages .skip (leadingSpaces target) = [] :=
        block_eq_nil_iff.mpr rfl
      simp only [settleSite, hnil]
    | plain =>
      obtain ⟨first, rest, hcode, hspec⟩ := hblock .plain (by decide)
      simp only [settleSite, hcode, hspec]
    | embedded =>
      obtain ⟨first, rest, hcode, hspec⟩ := hblock .embedded (by decide)
      simp only [settleSite, hcode, hspec]

theorem settleSite_endsAs {rules : SiteRules} {site : Site} {lines : List String} {target : String}
    (h : itemAt lines site.line = some target)
    (habove : ¬ Suppressed rules.directive lines site.line)
    (choice : Option CommentStyle × σ × Option Asked) :
    EndsAs rules lines site (settleSite rules site lines target choice).ending ∧
      (settleSite rules site lines target choice).lines =
        (settleSite rules site lines target choice).ending.linesAfter lines := by
  have hblock : ∀ style : CommentStyle, style ≠ .skip → IsBlock rules.config site.messages target
      ((site.messages ++ [rules.config.note]).map (commentLine style target)) := by
    intro style hstyle
    rw [← block_eq_map hstyle]
    exact block_isBlock hstyle _ _ _
  obtain ⟨style?, state, asked⟩ := choice
  rcases style? with _ | style
  · exact ⟨.abandoned h habove, rfl⟩
  · cases style with
    | skip => exact ⟨.declined h habove, rfl⟩
    | plain => exact ⟨.edited h habove (hblock .plain (by decide)), rfl⟩
    | embedded => exact ⟨.edited h habove (hblock .embedded (by decide)), rfl⟩

theorem applySite_endsAs (rules : SiteRules) (decide : Decider σ) (site : Site)
    (lines : List String) (state : σ) :
    EndsAs rules lines site (applySite rules decide site lines state).ending ∧
      (applySite rules decide site lines state).lines =
        (applySite rules decide site lines state).ending.linesAfter lines := by
  rcases h : itemAt lines site.line with _ | target
  · rw [applySite_outOfRange rules decide state h]
    exact ⟨.outOfRange h, rfl⟩
  · by_cases habove : Suppressed rules.directive lines site.line
    · rw [applySite_suppressed rules decide state h habove]
      exact ⟨.suppressed h habove, rfl⟩
    · rw [applySite_open rules decide state h habove]
      exact settleSite_endsAs h habove _

theorem applySite_abandoned_iff (rules : SiteRules) (decide : Decider σ) (site : Site)
    (lines : List String) (state : σ) :
    (applySite rules decide site lines state).ending = .abandoned ↔
      ∃ asked, (applySite rules decide site lines state).asked = some asked ∧
        asked.answer = none := by
  rcases h : itemAt lines site.line with _ | target
  · simp [applySite_outOfRange rules decide state h]
  · by_cases habove : Suppressed rules.directive lines site.line
    · simp [applySite_suppressed rules decide state h habove]
    · rw [applySite_open rules decide state h habove, chooseStyle]
      cases rules.question? site lines with
      | none => simp [settleSite]
      | some question =>
        rcases hanswer : (decide question state).1 with _ | style
        · simp [settleSite, hanswer]
        · cases style <;> simp [settleSite, hanswer]

theorem EndsAs.line?_eq {rules : SiteRules} {lines : List String} {site : Site} {ending : SiteEnd}
    (h : EndsAs rules lines site ending) (hend : ending ≠ .abandoned) :
    ending.line? = some site.line := by
  cases h with
  | abandoned => exact absurd rfl hend
  | _ => rfl

section Inversion

variable {rules : SiteRules} {lines : List String} {site : Site}

theorem EndsAs.of_outOfRange {n : Int}
    (h : EndsAs rules lines site (.skipped ⟨n, .outOfRange⟩)) : itemAt lines n = none := by
  cases h with
  | outOfRange hnone => exact hnone

theorem EndsAs.of_suppressed {n : Int}
    (h : EndsAs rules lines site (.skipped ⟨n, .alreadySuppressed⟩)) :
    (1 ≤ n ∧ n ≤ lines.length) ∧ Suppressed rules.directive lines n := by
  cases h with
  | suppressed htarget habove => exact ⟨itemAt_bounds htarget, habove⟩

theorem EndsAs.of_declined {n : Int} (h : EndsAs rules lines site (.skipped ⟨n, .declined⟩)) :
    (1 ≤ n ∧ n ≤ lines.length) ∧ ¬ Suppressed rules.directive lines n := by
  cases h with
  | declined htarget habove => exact ⟨itemAt_bounds htarget, habove⟩

theorem EndsAs.of_edited {edit : Edit} (h : EndsAs rules lines site (.edited edit)) :
    itemAt lines edit.line = some edit.target ∧ ¬ Suppressed rules.directive lines edit.line ∧
      site.line = edit.line ∧ IsBlock rules.config site.messages edit.target edit.block := by
  cases h with
  | edited htarget habove hblock => exact ⟨htarget, habove, rfl, hblock⟩

end Inversion

theorem EndsAs.congr {rules : SiteRules} {lines lines' : List String} {site : Site}
    {ending : SiteEnd} (h : EndsAs rules lines site ending)
    (hself : itemAt lines' site.line = itemAt lines site.line)
    (habove : itemAt lines' (site.line - 1) = itemAt lines (site.line - 1)) :
    EndsAs rules lines' site ending := by
  have hsup := Suppressed.congr rules.directive habove
  cases h with
  | outOfRange hrange => exact .outOfRange (hself.trans hrange)
  | suppressed htarget hs => exact .suppressed (hself.trans htarget) (hsup.mpr hs)
  | declined htarget hs => exact .declined (hself.trans htarget) (mt hsup.mp hs)
  | abandoned htarget hs => exact .abandoned (hself.trans htarget) (mt hsup.mp hs)
  | edited htarget hs hblock => exact .edited (hself.trans htarget) (mt hsup.mp hs) hblock

theorem EndsAs.itemAt_linesAfter {rules : SiteRules} {lines : List String} {site : Site}
    {ending : SiteEnd} (h : EndsAs rules lines site ending) {n : Int} (hn : n < site.line) :
    itemAt (ending.linesAfter lines) n = itemAt lines n := by
  cases h with
  | edited htarget hs hblock =>
    have hb := itemAt_bounds htarget
    have hlen : n ≤ (lines.take (site.line - 1).toNat).length := by
      rw [List.length_take]
      omega
    rw [SiteEnd.linesAfter, insertAt, List.append_assoc, itemAt_append_left hlen,
      itemAt_take (by omega)]
  | _ => rfl

/-- The edit of an end, if there is one. -/
def SiteEnd.edit? : SiteEnd → Option Edit
  | .edited edit => some edit
  | _ => none

/-- The skip of an end, if there is one. -/
def SiteEnd.skip? : SiteEnd → Option Skip
  | .skipped skip => some skip
  | _ => none

theorem EndsAs.interleave_linesAfter {rules : SiteRules} {lines : List String} {site : Site}
    {ending : SiteEnd} (h : EndsAs rules lines site ending) {edits : List Edit}
    (hbelow : ∀ e ∈ edits, e.line < site.line) :
    interleave (frontAt Edit.block edits) 1 (ending.linesAfter lines) =
      interleave (frontAt Edit.block (ending.edit?.toList ++ edits)) 1 lines := by
  cases h with
  | edited htarget => exact interleave_insertAt htarget hbelow
  | _ => rfl

/-! ## All sites -/

namespace Mutation

/-- The ends of the sites, in their order. -/
def endings (mutation : Mutation σ) : List SiteEnd :=
  mutation.records.map SiteRecord.ending

theorem edits_eq (mutation : Mutation σ) :
    mutation.edits = mutation.endings.filterMap SiteEnd.edit? := by
  rw [endings, List.filterMap_map]
  rfl

theorem skips_eq (mutation : Mutation σ) :
    mutation.skips = mutation.endings.filterMap SiteEnd.skip? := by
  rw [endings, List.filterMap_map]
  rfl

theorem edits_cons {mutation rest : Mutation σ} {ending : SiteEnd}
    (h : mutation.endings = ending :: rest.endings) :
    mutation.edits = ending.edit?.toList ++ rest.edits := by
  rw [edits_eq, edits_eq, h, List.filterMap_cons]
  cases ending.edit? <;> rfl

theorem skips_cons {mutation rest : Mutation σ} {ending : SiteEnd}
    (h : mutation.endings = ending :: rest.endings) :
    mutation.skips = ending.skip?.toList ++ rest.skips := by
  rw [skips_eq, skips_eq, h, List.filterMap_cons]
  cases ending.skip? <;> rfl

theorem mem_edits_iff {mutation : Mutation σ} {edit : Edit} :
    edit ∈ mutation.edits ↔ .edited edit ∈ mutation.endings := by
  rw [edits_eq, List.mem_filterMap]
  constructor
  · rintro ⟨ending, hmem, hedit⟩
    cases ending <;> simp_all [SiteEnd.edit?]
  · intro hmem
    exact ⟨_, hmem, rfl⟩

theorem mem_skips_iff {mutation : Mutation σ} {skip : Skip} :
    skip ∈ mutation.skips ↔ .skipped skip ∈ mutation.endings := by
  rw [skips_eq, List.mem_filterMap]
  constructor
  · rintro ⟨ending, hmem, hskip⟩
    cases ending <;> simp_all [SiteEnd.skip?]
  · intro hmem
    exact ⟨_, hmem, rfl⟩

theorem abandoned_eq_false_iff {mutation : Mutation σ} :
    mutation.abandoned = false ↔ .abandoned ∉ mutation.endings := by
  simp only [Mutation.abandoned, endings, List.any_eq_false, decide_eq_true_eq, List.mem_map,
    not_exists, not_and]

theorem exists_mem_zip {α β : Type} {items : List α} {others : List β} {other : β}
    (hlen : others.length ≤ items.length) (hmem : other ∈ others) :
    ∃ item, (item, other) ∈ items.zip others := by
  have hmap : (items.zip others).map Prod.snd = others := List.map_snd_zip hlen
  rw [← hmap, List.mem_map] at hmem
  obtain ⟨⟨item, _⟩, hzip, rfl⟩ := hmem
  exact ⟨item, hzip⟩

section Apply

variable (rules : SiteRules) (decide : Decider σ)

theorem apply_cons (site : Site) (sites : List Site) (lines : List String) (state : σ) :
    let step := applySite rules decide site lines state
    let run := apply rules decide (site :: sites) lines state
    let rest := apply rules decide sites step.lines step.state
    (step.ending = .abandoned ∧ run.lines = lines ∧ run.endings = [.abandoned]) ∨
      (step.ending ≠ .abandoned ∧ run.lines = rest.lines ∧
        run.endings = step.ending :: rest.endings) := by
  intro step run rest
  have hlines := (applySite_endsAs rules decide site lines state).2
  by_cases h : step.ending = .abandoned
  · left
    have hrun : run = ⟨step.lines, step.state, [⟨lines.length, step.asked, step.ending⟩]⟩ := by
      simp only [run, apply, if_pos h, step]
    refine ⟨h, ?_, ?_⟩
    · rw [hrun]
      exact hlines.trans (by rw [h]; rfl)
    · rw [hrun]
      exact congrArg (fun ending => [ending]) h
  · right
    refine ⟨h, ?_, ?_⟩
    · simp only [run, apply, if_neg h, rest, step]
    · simp only [run, apply, if_neg h, rest, step, endings, List.map_cons]

theorem apply_abandoned_iff (sites : List Site) (lines : List String) (state : σ) :
    (apply rules decide sites lines state).abandoned = true ↔
      ∃ asked ∈ (apply rules decide sites lines state).asked, asked.answer = none := by
  induction sites generalizing lines state with
  | nil => simp [apply, Mutation.abandoned, Mutation.asked]
  | cons site sites ih =>
    have hsite := applySite_abandoned_iff rules decide site lines state
    by_cases h : (applySite rules decide site lines state).ending = .abandoned
    · obtain ⟨asked, hasked, hnone⟩ := hsite.mp h
      have hrun : (apply rules decide (site :: sites) lines state).records =
          [⟨lines.length, some asked, .abandoned⟩] := by
        simp only [apply, if_pos h, hasked]
        rw [h]
      simp [Mutation.abandoned, Mutation.asked, hrun, hnone]
    · have hrun : (apply rules decide (site :: sites) lines state).records =
          ⟨lines.length, (applySite rules decide site lines state).asked,
            (applySite rules decide site lines state).ending⟩ ::
            (apply rules decide sites (applySite rules decide site lines state).lines
              (applySite rules decide site lines state).state).records := by
        simp only [apply, if_neg h]
      have hi := ih (applySite rules decide site lines state).lines
        (applySite rules decide site lines state).state
      have hnot := mt hsite.mpr h
      simp only [Mutation.abandoned, Mutation.asked, hrun, List.any_cons, h, decide_false,
        Bool.false_or] at hi ⊢
      rw [hi, List.filterMap_cons]
      cases hasked : (applySite rules decide site lines state).asked with
      | none => rfl
      | some asked =>
        have hsome : asked.answer ≠ none := fun hnone => hnot ⟨asked, hasked, hnone⟩
        simp [hsome]

theorem apply_endsAs {sites : List Site} (hdesc : Descending Site.line sites) (lines : List String)
    (state : σ) :
    ∀ p ∈ sites.zip (apply rules decide sites lines state).endings,
      EndsAs rules lines p.1 p.2 := by
  induction sites generalizing lines state with
  | nil => simp
  | cons site sites ih =>
    obtain ⟨hfirst, hrest⟩ := List.pairwise_cons.mp hdesc
    obtain ⟨hends, hlines⟩ := applySite_endsAs rules decide site lines state
    rintro ⟨other, ending⟩ hmem
    rcases apply_cons rules decide site sites lines state with ⟨hend, -, hrun⟩ | ⟨-, -, hrun⟩
    · simp only [hrun, List.zip_cons_cons, List.zip_nil_right, List.mem_singleton] at hmem
      obtain ⟨rfl, rfl⟩ := Prod.mk.inj hmem
      exact hend ▸ hends
    · rw [hrun, List.zip_cons_cons, List.mem_cons] at hmem
      rcases hmem with heq | hmem
      · obtain ⟨rfl, rfl⟩ := Prod.mk.inj heq
        exact hends
      · -- the lines up to the next site are those that the run began with
        have hlt : other.line < site.line := hfirst other (List.of_mem_zip hmem).1
        have hother := ih hrest _ _ _ hmem
        rw [hlines] at hother
        exact hother.congr (hends.itemAt_linesAfter hlt).symm
          (hends.itemAt_linesAfter (show other.line - 1 < site.line by omega)).symm

theorem length_endings (sites : List Site) (lines : List String) (state : σ) :
    (apply rules decide sites lines state).endings.length ≤ sites.length ∧
      (.abandoned ∉ (apply rules decide sites lines state).endings →
        (apply rules decide sites lines state).endings.length = sites.length) := by
  induction sites generalizing lines state with
  | nil => simp [apply, endings]
  | cons site sites ih =>
    rcases apply_cons rules decide site sites lines state with ⟨-, -, hrun⟩ | ⟨hend, -, hrun⟩
    · simp [hrun]
    · obtain ⟨hle, heq⟩ := ih (applySite rules decide site lines state).lines
        (applySite rules decide site lines state).state
      rw [hrun]
      refine ⟨by simpa using hle, fun hnot => ?_⟩
      simp only [List.mem_cons, not_or] at hnot
      simp [heq hnot.2]

theorem endings_sublist (choose : SiteEnd → Option Int)
    (hchoose : ∀ ending n, choose ending = some n → ending.line? = some n) (sites : List Site)
    (lines : List String) (state : σ) :
    ((apply rules decide sites lines state).endings.filterMap choose).Sublist
      (sites.map Site.line) := by
  induction sites generalizing lines state with
  | nil => simp [apply, endings]
  | cons site sites ih =>
    obtain ⟨hends, -⟩ := applySite_endsAs rules decide site lines state
    have hnone : choose .abandoned = none := by
      rcases h : choose .abandoned with _ | n
      · rfl
      · exact absurd (hchoose _ _ h) (by simp [SiteEnd.line?])
    rcases apply_cons rules decide site sites lines state with ⟨-, -, hrun⟩ | ⟨hend, -, hrun⟩
    · simp [hrun, hnone]
    · rw [hrun, List.map_cons]
      rcases hc : choose (applySite rules decide site lines state).ending with _ | n
      · rw [List.filterMap_cons_none hc]
        exact (ih _ _).cons _
      · have hline := hends.line?_eq hend
        rw [hchoose _ _ hc, Option.some.injEq] at hline
        rw [List.filterMap_cons_some hc, hline]
        exact (ih _ _).cons_cons _

theorem edits_sublist (sites : List Site) (lines : List String) (state : σ) :
    ((apply rules decide sites lines state).edits.map Edit.line).Sublist (sites.map Site.line) := by
  have h := endings_sublist rules decide (fun ending => ending.edit?.map Edit.line)
    (by intro ending n h; cases ending <;> simp_all [SiteEnd.edit?, SiteEnd.line?])
    sites lines state
  rwa [edits_eq, List.map_filterMap]

theorem skips_sublist (sites : List Site) (lines : List String) (state : σ) :
    ((apply rules decide sites lines state).skips.map Skip.line).Sublist (sites.map Site.line) := by
  have h := endings_sublist rules decide (fun ending => ending.skip?.map Skip.line)
    (by intro ending n h; cases ending <;> simp_all [SiteEnd.skip?, SiteEnd.line?])
    sites lines state
  rwa [skips_eq, List.map_filterMap]

theorem edits_descending {sites : List Site} (hdesc : Descending Site.line sites)
    (lines : List String) (state : σ) :
    Descending Edit.line (apply rules decide sites lines state).edits := by
  have hsites : (sites.map Site.line).Pairwise fun a b => b < a := List.pairwise_map.mpr hdesc
  exact List.pairwise_map.mp (hsites.sublist (edits_sublist rules decide sites lines state))

theorem edits_skips_perm (sites : List Site) (lines : List String) (state : σ)
    (h : .abandoned ∉ (apply rules decide sites lines state).endings) :
    ((apply rules decide sites lines state).edits.map Edit.line ++
      (apply rules decide sites lines state).skips.map Skip.line).Perm (sites.map Site.line) := by
  induction sites generalizing lines state with
  | nil => simp [apply, edits, skips]
  | cons site sites ih =>
    obtain ⟨hends, -⟩ := applySite_endsAs rules decide site lines state
    rcases apply_cons rules decide site sites lines state with ⟨-, -, hrun⟩ | ⟨hend, -, hrun⟩
    · simp [hrun] at h
    · have hline := hends.line?_eq hend
      rw [edits_cons hrun, skips_cons hrun]
      rw [hrun, List.mem_cons, not_or] at h
      have hi := ih _ _ h.2
      cases hstep : (applySite rules decide site lines state).ending with
      | edited edit =>
        rw [hstep] at hline
        have hl : edit.line = site.line := Option.some.inj hline
        simpa [SiteEnd.edit?, SiteEnd.skip?, hl] using hi
      | skipped skip =>
        rw [hstep] at hline
        have hl : skip.line = site.line := Option.some.inj hline
        simpa [SiteEnd.edit?, SiteEnd.skip?, hl] using List.perm_middle.trans (hi.cons _)
      | abandoned => exact absurd hstep hend

theorem skips_endsAs {sites : List Site} (hdesc : Descending Site.line sites) (lines : List String)
    (state : σ) {skip : Skip} (hskip : skip ∈ (apply rules decide sites lines state).skips) :
    ∃ site ∈ sites, EndsAs rules lines site (.skipped skip) := by
  rw [mem_skips_iff] at hskip
  obtain ⟨site, hzip⟩ := exists_mem_zip (length_endings rules decide sites lines state).1 hskip
  exact ⟨site, (List.of_mem_zip hzip).1, apply_endsAs rules decide hdesc lines state _ hzip⟩

theorem edits_endsAs {sites : List Site} (hdesc : Descending Site.line sites) (lines : List String)
    (state : σ) {edit : Edit} (hedit : edit ∈ (apply rules decide sites lines state).edits) :
    ∃ site ∈ sites, EndsAs rules lines site (.edited edit) := by
  rw [mem_edits_iff] at hedit
  obtain ⟨site, hzip⟩ := exists_mem_zip (length_endings rules decide sites lines state).1 hedit
  exact ⟨site, (List.of_mem_zip hzip).1, apply_endsAs rules decide hdesc lines state _ hzip⟩

theorem exists_ending {sites : List Site} (hdesc : Descending Site.line sites)
    (lines : List String) (state : σ) {site : Site} (hsite : site ∈ sites)
    (h : .abandoned ∉ (apply rules decide sites lines state).endings) :
    ∃ ending ∈ (apply rules decide sites lines state).endings, EndsAs rules lines site ending := by
  have hlen := (length_endings rules decide sites lines state).2 h
  have hmap : (sites.zip (apply rules decide sites lines state).endings).map Prod.fst = sites :=
    List.map_fst_zip hlen.ge
  rw [← hmap, List.mem_map] at hsite
  obtain ⟨⟨_, ending⟩, hzip, rfl⟩ := hsite
  exact ⟨ending, (List.of_mem_zip hzip).2, apply_endsAs rules decide hdesc lines state _ hzip⟩

/-- **What becomes of a site**, by the lines that the run began with. -/
theorem site_verdict {sites : List Site} (hdesc : Descending Site.line sites) (lines : List String)
    (state : σ) {site : Site} (hsite : site ∈ sites)
    (h : .abandoned ∉ (apply rules decide sites lines state).endings) :
    (⟨site.line, .outOfRange⟩ ∈ (apply rules decide sites lines state).skips ↔
        site.line < 1 ∨ lines.length < site.line) ∧
      (⟨site.line, .alreadySuppressed⟩ ∈ (apply rules decide sites lines state).skips ↔
        (1 ≤ site.line ∧ site.line ≤ lines.length) ∧
          Suppressed rules.directive lines site.line) ∧
      ((⟨site.line, .declined⟩ ∈ (apply rules decide sites lines state).skips ∨
          ∃ edit ∈ (apply rules decide sites lines state).edits, edit.line = site.line) ↔
        (1 ≤ site.line ∧ site.line ≤ lines.length) ∧
          ¬ Suppressed rules.directive lines site.line) := by
  obtain ⟨ending, hending, hends⟩ := exists_ending rules decide hdesc lines state hsite h
  rw [← itemAt_eq_none_iff]
  refine ⟨⟨fun hskip => ?_, fun hnone => ?_⟩, ⟨fun hskip => ?_, fun ⟨hrange, hsup⟩ => ?_⟩,
    ⟨fun hsettled => ?_, fun ⟨hrange, hsup⟩ => ?_⟩⟩
  · obtain ⟨other, -, hother⟩ := skips_endsAs rules decide hdesc lines state hskip
    exact hother.of_outOfRange
  · cases hends with
    | outOfRange => exact mem_skips_iff.mpr hending
    | suppressed htarget | declined htarget | abandoned htarget | edited htarget =>
      exact absurd (hnone.symm.trans htarget) (by simp)
  · obtain ⟨other, -, hother⟩ := skips_endsAs rules decide hdesc lines state hskip
    exact hother.of_suppressed
  · cases hends with
    | outOfRange hnone => exact absurd (itemAt_eq_none_iff.mp hnone) (by omega)
    | suppressed => exact mem_skips_iff.mpr hending
    | declined _ habove | abandoned _ habove | edited _ habove => exact absurd hsup habove
  · rcases hsettled with hskip | ⟨edit, hedit, hline⟩
    · obtain ⟨other, -, hother⟩ := skips_endsAs rules decide hdesc lines state hskip
      exact hother.of_declined
    · obtain ⟨other, -, hother⟩ := edits_endsAs rules decide hdesc lines state hedit
      obtain ⟨htarget, habove, -⟩ := hother.of_edited
      exact hline ▸ ⟨itemAt_bounds htarget, habove⟩
  · cases hends with
    | outOfRange hnone => exact absurd (itemAt_eq_none_iff.mp hnone) (by omega)
    | suppressed _ habove => exact absurd habove hsup
    | declined => exact Or.inl (mem_skips_iff.mpr hending)
    | abandoned => exact absurd hending h
    | edited => exact Or.inr ⟨_, mem_edits_iff.mpr hending, rfl⟩

/-- **The lines behind a run.** They are the lines that it began with, with the block of each edit
in front of its line. -/
theorem apply_lines {sites : List Site} (hdesc : Descending Site.line sites) (lines : List String)
    (state : σ) :
    (apply rules decide sites lines state).lines =
      interleave (frontAt Edit.block (apply rules decide sites lines state).edits) 1 lines := by
  induction sites generalizing lines state with
  | nil => exact (interleave_eq_self fun n _ _ => rfl).symm
  | cons site sites ih =>
    obtain ⟨hfirst, hrest⟩ := List.pairwise_cons.mp hdesc
    obtain ⟨hends, hstep⟩ := applySite_endsAs rules decide site lines state
    rcases apply_cons rules decide site sites lines state with ⟨-, hl, hrun⟩ | ⟨hend, hl, hrun⟩
    · rw [hl, edits_eq, hrun]
      exact (interleave_eq_self fun n _ _ => rfl).symm
    · have hi := ih hrest (applySite rules decide site lines state).lines
        (applySite rules decide site lines state).state
      have hbelow : ∀ edit ∈ (apply rules decide sites
          (applySite rules decide site lines state).lines
          (applySite rules decide site lines state).state).edits, edit.line < site.line := by
        intro edit hedit
        have hmem := (edits_sublist rules decide sites _ _).subset (List.mem_map_of_mem hedit)
        obtain ⟨other, hother, heq⟩ := List.mem_map.mp hmem
        exact heq ▸ hfirst other hother
      have hadd := hends.interleave_linesAfter hbelow
      rw [← hstep] at hadd
      rw [hl, hi, edits_cons hrun]
      exact hadd

end Apply

end Mutation

/-! ## Edits in place -/

/-- Edits of sites, each of them as the lines before say, and the lines behind: those before with the
block of each edit in front of its line. -/
structure Placed (rules : SiteRules) (sites : List Site) (before : List String) (edits : List Edit)
    (after : List String) : Prop where
  after : after = interleave (frontAt Edit.block edits) 1 before
  descending : Descending Edit.line edits
  ends : ∀ edit ∈ edits, ∃ site ∈ sites, EndsAs rules before site (.edited edit)

namespace Placed

variable {rules : SiteRules} {sites : List Site} {before after : List String} {edits : List Edit}
  (h : Placed rules sites before edits after)

include h

theorem target {edit : Edit} (hedit : edit ∈ edits) : itemAt before edit.line = some edit.target := by
  obtain ⟨site, -, hends⟩ := h.ends edit hedit
  exact hends.of_edited.1

theorem pos : ∀ e ∈ edits, 1 ≤ e.line :=
  fun _ he => (itemAt_bounds (h.target he)).1

theorem itemAt_after {n : Int} (hlow : 1 ≤ n) (hhigh : n ≤ before.length) :
    itemAt after (landing (fun e => e.block.length) edits n) = itemAt before n := by
  rw [h.after]
  exact itemAt_interleave Edit.block h.descending h.pos hlow hhigh

theorem suppressed_after (hsame : rules.config.directive = rules.directive) {n : Int} (hlow : 1 ≤ n)
    (hhigh : n ≤ before.length)
    (hn : Suppressed rules.directive before n ∨ ∃ edit ∈ edits, edit.line = n) :
    Suppressed rules.directive after (landing (fun e => e.block.length) edits n) := by
  rw [h.after]
  rcases hn with ⟨above, habove, hcarries⟩ | ⟨edit, hedit, rfl⟩
  · have hfree : frontAt Edit.block edits n = [] := by
      refine frontAt_eq_nil fun e he heq => ?_
      obtain ⟨site, -, hends⟩ := h.ends e he
      subst heq
      exact hends.of_edited.2.1 ⟨above, habove, hcarries⟩
    have htwo : 2 ≤ n := by have := (itemAt_bounds habove).1; omega
    refine ⟨above, ?_, hcarries⟩
    rw [itemAt_above_free Edit.block h.descending h.pos htwo hhigh hfree, habove]
  · obtain ⟨site, -, hends⟩ := h.ends edit hedit
    obtain ⟨body, last, hlast, -, hcarries⟩ := hends.of_edited.2.2.2.directive
    have hfront : frontAt Edit.block edits edit.line = body ++ [last] := by
      rw [frontAt_line h.descending hedit, hlast]
    exact ⟨last, itemAt_above_edit Edit.block h.descending h.pos hlow hhigh hfront,
      hsame ▸ hcarries⟩

end Placed

theorem Mutation.placed (rules : SiteRules) (decide : Decider σ) {sites : List Site}
    (hdesc : Descending Site.line sites) (lines : List String) (state : σ) :
    Placed rules sites lines (apply rules decide sites lines state).edits
      (apply rules decide sites lines state).lines :=
  ⟨apply_lines rules decide hdesc lines state, edits_descending rules decide hdesc lines state,
    fun _ hedit => edits_endsAs rules decide hdesc lines state hedit⟩

/-- **Exact placement.** For every plan with descending lines: the lines behind the run are the
first lines with the block of each edit in front of its line; each edit has its line of the first
lines as target and a block of the right form; each site is judged by the first lines alone, and is
either an edit or passed over, in the order of the plan. Only a decision source that gives up on a
question cuts this short. -/
theorem mutation_placement (config : Config) (path : String) (filesRemaining : Int)
    (decide : Decider σ) {sites : List Site} (hdesc : Descending Site.line sites)
    (lines : List String) (state : σ) :
    let rules : SiteRules := ⟨config, path, config.directive, filesRemaining⟩
    let run := Mutation.apply rules decide sites lines state
    run.lines = interleave (frontAt Edit.block run.edits) 1 lines ∧
    (∀ edit ∈ run.edits, ∃ site ∈ sites, site.line = edit.line ∧
      itemAt lines edit.line = some edit.target ∧
      edit.block.length = site.messages.length + 1 ∧
      IsBlock config site.messages edit.target edit.block) ∧
    (run.abandoned = false →
      (∀ site ∈ sites,
        (⟨site.line, .outOfRange⟩ ∈ run.skips ↔ site.line < 1 ∨ lines.length < site.line) ∧
        (⟨site.line, .alreadySuppressed⟩ ∈ run.skips ↔
          (1 ≤ site.line ∧ site.line ≤ lines.length) ∧
            Suppressed config.directive lines site.line) ∧
        ((⟨site.line, .declined⟩ ∈ run.skips ∨ ∃ edit ∈ run.edits, edit.line = site.line) ↔
          (1 ≤ site.line ∧ site.line ≤ lines.length) ∧
            ¬ Suppressed config.directive lines site.line)) ∧
      (run.edits.map Edit.line ++ run.skips.map Skip.line).Perm (sites.map Site.line)) ∧
    (run.edits.map Edit.line).Sublist (sites.map Site.line) ∧
    (run.skips.map Skip.line).Sublist (sites.map Site.line) ∧
    (run.abandoned = true ↔ ∃ asked ∈ run.asked, asked.answer = none) := by
  intro rules run
  refine ⟨Mutation.apply_lines rules decide hdesc lines state, ?_, ?_,
    Mutation.edits_sublist rules decide sites lines state,
    Mutation.skips_sublist rules decide sites lines state,
    Mutation.apply_abandoned_iff rules decide sites lines state⟩
  · intro edit hedit
    obtain ⟨site, hsite, hends⟩ := Mutation.edits_endsAs rules decide hdesc lines state hedit
    obtain ⟨htarget, -, hline, hblock⟩ := hends.of_edited
    exact ⟨site, hsite, hline, htarget, hblock.length, hblock⟩
  · intro hgoing
    rw [Mutation.abandoned_eq_false_iff] at hgoing
    exact ⟨fun site hsite => Mutation.site_verdict rules decide hdesc lines state hsite hgoing,
      Mutation.edits_skips_perm rules decide sites lines state hgoing⟩

/-- A plan with sites beyond both ends, an adjacent pair, a silenced line and a declined one, and a
decision source that changes its mind. -/
theorem mutation_placement_mixed :
    Descending Site.line [⟨9, ["z"]⟩, ⟨4, ["q"]⟩, ⟨3, ["b"]⟩, ⟨2, ["a"]⟩, ⟨0, ["y"]⟩] ∧
    (Mutation.apply ⟨({} : Draft).freeze, "a.tsx", ({} : Draft).freeze.directive, 0⟩ Decider.listed
        [⟨9, ["z"]⟩, ⟨4, ["q"]⟩, ⟨3, ["b"]⟩, ⟨2, ["a"]⟩, ⟨0, ["y"]⟩]
        ["  <p>", "  x", "// @ts-expect-error", "t"] [.embedded, .skip]).lines =
      ["  <p>", "  x", "\x7b/* b */\x7d",
        "\x7b/* @ts-expect-error TODO: fix error and remove */\x7d", "// @ts-expect-error", "t"] ∧
    (Mutation.apply ⟨({} : Draft).freeze, "a.tsx", ({} : Draft).freeze.directive, 0⟩ Decider.listed
        [⟨9, ["z"]⟩, ⟨4, ["q"]⟩, ⟨3, ["b"]⟩, ⟨2, ["a"]⟩, ⟨0, ["y"]⟩]
        ["  <p>", "  x", "// @ts-expect-error", "t"] [.embedded, .skip]).lines =
      interleave (frontAt Edit.block (Mutation.apply
        ⟨({} : Draft).freeze, "a.tsx", ({} : Draft).freeze.directive, 0⟩ Decider.listed
        [⟨9, ["z"]⟩, ⟨4, ["q"]⟩, ⟨3, ["b"]⟩, ⟨2, ["a"]⟩, ⟨0, ["y"]⟩]
        ["  <p>", "  x", "// @ts-expect-error", "t"] [.embedded, .skip]).edits) 1
        ["  <p>", "  x", "// @ts-expect-error", "t"] := by
  have hdesc : Descending Site.line
      [⟨9, ["z"]⟩, ⟨4, ["q"]⟩, ⟨3, ["b"]⟩, ⟨2, ["a"]⟩, ⟨0, ["y"]⟩] := by simp [Descending]
  exact ⟨hdesc, by decide +kernel,
    (mutation_placement ({} : Draft).freeze "a.tsx" 0 Decider.listed hdesc
      ["  <p>", "  x", "// @ts-expect-error", "t"] [.embedded, .skip]).1⟩

end ExpectError
