import ExpectError.Proofs.Grouping
import ExpectError.Proofs.Placement
import ExpectError.Proofs.Window

/-!
# What a decision source gets to see

A question shows a window of the lines as they are when it is put, with the blocks of the sites
below it already in place. By the order of the sites these lines are the first lines down to the
target and the last lines from it on (`Seen`, `exists_seen`), so a question can be told from the
lines before the run and the lines behind it (`questions_seen`). `Dialogue` says that the recorded
questions are the ones that were put to the source, one after the other.
-/

namespace ExpectError

open Markup (linesAbove linesFrom leadingSpaces)

variable {σ : Type}

/-! ## One site -/

/-- The source was asked these questions one after the other and gave the answers; it went from one
state to the other. -/
def Decider.Dialogue (decide : Decider σ) : List Asked → σ → σ → Prop
  | [], state, state' => state' = state
  | asked :: more, state, state' =>
    asked.answer = (decide asked.question state).1 ∧
      decide.Dialogue more (decide asked.question state).2 state'

theorem Decider.Dialogue.append {decide : Decider σ} {first more : List Asked}
    {state state' state'' : σ} (h : decide.Dialogue first state state')
    (h' : decide.Dialogue more state' state'') :
    decide.Dialogue (first ++ more) state state'' := by
  induction first generalizing state with
  | nil =>
    obtain rfl : state' = state := h
    exact h'
  | cons asked first ih => exact ⟨h.1, ih h.2⟩

theorem Decider.Dialogue.exists_answer {decide : Decider σ} {questions : List Asked}
    {state state' : σ} (h : decide.Dialogue questions state state') {asked : Asked}
    (hasked : asked ∈ questions) : ∃ before, asked.answer = (decide asked.question before).1 := by
  induction questions generalizing state with
  | nil => cases hasked
  | cons first questions ih =>
    rcases List.mem_cons.mp hasked with rfl | hasked
    · exact ⟨state, h.1⟩
    · exact ih h.2 hasked

@[simp] theorem settleSite_asked (rules : SiteRules) (site : Site) (lines : List String)
    (target : String) (choice : Option CommentStyle × σ × Option Asked) :
    (settleSite rules site lines target choice).asked = choice.2.2 := by
  obtain ⟨_ | _ | _ | _, _, _⟩ := choice <;> rfl

@[simp] theorem settleSite_state (rules : SiteRules) (site : Site) (lines : List String)
    (target : String) (choice : Option CommentStyle × σ × Option Asked) :
    (settleSite rules site lines target choice).state = choice.2.1 := by
  obtain ⟨_ | _ | _ | _, _, _⟩ := choice <;> rfl

section Site

variable (rules : SiteRules) (decide : Decider σ) (site : Site) (lines : List String) (state : σ)

theorem question?_eq_some_iff {q : Question} :
    rules.question? site lines = some q ↔
      (rules.config.isMarkupFile rules.path = true ∧ Markup.anyHints
        (Markup.Window.around lines (site.line - 1) rules.config.context).lines = true) ∧
      q = { path := rules.path
            line := site.line
            messages := site.messages
            context := (Markup.Window.around lines (site.line - 1) rules.config.context).lines
            focus := (Markup.Window.around lines (site.line - 1) rules.config.context).focus
            filesRemaining := rules.filesRemaining } := by
  unfold SiteRules.question?
  dsimp only
  split_ifs with h
  · rw [Bool.and_eq_true] at h
    simp only [h, and_self, true_and, Option.some.injEq]
    exact eq_comm
  · rw [Bool.and_eq_true] at h
    simp [h]

theorem applySite_asked_iff {asked : Asked} :
    (applySite rules decide site lines state).asked = some asked ↔
      (1 ≤ site.line ∧ site.line ≤ lines.length) ∧
        ¬ Suppressed rules.directive lines site.line ∧
        rules.question? site lines = some asked.question ∧
        asked.answer = (decide asked.question state).1 := by
  rcases h : itemAt lines site.line with _ | target
  · have hrange := itemAt_eq_none_iff.mp h
    rw [applySite_outOfRange rules decide state h]
    simp only [reduceCtorEq, false_iff, not_and]
    omega
  · have hrange := itemAt_bounds h
    by_cases habove : Suppressed rules.directive lines site.line
    · simp [applySite_suppressed rules decide state h habove, habove]
    · rw [applySite_open rules decide state h habove, settleSite_asked, chooseStyle]
      cases rules.question? site lines with
      | none => simp
      | some q =>
        simp only [Option.some.injEq, hrange, and_self, habove, not_false_eq_true, true_and]
        constructor
        · rintro rfl
          exact ⟨rfl, rfl⟩
        · rintro ⟨rfl, hanswer⟩
          rw [← hanswer]

theorem applySite_dialogue :
    decide.Dialogue (applySite rules decide site lines state).asked.toList state
      (applySite rules decide site lines state).state := by
  rcases h : itemAt lines site.line with _ | target
  · rw [applySite_outOfRange rules decide state h]
    rfl
  · by_cases habove : Suppressed rules.directive lines site.line
    · rw [applySite_suppressed rules decide state h habove]
      rfl
    · rw [applySite_open rules decide state h habove, settleSite_asked, settleSite_state,
        chooseStyle]
      cases rules.question? site lines with
      | none => rfl
      | some q => exact ⟨rfl, rfl⟩

theorem applySite_declined_iff :
    (applySite rules decide site lines state).ending = .skipped ⟨site.line, .declined⟩ ↔
      ∃ asked, (applySite rules decide site lines state).asked = some asked ∧
        asked.answer = some .skip := by
  rcases h : itemAt lines site.line with _ | target
  · simp [applySite_outOfRange rules decide state h]
  · by_cases habove : Suppressed rules.directive lines site.line
    · simp [applySite_suppressed rules decide state h habove]
    · rw [applySite_open rules decide state h habove, settleSite_asked, chooseStyle]
      cases rules.question? site lines with
      | none => simp [settleSite]
      | some q =>
        rcases hanswer : (decide q state).1 with _ | style
        · simp [settleSite, hanswer]
        · cases style <;> simp [settleSite, hanswer]

theorem applySite_edited_plain {edit : Edit}
    (h : (applySite rules decide site lines state).ending = .edited edit)
    (hasked : (applySite rules decide site lines state).asked = none) :
    edit.block = rules.config.block site.messages .plain (leadingSpaces edit.target) := by
  rcases htarget : itemAt lines site.line with _ | target
  · simp [applySite_outOfRange rules decide state htarget] at h
  · by_cases habove : Suppressed rules.directive lines site.line
    · simp [applySite_suppressed rules decide state htarget habove] at h
    · rw [applySite_open rules decide state htarget habove] at h hasked
      rw [settleSite_asked, chooseStyle] at hasked
      rw [chooseStyle] at h
      cases hquestion : rules.question? site lines with
      | some q => simp [hquestion] at hasked
      | none =>
        rw [hquestion] at h
        obtain rfl : _ = edit := SiteEnd.edited.inj h
        exact (block_eq_map (by decide) _ _ _).symm

end Site

/-! ## All sites -/

/-- The lines that a site finds, with the sites below it done: the first lines down to its target
and the last lines from it on. -/
structure Seen (lines final : List String) (edits : List Edit) (n : Int) (seen : List String) :
    Prop where
  upTo : ∀ m ≤ n, itemAt seen m = itemAt lines m
  parts : ∀ target, itemAt lines n = some target →
    seen = lines.take (n - 1).toNat ++
      final.drop (landing (fun e => e.block.length) edits n - 1).toNat

namespace Seen

variable {lines final seen : List String} {edits : List Edit} {n : Int}
  (h : Seen lines final edits n seen)

include h

theorem bounds_iff :
    (1 ≤ n ∧ n ≤ seen.length) ↔ (1 ≤ n ∧ n ≤ lines.length) := by
  have hnone : itemAt seen n = none ↔ itemAt lines n = none := by rw [h.upTo n le_rfl]
  rw [itemAt_eq_none_iff, itemAt_eq_none_iff] at hnone
  omega

theorem suppressed_iff (directive : String) :
    Suppressed directive seen n ↔ Suppressed directive lines n :=
  Suppressed.congr directive (h.upTo (n - 1) (by omega))

theorem window_eq (hlow : 1 ≤ n) (hhigh : n ≤ lines.length) {radius : Int} (hradius : 0 ≤ radius) :
    Markup.Window.around seen (n - 1) radius =
      ⟨linesAbove radius lines n ++
        linesFrom radius final (landing (fun e => e.block.length) edits n),
        min (n - 1) radius⟩ := by
  obtain ⟨target, htarget⟩ := exists_itemAt hlow hhigh
  have hparts := h.parts target htarget
  have hlen : (lines.take (n - 1).toNat).length = (n - 1).toNat := by
    rw [List.length_take]
    omega
  rw [Markup.around_eq hlow (h.bounds_iff.mpr ⟨hlow, hhigh⟩).2 hradius, linesAbove, linesFrom,
    hparts, List.take_left' hlen, List.drop_left' hlen]
  rfl

end Seen

theorem EndsAs.take_linesAfter {rules : SiteRules} {lines : List String} {site : Site}
    {ending : SiteEnd} (h : EndsAs rules lines site ending) {k : Nat} (hk : (k : Int) < site.line) :
    (ending.linesAfter lines).take k = lines.take k := by
  cases h with
  | edited htarget hs hblock =>
    have hb := itemAt_bounds htarget
    have hlen : k ≤ (lines.take (site.line - 1).toNat).length := by
      rw [List.length_take]
      omega
    rw [SiteEnd.linesAfter, insertAt, List.append_assoc, List.take_append_of_le_length hlen,
      List.take_take]
    congr 1
    omega
  | _ => rfl

theorem landing_append_of_lt {size : Edit → Nat} {edits more : List Edit} {n : Int}
    (h : ∀ e ∈ edits, n < e.line) : landing size (edits ++ more) n = landing size more n := by
  have hnone : (edits.filter fun e => e.line ≤ n) = [] := by
    rw [List.filter_eq_nil_iff]
    intro e he
    have := h e he
    simp only [decide_eq_true_eq]
    omega
  simp [landing, hnone]

theorem Seen.of_linesAfter {rules : SiteRules} {lines final seen : List String} {site : Site}
    {ending : SiteEnd} {edits : List Edit} {n : Int}
    (h : Seen (ending.linesAfter lines) final edits n seen) (hends : EndsAs rules lines site ending)
    (hend : ending ≠ .abandoned) (hn : n < site.line) :
    Seen lines final (ending.edit?.toList ++ edits) n seen := by
  refine ⟨fun m hm => ?_, fun target htarget => ?_⟩
  · rw [h.upTo m hm, hends.itemAt_linesAfter (by omega)]
  · have hb := itemAt_bounds htarget
    have hparts := h.parts target (by rw [hends.itemAt_linesAfter hn, htarget])
    have hown : ∀ e ∈ ending.edit?.toList, n < e.line := by
      intro e he
      have hline := hends.line?_eq hend
      cases ending with
      | edited edit =>
        obtain rfl := List.mem_singleton.mp he
        rw [show e.line = site.line from Option.some.inj hline]
        exact hn
      | skipped skip => simp [SiteEnd.edit?] at he
      | abandoned => exact absurd rfl hend
    rw [landing_append_of_lt hown, hparts, hends.take_linesAfter (by omega)]

namespace Mutation

variable (rules : SiteRules) (decide : Decider σ)

theorem apply_cons_eq (site : Site) (sites : List Site) (lines : List String) (state : σ) :
    let step := applySite rules decide site lines state
    let rest := apply rules decide sites step.lines step.state
    (step.ending = .abandoned ∧ apply rules decide (site :: sites) lines state =
        ⟨step.lines, step.state, [⟨lines.length, step.asked, step.ending⟩]⟩) ∨
      (step.ending ≠ .abandoned ∧ apply rules decide (site :: sites) lines state =
        ⟨rest.lines, rest.state, ⟨lines.length, step.asked, step.ending⟩ :: rest.records⟩) := by
  intro step rest
  by_cases h : step.ending = .abandoned
  · exact Or.inl ⟨h, by simp only [apply, if_pos h, step]⟩
  · exact Or.inr ⟨h, by simp only [apply, if_neg h, step, rest]⟩

theorem apply_dialogue (sites : List Site) (lines : List String) (state : σ) :
    decide.Dialogue (apply rules decide sites lines state).asked state
      (apply rules decide sites lines state).state := by
  induction sites generalizing lines state with
  | nil => rfl
  | cons site sites ih =>
    have hsite := applySite_dialogue rules decide site lines state
    have hcons : ∀ (record : SiteRecord) (records : List SiteRecord),
        (record :: records).filterMap SiteRecord.asked =
          record.asked.toList ++ records.filterMap SiteRecord.asked := by
      intro record records
      rw [List.filterMap_cons]
      cases record.asked <;> rfl
    rcases apply_cons_eq rules decide site sites lines state with ⟨-, hrun⟩ | ⟨-, hrun⟩
    · rw [hrun, asked, hcons, List.filterMap_nil, List.append_nil]
      exact hsite
    · rw [hrun, asked, hcons]
      exact hsite.append (ih _ _)

theorem asked_sublist (sites : List Site) (lines : List String) (state : σ) :
    ((apply rules decide sites lines state).asked.map fun a => a.question.line).Sublist
      (sites.map Site.line) := by
  induction sites generalizing lines state with
  | nil => simp [apply, asked]
  | cons site sites ih =>
    have hline : ∀ asked, (applySite rules decide site lines state).asked = some asked →
        asked.question.line = site.line := by
      intro asked hasked
      obtain ⟨-, -, hquestion, -⟩ := (applySite_asked_iff rules decide site lines state).mp hasked
      rw [((question?_eq_some_iff rules site lines).mp hquestion).2]
    rcases apply_cons_eq rules decide site sites lines state with ⟨-, hrun⟩ | ⟨-, hrun⟩
    · rw [hrun, asked, List.map_cons]
      cases hasked : (applySite rules decide site lines state).asked with
      | none => simp
      | some asked => simp [hline asked hasked]
    · have hi := ih (applySite rules decide site lines state).lines
        (applySite rules decide site lines state).state
      rw [hrun, asked, List.map_cons, List.filterMap_cons]
      cases hasked : (applySite rules decide site lines state).asked with
      | none => exact hi.cons _
      | some asked =>
        simp only [List.map_cons, hline asked hasked]
        exact hi.cons_cons _

theorem edits_pos {sites : List Site} (hdesc : Descending Site.line sites) (lines : List String)
    (state : σ) : ∀ e ∈ (apply rules decide sites lines state).edits, 1 ≤ e.line :=
  (placed rules decide hdesc lines state).pos

theorem itemAt_landing {sites : List Site} (hdesc : Descending Site.line sites)
    (lines : List String) (state : σ) {n : Int} (hlow : 1 ≤ n) (hhigh : n ≤ lines.length) :
    itemAt (apply rules decide sites lines state).lines (landing (fun e => e.block.length)
      (apply rules decide sites lines state).edits n) = itemAt lines n :=
  (placed rules decide hdesc lines state).itemAt_after hlow hhigh

theorem seen_first {site : Site} {sites : List Site} (hdesc : Descending Site.line (site :: sites))
    (lines : List String) (state : σ) :
    Seen lines (apply rules decide (site :: sites) lines state).lines
      (apply rules decide (site :: sites) lines state).edits site.line lines := by
  refine ⟨fun _ _ => rfl, fun target htarget => ?_⟩
  have hfirst := (List.pairwise_cons.mp hdesc).1
  have hsub := edits_sublist rules decide (site :: sites) lines state
  have hfree : ∀ n : Int, site.line + 1 ≤ n → frontAt Edit.block
      (apply rules decide (site :: sites) lines state).edits n = [] := by
    intro n hn
    refine frontAt_eq_nil fun e he => ?_
    obtain ⟨other, hother, heq⟩ := List.mem_map.mp (hsub.subset (List.mem_map_of_mem he))
    rcases List.mem_cons.mp hother with rfl | hother
    · omega
    · have := hfirst other hother
      omega
  rw [apply_lines rules decide hdesc, drop_landing Edit.block
    (edits_descending rules decide hdesc lines state) (edits_pos rules decide hdesc lines state)
    htarget, interleave_eq_self fun n hn _ => hfree n hn]
  exact eq_take_append_drop_of_itemAt htarget

/-- **What a site finds.** Every site that was reached was applied to lines that are the first ones
down to its target and the last ones from it on. -/
theorem exists_seen {sites : List Site} (hdesc : Descending Site.line sites) (lines : List String)
    (state : σ) {site : Site} {record : SiteRecord}
    (hmem : (site, record) ∈ sites.zip (apply rules decide sites lines state).records) :
    ∃ seen state', record = ⟨seen.length, (applySite rules decide site seen state').asked,
        (applySite rules decide site seen state').ending⟩ ∧
      Seen lines (apply rules decide sites lines state).lines
        (apply rules decide sites lines state).edits site.line seen := by
  induction sites generalizing lines state with
  | nil => simp at hmem
  | cons first sites ih =>
    obtain ⟨hfirst, hrest⟩ := List.pairwise_cons.mp hdesc
    have hhead := seen_first rules decide hdesc lines state
    rcases apply_cons_eq rules decide first sites lines state with ⟨-, hrun⟩ | ⟨hend, hrun⟩
    · rw [hrun, List.zip_cons_cons, List.zip_nil_right, List.mem_singleton] at hmem
      obtain ⟨rfl, rfl⟩ := Prod.mk.inj hmem
      exact ⟨lines, state, rfl, hhead⟩
    · rw [hrun, List.zip_cons_cons, List.mem_cons] at hmem
      rcases hmem with heq | hmem
      · obtain ⟨rfl, rfl⟩ := Prod.mk.inj heq
        exact ⟨lines, state, rfl, hhead⟩
      · obtain ⟨hends, hstep⟩ := applySite_endsAs rules decide first lines state
        obtain ⟨seen, state', hrecord, hseen⟩ := ih hrest _ _ hmem
        have hlt : site.line < first.line := hfirst site (List.of_mem_zip hmem).1
        have hlater := (hstep ▸ hseen).of_linesAfter hends hend hlt
        refine ⟨seen, state', hrecord, ?_⟩
        rw [edits_cons (show (apply rules decide (first :: sites) lines state).endings = _ by
          rw [hrun]; rfl), hrun, hstep]
        exact hlater

theorem exists_site_of_record {sites : List Site} (hdesc : Descending Site.line sites)
    (lines : List String) (state : σ) {record : SiteRecord}
    (hmem : record ∈ (apply rules decide sites lines state).records) :
    ∃ site ∈ sites, ∃ seen state',
      record.asked = (applySite rules decide site seen state').asked ∧
      record.ending = (applySite rules decide site seen state').ending ∧
      Seen lines (apply rules decide sites lines state).lines
        (apply rules decide sites lines state).edits site.line seen := by
  have hlen := (length_endings rules decide sites lines state).1
  rw [endings, List.length_map] at hlen
  obtain ⟨site, hzip⟩ := exists_mem_zip hlen hmem
  obtain ⟨seen, state', rfl, hseen⟩ := exists_seen rules decide hdesc lines state hzip
  exact ⟨site, (List.of_mem_zip hzip).1, seen, state', rfl, rfl, hseen⟩

theorem exists_site_of_asked {sites : List Site} (hdesc : Descending Site.line sites)
    (lines : List String) (state : σ) {asked : Asked}
    (hasked : asked ∈ (apply rules decide sites lines state).asked) :
    ∃ site ∈ sites, ∃ seen, Seen lines (apply rules decide sites lines state).lines
        (apply rules decide sites lines state).edits site.line seen ∧
      (1 ≤ site.line ∧ site.line ≤ lines.length) ∧
      ¬ Suppressed rules.directive lines site.line ∧
      rules.question? site seen = some asked.question := by
  obtain ⟨record, hmem, hrecord⟩ := List.mem_filterMap.mp hasked
  obtain ⟨site, hsite, seen, state', hown, -, hseen⟩ :=
    exists_site_of_record rules decide hdesc lines state hmem
  rw [hrecord] at hown
  obtain ⟨hrange, habove, hquestion, -⟩ :=
    (applySite_asked_iff rules decide site seen state').mp hown.symm
  exact ⟨site, hsite, seen, hseen, hseen.bounds_iff.mp hrange,
    mt (hseen.suppressed_iff _).mpr habove, hquestion⟩

theorem declined_iff {sites : List Site} (hdesc : Descending Site.line sites) (lines : List String)
    (state : σ) {n : Int} :
    ⟨n, .declined⟩ ∈ (apply rules decide sites lines state).skips ↔
      ∃ asked ∈ (apply rules decide sites lines state).asked,
        asked.question.line = n ∧ asked.answer = some .skip := by
  have hline : ∀ {site : Site} {seen : List String} {state' : σ} {asked : Asked},
      (applySite rules decide site seen state').asked = some asked →
        asked.question.line = site.line := by
    intro site seen state' asked hasked
    obtain ⟨-, -, hquestion, -⟩ := (applySite_asked_iff rules decide site seen state').mp hasked
    rw [((question?_eq_some_iff rules site seen).mp hquestion).2]
  rw [mem_skips_iff, endings, List.mem_map]
  constructor
  · rintro ⟨record, hmem, hending⟩
    obtain ⟨site, -, seen, state', hown, hend, -⟩ :=
      exists_site_of_record rules decide hdesc lines state hmem
    have hends := (applySite_endsAs rules decide site seen state').1
    rw [← hend, hending] at hends
    obtain rfl : n = site.line := Option.some.inj (hends.line?_eq (by simp))
    obtain ⟨asked, hasked, hanswer⟩ :=
      (applySite_declined_iff rules decide site seen state').mp (hend.symm.trans hending)
    exact ⟨asked, List.mem_filterMap.mpr ⟨record, hmem, hown.trans hasked⟩, hline hasked, hanswer⟩
  · rintro ⟨asked, hasked, rfl, hanswer⟩
    obtain ⟨record, hmem, hrecord⟩ := List.mem_filterMap.mp hasked
    obtain ⟨site, -, seen, state', hown, hend, -⟩ :=
      exists_site_of_record rules decide hdesc lines state hmem
    rw [hrecord] at hown
    refine ⟨record, hmem, ?_⟩
    rw [hend, hline hown.symm]
    exact (applySite_declined_iff rules decide site seen state').mpr ⟨asked, hown.symm, hanswer⟩

theorem asked_eq_nil_of_neg {sites : List Site} (hdesc : Descending Site.line sites)
    (lines : List String) (state : σ) (hradius : rules.config.context < 0) :
    (apply rules decide sites lines state).asked = [] := by
  refine List.eq_nil_iff_forall_not_mem.mpr fun asked hasked => ?_
  obtain ⟨site, -, seen, -, ⟨hlow, -⟩, -, hquestion⟩ :=
    exists_site_of_asked rules decide hdesc lines state hasked
  have hhints := ((question?_eq_some_iff rules site seen).mp hquestion).1.2
  rw [Markup.around_lines_of_neg hlow hradius] at hhints
  cases hhints

end Mutation

/-- **What a decision source sees.** For every plan with descending lines:

* the recorded questions are those that were put to the source, in the order of the plan and at most
  one for each site; a question is about a line that is there and not silenced, and it has the path,
  the messages and the number of files to come;
* a site is declined exactly if its question was answered so;
* with a radius that is not negative, a question shows the target line at its focus, above it the
  lines that stood there before the run, and from it on the lines that stand there behind the run;
* with a negative radius there are no questions, and all blocks are made of line comments. -/
theorem questions_seen (config : Config) (path : String) (filesRemaining : Int)
    (decide : Decider σ) {sites : List Site} (hdesc : Descending Site.line sites)
    (lines : List String) (state : σ) :
    let rules : SiteRules := ⟨config, path, config.directive, filesRemaining⟩
    let run := Mutation.apply rules decide sites lines state
    decide.Dialogue run.asked state run.state ∧
    (run.asked.map fun a => a.question.line).Sublist (sites.map Site.line) ∧
    (run.asked.map fun a => a.question.line).Nodup ∧
    (∀ asked ∈ run.asked, ∃ site ∈ sites, asked.question.line = site.line ∧
      asked.question.messages = site.messages ∧ asked.question.path = path ∧
      asked.question.filesRemaining = filesRemaining ∧
      (1 ≤ site.line ∧ site.line ≤ lines.length) ∧
      ¬ Suppressed config.directive lines site.line) ∧
    (∀ n : Int, ⟨n, .declined⟩ ∈ run.skips ↔
      ∃ asked ∈ run.asked, asked.question.line = n ∧ asked.answer = some .skip) ∧
    (0 ≤ config.context → ∀ asked ∈ run.asked,
      let q := asked.question
      let final := landing (fun e => e.block.length) run.edits q.line
      q.focus = min (q.line - 1) config.context ∧
      q.target? = itemAt lines q.line ∧ itemAt run.lines final = itemAt lines q.line ∧
      q.context.take q.focus.toNat =
        (lines.take (q.line - 1).toNat).drop (q.line - 1 - q.focus).toNat ∧
      q.context.drop q.focus.toNat =
        (run.lines.drop (final - 1).toNat).take (max config.context 1).toNat) ∧
    (config.context < 0 → run.asked = [] ∧ ∀ edit ∈ run.edits, ∃ site ∈ sites,
      site.line = edit.line ∧
        edit.block = config.block site.messages .plain (leadingSpaces edit.target)) := by
  intro rules run
  have hsub := Mutation.asked_sublist rules decide sites lines state
  refine ⟨Mutation.apply_dialogue rules decide sites lines state, hsub,
    hsub.nodup (EditPlan.nodup_lines hdesc), ?_,
    fun n => Mutation.declined_iff rules decide hdesc lines state, ?_, ?_⟩
  · intro asked hasked
    obtain ⟨site, hsite, seen, -, hrange, habove, hquestion⟩ :=
      Mutation.exists_site_of_asked rules decide hdesc lines state hasked
    rw [((question?_eq_some_iff rules site seen).mp hquestion).2]
    exact ⟨site, hsite, rfl, rfl, rfl, rfl, hrange, habove⟩
  · intro hradius asked hasked q final
    obtain ⟨site, -, seen, hseen, ⟨hlow, hhigh⟩, -, hquestion⟩ :=
      Mutation.exists_site_of_asked rules decide hdesc lines state hasked
    have hq : q = _ := ((question?_eq_some_iff rules site seen).mp hquestion).2
    rw [hseen.window_eq hlow hhigh hradius] at hq
    have hline : q.line = site.line := by rw [hq]
    have hfocus : q.focus = min (q.line - 1) config.context := by rw [hline, hq]
    have hcontext : q.context =
        linesAbove config.context lines q.line ++ linesFrom config.context run.lines final := by
      rw [hline, hq, ← hline]
    rw [← hline] at hlow hhigh
    have habove : (linesAbove config.context lines q.line).length = q.focus.toNat := by
      have := Markup.length_linesAbove hlow hhigh hradius
      omega
    have hfinal := Mutation.itemAt_landing rules decide hdesc lines state hlow hhigh
    obtain ⟨target, htarget⟩ := exists_itemAt hlow hhigh
    refine ⟨hfocus, ?_, hfinal, ?_, ?_⟩
    · have hfrom := Markup.linesFrom_eq_cons config.context (hfinal.trans htarget)
      rw [Question.target?, if_neg (by omega), if_neg (by omega), hcontext, ← habove,
        List.getElem?_append_right le_rfl, Nat.sub_self, htarget, hfrom]
      rfl
    · rw [hcontext, List.take_left' habove, linesAbove]
      congr 1
      omega
    · rw [hcontext, List.drop_left' habove, linesFrom]
  · intro hradius
    have hnone : run.asked = [] :=
      Mutation.asked_eq_nil_of_neg rules decide hdesc lines state hradius
    refine ⟨hnone, ?_⟩
    intro edit hedit
    obtain ⟨record, hmem, hrecord⟩ := List.mem_map.mp (Mutation.mem_edits_iff.mp hedit)
    obtain ⟨site, hsite, seen, state', hown, hend, -⟩ :=
      Mutation.exists_site_of_record rules decide hdesc lines state hmem
    have hends := (applySite_endsAs rules decide site seen state').1
    rw [← hend, hrecord] at hends
    have hquiet : record.asked = none := by
      cases hasked : record.asked with
      | none => rfl
      | some asked =>
        have hin : asked ∈ run.asked := List.mem_filterMap.mpr ⟨record, hmem, hasked⟩
        rw [hnone] at hin
        cases hin
    exact ⟨site, hsite, hends.of_edited.2.2.1, applySite_edited_plain rules decide site seen state'
      (hend.symm.trans hrecord) (hown.symm.trans hquiet)⟩

/-- Two questions with the block of a lower site in view, the second of them declined. -/
theorem questions_seen_below_blocks :
    let config := ({ context := some 2 } : Draft).freeze
    let sites : List Site := [⟨4, ["m"]⟩, ⟨3, ["n"]⟩, ⟨2, ["k"]⟩]
    let lines := [" <a>", "x", "y", "z"]
    let run := Mutation.apply ⟨config, "a.tsx", config.directive, 0⟩ Decider.listed sites lines
      [.embedded, .skip]
    Descending Site.line sites ∧ 0 ≤ config.context ∧
    run.asked.map (fun a => (a.question.line, a.question.context)) =
      [(3, [" <a>", "x", "y", "// m"]), (2, [" <a>", "x", "\x7b/* n */\x7d"])] ∧
    (∀ asked ∈ run.asked, asked.question.target? = itemAt lines asked.question.line) ∧
    ⟨2, .declined⟩ ∈ run.skips := by
  intro config sites lines run
  have hdesc : Descending Site.line sites := by simp [Descending, sites]
  obtain ⟨-, -, -, -, hdeclined, hshown, -⟩ :=
    questions_seen config "a.tsx" 0 Decider.listed hdesc lines [.embedded, .skip]
  refine ⟨hdesc, by decide, by decide +kernel, ?_, (hdeclined 2).mpr (by decide +kernel)⟩
  intro asked hasked
  exact (hshown (by decide) asked hasked).2.1

end ExpectError
