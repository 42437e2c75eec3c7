import ExpectError.Proofs.Passes
import ExpectError.Proofs.RunEffect

/-!
# A report and the files it names

Where no two paths of a report lead to the same place, each file is dealt with once, so what an
outcome says is said about the file as it was before the run (`RunEffect.solo`). `report_effect`
puts the stages together: the files that change, the characters that are new in them, the site that
each diagnostic belongs to, and the line that stands above the line it points at.
-/

namespace ExpectError

open LineBuffer (ofText withBlocks)

variable {σ : Type}

theorem Settles.passOk {config : Config} {plan : EditPlan} {text : String} {outcome : FileOutcome}
    (h : Settles config plan text outcome) : PassOk text outcome.edits := by
  have hplaced := h.placed 0
  rw [h.before] at hplaced
  exact hplaced.passOk

/-! ## Files apart -/

/-- No two paths of the diagnostics lead to the same place. -/
def Apart (config : Config) (disk : Disk) (ds : List Diagnostic) : Prop :=
  ∀ d ∈ ds, ∀ d' ∈ ds, ∀ location, disk.locate (config.resolve d.path) = .ok location →
    disk.locate (config.resolve d'.path) = .ok location → d.path = d'.path

instance (config : Config) (disk : Disk) (ds : List Diagnostic) :
    Decidable (Apart config disk ds) :=
  decidable_of_iff (∀ d ∈ ds, ∀ d' ∈ ds,
      disk.locate (config.resolve d.path) = disk.locate (config.resolve d'.path) →
        (disk.locate (config.resolve d.path)).isOk = true → d.path = d'.path) <| by
    unfold Apart
    refine forall₂_congr fun d _ => forall₂_congr fun d' _ => ?_
    constructor
    · intro h location hd hd'
      exact h (hd.trans hd'.symm) (by rw [hd]; rfl)
    · intro h heq hok
      rcases hd : disk.locate (config.resolve d.path) with error | location
      · rw [hd] at hok
        cases hok
      · exact h location hd (heq.symm.trans hd)

theorem passes_append (disk : Disk) (location : Location) (outcomes more : List FileOutcome) :
    passes disk location (outcomes ++ more) =
      passes disk location outcomes ++ passes disk location more := by
  rw [passes, List.filter_append, List.map_append]
  rfl

theorem passes_eq_nil {disk : Disk} {location : Location} {outcomes : List FileOutcome}
    (h : ∀ outcome ∈ outcomes, disk.locate outcome.path ≠ .ok location) :
    passes disk location outcomes = [] := by
  rw [passes, List.map_eq_nil_iff, List.filter_eq_nil_iff]
  intro outcome houtcome hlead
  exact h outcome houtcome (Disk.leadsTo_iff.mp hlead)

section Apart

variable {config : Config} {ds : List Diagnostic} {disk disk' : Disk}
  {outcomes : List FileOutcome}
  (heffect : RunEffect config (EditPlan.ofDiagnostics ds) disk outcomes disk')

include heffect

theorem RunEffect.nodup_names : (outcomes.map FileOutcome.name).Nodup := by
  rw [heffect.names]
  exact (EditPlan.ofDiagnostics_grouped ds).paths

theorem RunEffect.exists_diagnostic {outcome : FileOutcome} (houtcome : outcome ∈ outcomes) :
    ∃ d ∈ ds, outcome.name = d.path ∧ outcome.path = config.resolve d.path := by
  obtain ⟨done, rest, hsplit⟩ := List.append_of_mem houtcome
  obtain ⟨plan, hplan, _, _, -, -, hsettles⟩ := heffect.settles done outcome rest hsplit
  obtain ⟨d, hd, hpath⟩ := EditPlan.exists_diagnostic_of_plan hplan
  exact ⟨d, hd, by rw [hsettles.name, hpath], by rw [hsettles.path, hpath]⟩

theorem RunEffect.exists_outcome {d : Diagnostic} (hd : d ∈ ds) :
    ∃ outcome ∈ outcomes, outcome.name = d.path := by
  obtain ⟨plan, hplan, hpath, -⟩ := EditPlan.exists_site hd
  have hmem : d.path ∈ outcomes.map FileOutcome.name := by
    rw [heffect.names, ← hpath]
    exact List.mem_map_of_mem hplan
  exact List.mem_map.mp hmem

/-- **One outcome for each file.** It tells of the file as it was before the run, and the file
becomes what it says. -/
theorem RunEffect.solo (hapart : Apart config disk ds) {outcome : FileOutcome}
    (houtcome : outcome ∈ outcomes) :
    ∃ plan ∈ EditPlan.ofDiagnostics ds, ∃ location text,
      disk.openPath .read outcome.path = .ok location ∧
      disk.node? location = some (.file text.toUTF8) ∧ Settles config plan text outcome ∧
      disk'.node? location = some (.file (withBlocks text outcome.edits).toUTF8) := by
  obtain ⟨done, rest, hsplit⟩ := List.append_of_mem houtcome
  obtain ⟨plan, hplan, location, text, hopen, hnode, hsettles⟩ :=
    heffect.settles done outcome rest hsplit
  have hlocate := Disk.locate_of_openPath hopen
  have hnodup := heffect.nodup_names
  rw [hsplit, List.map_append, List.map_cons, List.nodup_middle, List.nodup_cons,
    List.mem_append, not_or] at hnodup
  -- another outcome that leads there would have the same name
  have hother : ∀ other ∈ outcomes, disk.locate other.path = .ok location →
      other.name = outcome.name := by
    intro other hmem hlead
    obtain ⟨d, hd, hname, hpath⟩ := heffect.exists_diagnostic hmem
    obtain ⟨d', hd', hname', hpath'⟩ := heffect.exists_diagnostic houtcome
    rw [hname, hname']
    exact hapart d hd d' hd' location (hpath ▸ hlead) (hpath' ▸ hlocate)
  have hdone : passes disk location done = [] := passes_eq_nil fun other hmem hlead =>
    hnodup.1.1 (List.mem_map.mpr ⟨other, hmem, hother other (by simp [hsplit, hmem]) hlead⟩)
  have hrest : passes disk location rest = [] := passes_eq_nil fun other hmem hlead =>
    hnodup.1.2 (List.mem_map.mpr ⟨other, hmem, hother other (by simp [hsplit, hmem]) hlead⟩)
  have hrewritten := heffect.rewritten location text hnode
  rw [hdone] at hsettles
  rw [hsplit, passes_append, passes_cons, hdone, hrest, if_pos hlocate] at hrewritten
  exact ⟨plan, hplan, location, text, hopen, hnode, hsettles, hrewritten⟩

end Apart

/-! ## Diagnostics -/

theorem EditPlan.oneLine_messages {ds : List Diagnostic} (hds : ∀ d ∈ ds, OneLine d.message)
    {plan : EditPlan} (hplan : plan ∈ EditPlan.ofDiagnostics ds) :
    ∀ site ∈ plan.sites, ∀ message ∈ site.messages, OneLine message := by
  intro site hsite message hmessage
  rw [EditPlan.site_messages hplan hsite] at hmessage
  obtain ⟨d, hd, rfl⟩ := List.mem_map.mp hmessage
  exact hds d (List.mem_filter.mp hd).1

section Diagnostics

variable {config : Config} {ds : List Diagnostic} {plan : EditPlan} {text : String}
  {outcome : FileOutcome} (hplan : plan ∈ EditPlan.ofDiagnostics ds)
  (h : Settles config plan text outcome)

include hplan h

theorem Settles.count_line {site : Site} (hsite : site ∈ plan.sites) :
    (outcome.edits.map Edit.line ++ outcome.skips.map Skip.line).count site.line = 1 := by
  rw [h.sites.count_eq]
  exact List.count_eq_one_of_mem
    (EditPlan.nodup_lines ((EditPlan.ofDiagnostics_grouped ds).descending plan hplan))
    (List.mem_map_of_mem hsite)

theorem Settles.isBlock {edit : Edit} (hedit : edit ∈ outcome.edits) :
    IsBlock config
      ((ds.filter fun d => d.path = outcome.name ∧ d.line = edit.line).map Diagnostic.message)
      edit.target edit.block := by
  obtain ⟨-, -, site, hsite, hline, hblock⟩ := h.edited edit hedit
  rw [EditPlan.site_messages hplan hsite, ← h.name, hline] at hblock
  exact hblock

end Diagnostics

/-- **The effect of a report on the files.** In a run that comes to its end, all paths apart:

* a place that no diagnostic leads to stays as it is, and so does a file without an edit;
* the new text of a file is the old one with the block of each edit in front of its line, each line
  of it with the line end of the file, and nothing else is new;
* each diagnostic belongs to one site of one outcome, and if that is an edit then its block is made
  of the messages of the diagnostics there, so it has a line for this one;
* the line that a diagnostic points at is found again further down, and unless its site was declined
  the line above it there has the directive. -/
theorem report_effect {config : Config} (hdry : config.dry = false)
    (hsample : config.sample = none) (decide : Decider σ) (generator : Random.Twister)
    {report : Path} {disk : Disk} (state : σ) {text : String}
    (hreport : disk.readText report = .ok text)
    (hapart : Apart config disk (Diagnostic.ofReport (ofText text).lines)) {result : RunResult}
    (hrun : (runReport config decide generator report disk state).result = .ok result) :
    let ds := Diagnostic.ofReport (ofText text).lines
    let disk' := (runReport config decide generator report disk state).disk
    (∀ location, (∀ d ∈ ds, disk.locate (config.resolve d.path) ≠ .ok location) →
      disk'.node? location = disk.node? location) ∧
    (∀ outcome ∈ result.outcomes, ∃ location old new,
      disk.locate outcome.path = .ok location ∧
      disk.node? location = some (.file old.toUTF8) ∧
      disk'.node? location = some (.file new.toUTF8) ∧
      (outcome.edits = [] → new = old) ∧
      Inserts (· = (ofText old).newline) outcome.edits old new ∧
      outcome.before = (ofText old).lines ∧
      ('\n' ∉ config.directive.toList → '\n' ∉ config.todo.toList →
        outcome.after = (ofText new).lines)) ∧
    (result.outcomes.map FileOutcome.name).Nodup ∧
    ∀ d ∈ ds, ∃ outcome ∈ result.outcomes,
      outcome.name = d.path ∧ outcome.path = config.resolve d.path ∧
      (outcome.edits.map Edit.line ++ outcome.skips.map Skip.line).count d.line = 1 ∧
      (∀ edit ∈ outcome.edits, edit.line = d.line →
        IsBlock config ((ds.filter fun other => other.path = d.path ∧ other.line = d.line).map
          Diagnostic.message) edit.target edit.block ∧
        ∃ style, style ≠ .skip ∧ commentLine style edit.target d.message ∈ edit.block) ∧
      (1 ≤ d.line → d.line ≤ outcome.before.length →
        itemAt outcome.after (landing (fun e => e.block.length) outcome.edits d.line) =
            itemAt outcome.before d.line ∧
          (⟨d.line, .declined⟩ ∉ outcome.skips → Suppressed config.directive outcome.after
            (landing (fun e => e.block.length) outcome.edits d.line))) := by
  intro ds disk'
  obtain ⟨text', hreport', hds, heffect⟩ :=
    runReport_effect hdry hsample (Run.ends_of_result hrun)
  obtain rfl : text' = text := Except.ok.inj (hreport'.symm.trans hreport)
  rw [hds] at heffect
  have hone : ∀ d ∈ ds, OneLine d.message := fun d hd => Diagnostic.ofReport_message hd
  refine ⟨?_, ?_, heffect.nodup_names, ?_⟩
  · intro location hfree
    refine heffect.untouched location (passes_eq_nil fun outcome houtcome => ?_)
    obtain ⟨d, hd, -, hpath⟩ := heffect.exists_diagnostic houtcome
    rw [hpath]
    exact hfree d hd
  · intro outcome houtcome
    obtain ⟨plan, hplan, location, old, hopen, hold, hsettles, hnew⟩ :=
      heffect.solo hapart houtcome
    refine ⟨location, old, _, Disk.locate_of_openPath hopen, hold, hnew, ?_,
      inserts_withBlocks hsettles.passOk, hsettles.before, ?_⟩
    · intro hnone
      rw [hnone, LineBuffer.withBlocks_nil]
    · intro hdirective htodo
      exact (hsettles.ofText_withBlocks hdirective htodo
        (EditPlan.oneLine_messages hone hplan)).symm
  · intro d hd
    obtain ⟨outcome, houtcome, hname⟩ := heffect.exists_outcome hd
    obtain ⟨plan, hplan, location, old, -, -, hsettles, -⟩ := heffect.solo hapart houtcome
    obtain ⟨plan', hplan', hpath, site, hsite, hline, -⟩ := EditPlan.exists_site hd
    obtain rfl : plan = plan' := List.inj_on_of_nodup_map
      (EditPlan.ofDiagnostics_grouped ds).paths hplan hplan'
      (by rw [← hsettles.name, hname, hpath])
    refine ⟨outcome, houtcome, hname, by rw [hsettles.path, hpath], ?_, ?_, ?_⟩
    · rw [← hline]
      exact hsettles.count_line hplan hsite
    · intro edit hedit hedge
      have hblock := hsettles.isBlock hplan hedit
      rw [hname, hedge] at hblock
      refine ⟨hblock, ?_⟩
      obtain ⟨style, hstyle, hlines⟩ := hblock.comments
      refine ⟨style, hstyle, ?_⟩
      rw [hlines]
      refine List.mem_map_of_mem (List.mem_append_left _ (List.mem_map_of_mem ?_))
      exact List.mem_filter.mpr ⟨hd, by simp⟩
    · intro hlow hhigh
      refine ⟨hsettles.itemAt_after hlow hhigh, fun hkept => ?_⟩
      refine hsettles.suppressed_after hlow hhigh ?_
      rw [← hline] at hlow hhigh hkept ⊢
      rcases hsettles.declined site hsite hlow hhigh with habove | hdeclined | hedit
      · exact Or.inl habove
      · exact absurd hdeclined hkept
      · exact Or.inr hedit

/-- A file with a mark at its start and returns in its line ends gets a block, one with the
directive in it stays, and so does the report. -/
theorem report_effect_two_files :
    let disk : Disk :=
      { nodes := [(["a.ts"], .file "\ufeffx\r\n  y\r\n".toUTF8),
          (["b.ts"], .file "// @ts-expect-error\nz".toUTF8),
          (["log"], .file "b.ts(2,1): error TS1: n\na.ts(2,3): error TS1: m\n".toUTF8)] }
    let run := runReport ({} : Draft).freeze Decider.listed (.ofSeed 0) (Path.ofText "log") disk []
    (∃ result, run.result = .ok result) ∧
    run.disk.node? ["a.ts"] = some (.file
      "\ufeffx\r\n  // m\r\n  // @ts-expect-error TODO: fix error and remove\r\n  y\r\n".toUTF8) ∧
    run.disk.node? ["b.ts"] = disk.node? ["b.ts"] ∧
    run.disk.node? ["log"] = disk.node? ["log"] := by
  intro disk run
  have hreport : disk.readText (Path.ofText "log") =
      .ok "b.ts(2,1): error TS1: n\na.ts(2,3): error TS1: m\n" :=
    eq_ok_of_toOption (by decide +kernel)
  have hapart : Apart ({} : Draft).freeze disk (Diagnostic.ofReport (ofText
      "b.ts(2,1): error TS1: n\na.ts(2,3): error TS1: m\n").lines) := by
    decide +kernel
  obtain ⟨result, hrun⟩ : ∃ result, run.result = .ok result :=
    exists_eq_ok (by decide +kernel)
  have heffect := report_effect rfl rfl Decider.listed (.ofSeed 0) [] hreport hapart hrun
  refine ⟨⟨result, hrun⟩, by decide +kernel, by decide +kernel, heffect.1 ["log"] ?_⟩
  decide +kernel

end ExpectError
