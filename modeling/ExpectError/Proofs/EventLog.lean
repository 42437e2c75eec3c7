import ExpectError.Proofs.DryRun
import ExpectError.Proofs.FailedRun
import ExpectError.Proofs.Partition

/-!
# The events of a run and its counts

What a reporter is told of a run that comes to its end, event by event (`RunLog`): for each file the
read, one event for each site from the bottom up, the write if there is one, and the outcome. The
edits and the skips among these events are those of the outcomes, so the counts of a result can be
read off the events (`RunLog.counts`). On the other side the sites of all plans are the lines of the
files that diagnostics point at, each once (`places_ofDiagnostics`), and the plans stand in the
order in which their paths are first seen (`paths_ofDiagnostics`).
-/

namespace ExpectError

open LineBuffer (ofText)

variable {σ : Type}

/-! ## The events of a file -/

/-- The edit that an event tells of, with the name of its file. -/
def Event.edit? : Event → Option (String × Edit)
  | .edit name inserted _ => some (name, inserted)
  | _ => none

/-- The skip that an event tells of, with the name of its file. -/
def Event.skip? : Event → Option (String × Skip)
  | .skip name passed => some (name, passed)
  | _ => none

/-- Whether an event tells of a file that was written. -/
def Event.isWrite : Event → Bool
  | .io .write _ none => true
  | _ => false

/-- What is told of a file that is done with: it was read, so much was told of its sites, it was
written if there was something to write, and this is the outcome. -/
structure FileLog (config : Config) (plan : EditPlan) (outcome : FileOutcome)
    (told events : List Event) : Prop where
  name : outcome.name = plan.path
  path : outcome.path = config.resolve plan.path
  events : events = .io .read outcome.path none :: (told ++
    ((if outcome.edits ≠ [] ∧ config.dry = false then [.io .write outcome.path none] else []) ++
      [.file outcome]))
  /-- There is one event for each site, in their order. -/
  sites : List.Forall₂ (Event.TellsOf outcome.name config.dry) plan.sites told
  edits : told.filterMap Event.edit? = outcome.edits.map (outcome.name, ·)
  skips : told.filterMap Event.skip? = outcome.skips.map (outcome.name, ·)
  written : outcome.written = (outcome.changed && !config.dry)

def SiteEnd.event? (name : String) (preview : Bool) : SiteEnd → Option Event
  | .edited edit => some (.edit name edit preview)
  | .skipped skip => some (.skip name skip)
  | .abandoned => none

theorem eventsOf_told (config : Config) (plan : EditPlan) (mutation : Mutation σ) :
    eventsOf (plan.told config mutation) =
      mutation.endings.filterMap (SiteEnd.event? plan.path config.dry) := by
  unfold eventsOf EditPlan.told Mutation.endings
  rw [List.filterMap_map, List.filterMap_map]
  rfl

theorem edits_told (config : Config) (plan : EditPlan) (mutation : Mutation σ) :
    (eventsOf (plan.told config mutation)).filterMap Event.edit? =
      mutation.edits.map (plan.path, ·) := by
  rw [eventsOf_told, Mutation.edits_eq, List.filterMap_filterMap, List.map_filterMap]
  refine List.filterMap_congr fun ending _ => ?_
  cases ending <;> rfl

theorem skips_told (config : Config) (plan : EditPlan) (mutation : Mutation σ) :
    (eventsOf (plan.told config mutation)).filterMap Event.skip? =
      mutation.skips.map (plan.path, ·) := by
  rw [eventsOf_told, Mutation.skips_eq, List.filterMap_filterMap, List.map_filterMap]
  refine List.filterMap_congr fun ending _ => ?_
  cases ending <;> rfl

theorem runPlan_log {config : Config} {decide : Decider σ} {remaining : Nat} {plan : EditPlan}
    {disk : Disk} {state : σ} {outcome : FileOutcome}
    (h : (runPlan config decide remaining plan disk state).result = .ok outcome) :
    ∃ told, FileLog config plan outcome told
      (eventsOf (runPlan config decide remaining plan disk state).entries) := by
  obtain ⟨text, mutation, -, hmutation, hgoing, houtcome, hrun⟩ := (runPlan_planRun ..).of_ok h
  obtain ⟨dealt, rest, hsites, htells, hall⟩ := EditPlan.tells hmutation
  -- the decision source has not given up, so no site is left
  rw [hall.mp hgoing, List.append_nil] at hsites
  rw [← hsites] at htells
  refine ⟨eventsOf (plan.told config mutation), ?_⟩
  constructor
  case name => rw [houtcome]; rfl
  case path => rw [houtcome]; rfl
  case sites => rw [houtcome]; exact htells
  case edits => rw [houtcome]; exact edits_told config plan mutation
  case skips => rw [houtcome]; exact skips_told config plan mutation
  case written => rw [houtcome]; rfl
  case events =>
    have hedits : outcome.edits ≠ [] ∧ config.dry = false ↔
        (mutation.changed && !config.dry) = true := by
      rw [houtcome]
      simp [EditPlan.outcome, Mutation.changed]
    have hpath : config.resolve plan.path = outcome.path := by rw [houtcome]; rfl
    rcases hrun with ⟨hkept, hrun⟩ | ⟨hchanged, disk', -, hrun⟩
    · rw [hrun, if_neg (by rw [hedits, hkept]; decide), eventsOf_append, eventsOf_append,
        eventsOf_opening, hpath]
      rfl
    · rw [hrun, if_pos (hedits.mpr hchanged), eventsOf_append, eventsOf_append, eventsOf_opening,
        hpath]
      rfl

/-! ## The events of all files -/

/-- What is told of files that are done with, one after the other. -/
inductive RunLog (config : Config) : List EditPlan → List FileOutcome → List Event → Prop
  | nil : RunLog config [] [] []
  | cons {plan : EditPlan} {plans : List EditPlan} {outcome : FileOutcome}
    {outcomes : List FileOutcome} {told own events : List Event}
    (hown : FileLog config plan outcome told own) (hrest : RunLog config plans outcomes events) :
    RunLog config (plan :: plans) (outcome :: outcomes) (own ++ events)

theorem runPlans_log {config : Config} {decide : Decider σ} {plans : List EditPlan} {disk : Disk}
    {state : σ} {outcomes : List FileOutcome}
    (h : (runPlans config decide plans disk state).result = .ok outcomes) :
    RunLog config plans outcomes (eventsOf (runPlans config decide plans disk state).entries) := by
  induction plans generalizing disk state outcomes with
  | nil =>
    obtain rfl := Except.ok.inj h
    exact .nil
  | cons plan plans ih =>
    obtain ⟨_, outcome, hown, h⟩ := Run.andThen_ends (Run.ends_of_result h)
    obtain ⟨_, others, hrest, h⟩ := Run.andThen_ends h
    obtain rfl := Except.ok.inj h.result
    obtain rfl := hown.disk
    obtain ⟨told, hlog⟩ := runPlan_log hown.result
    rw [runPlans, Run.andThen_of_ok hown.result, Run.andThen_of_ok hrest.result]
    simp only [Run.done, List.append_nil, eventsOf_append]
    exact .cons hlog (ih hrest.result)

theorem tells_counts {name : String} {preview : Bool} {sites : List Site} {told : List Event}
    (h : List.Forall₂ (Event.TellsOf name preview) sites told) :
    (told.filterMap Event.edit?).length + (told.filterMap Event.skip?).length = sites.length ∧
      told.countP Event.isWrite = 0 := by
  induction h with
  | nil => exact ⟨rfl, rfl⟩
  | @cons site event sites told hsite _ ih =>
    obtain ⟨hlength, hwrites⟩ := ih
    cases event with
    | edit =>
      refine ⟨?_, hwrites⟩
      simp only [List.filterMap_cons, Event.edit?, Event.skip?, List.length_cons]
      omega
    | skip =>
      refine ⟨?_, hwrites⟩
      simp only [List.filterMap_cons, Event.edit?, Event.skip?, List.length_cons]
      omega
    | io => exact hsite.elim
    | file => exact hsite.elim

section Counts

variable {config : Config}

theorem FileLog.filterMap_eq {plan : EditPlan} {outcome : FileOutcome} {told own : List Event}
    (h : FileLog config plan outcome told own) {γ : Type} (view : Event → Option γ)
    (hio : ∀ operation path fault, view (.io operation path fault) = none)
    (hfile : ∀ outcome, view (.file outcome) = none) :
    own.filterMap view = told.filterMap view := by
  rw [h.events, List.filterMap_cons_none (hio ..), List.filterMap_append, List.filterMap_append,
    List.filterMap_cons_none (hfile _), List.filterMap_nil, List.append_nil]
  split_ifs
  · rw [List.filterMap_cons_none (hio ..), List.filterMap_nil, List.append_nil]
  · rw [List.filterMap_nil, List.append_nil]

theorem FileLog.countP_isWrite {plan : EditPlan} {outcome : FileOutcome} {told own : List Event}
    (h : FileLog config plan outcome told own) :
    own.countP Event.isWrite = if outcome.written then 1 else 0 := by
  rw [h.events, h.written, List.countP_cons, List.countP_append, List.countP_append,
    (tells_counts h.sites).2]
  by_cases hedits : outcome.edits = [] <;> cases config.dry <;>
    simp [hedits, FileOutcome.changed, Event.isWrite]

theorem RunLog.counts {plans : List EditPlan} {outcomes : List FileOutcome} {events : List Event}
    (h : RunLog config plans outcomes events) :
    (events.filterMap Event.edit?).length = (outcomes.flatMap FileOutcome.edits).length ∧
    (events.filterMap Event.skip?).length = (outcomes.flatMap FileOutcome.skips).length ∧
    (outcomes.flatMap FileOutcome.edits).length + (outcomes.flatMap FileOutcome.skips).length =
      (plans.flatMap EditPlan.sites).length ∧
    events.countP Event.isWrite = outcomes.countP FileOutcome.written := by
  induction h with
  | nil => exact ⟨rfl, rfl, rfl, rfl⟩
  | @cons plan plans outcome outcomes told own events hown _ ih =>
    obtain ⟨hedits, hskips, hsites, hwrites⟩ := ih
    have hownEdits := hown.filterMap_eq Event.edit? (fun _ _ _ => rfl) (fun _ => rfl)
    have hownSkips := hown.filterMap_eq Event.skip? (fun _ _ _ => rfl) (fun _ => rfl)
    have hall := (tells_counts hown.sites).1
    rw [hown.edits, hown.skips, List.length_map, List.length_map] at hall
    simp only [List.filterMap_append, List.countP_append, List.flatMap_cons, List.length_append,
      List.countP_cons, hownEdits, hownSkips, hown.edits, hown.skips, List.length_map,
      hown.countP_isWrite]
    omega

theorem RunLog.names {plans : List EditPlan} {outcomes : List FileOutcome} {events : List Event}
    (h : RunLog config plans outcomes events) :
    outcomes.map FileOutcome.name = plans.map EditPlan.path := by
  induction h with
  | nil => rfl
  | cons hown _ ih => rw [List.map_cons, List.map_cons, hown.name, ih]

theorem RunLog.written {plans : List EditPlan} {outcomes : List FileOutcome} {events : List Event}
    (h : RunLog config plans outcomes events) :
    outcomes.countP FileOutcome.written =
      if config.dry then 0 else outcomes.countP FileOutcome.changed := by
  induction h with
  | nil => simp
  | cons hown _ ih =>
    rw [List.countP_cons, List.countP_cons, ih, hown.written]
    cases config.dry <;> simp

end Counts

/-! ## Runs over diagnostics -/

theorem eventsOf_select (config : Config) (generator : Random.Twister) (ds : List Diagnostic)
    (disk : Disk) (state : σ) : eventsOf (select config generator ds disk state).entries = [] := by
  unfold select
  split
  · rfl
  · split <;> rfl

/-- **The events of a run account for every site.** If a run over diagnostics comes to its end, the
reporter has been told, for each outcome in order and nothing else: that its file was read, what
became of each site of its plan from the bottom up, that the file was written if there is an edit
and the run is not dry, and the outcome. So the counts of the result are those of the events; there
are as many edits and skips as lines of files that the selected diagnostics point at; and there is
one outcome for each path, in the order in which they are first seen. -/
theorem run_log_accounts (config : Config) (decide : Decider σ) (generator : Random.Twister)
    (ds : List Diagnostic) (disk : Disk) (state : σ) {result : RunResult}
    (hrun : (runDiagnostics config decide generator ds disk state).result = .ok result) :
    let events := eventsOf (runDiagnostics config decide generator ds disk state).entries
    let plans := EditPlan.ofDiagnostics result.diagnostics
    (select config generator ds disk state).result = .ok result.diagnostics ∧
    RunLog config plans result.outcomes events ∧
    (∀ plan ∈ plans, Descending Site.line plan.sites) ∧
    result.inserted = (events.filterMap Event.edit?).length ∧
    result.skipped = (events.filterMap Event.skip?).length ∧
    result.inserted + result.skipped =
      (result.diagnostics.map fun d => (d.path, d.line)).toFinset.card ∧
    result.written = events.countP Event.isWrite ∧
    result.written = (if config.dry then 0 else result.changed) ∧
    result.outcomes.map FileOutcome.name = (result.diagnostics.map Diagnostic.path).eraseDups := by
  intro events plans
  obtain ⟨_, selected, hselect, h⟩ := Run.andThen_ends (Run.ends_of_result hrun)
  obtain ⟨_, outcomes, hplans, h⟩ := Run.andThen_ends h
  obtain rfl := Except.ok.inj h.result
  obtain rfl := hselect.disk
  have hlog : RunLog config plans outcomes events := by
    have hevents : events = eventsOf (runPlans config decide plans
        (select config generator ds disk state).disk
        (select config generator ds disk state).state).entries := by
      simp only [events, plans, runDiagnostics, Run.andThen_of_ok hselect.result,
        Run.andThen_of_ok hplans.result, eventsOf_append, eventsOf_select]
      simp [Run.done, eventsOf]
    rw [hevents]
    exact runPlans_log hplans.result
  have hgrouped : EditPlan.Grouped plans := EditPlan.ofDiagnostics_grouped selected
  obtain ⟨hedits, hskips, hsites, hwrites⟩ := hlog.counts
  refine ⟨hselect.result, hlog, hgrouped.descending, hedits.symm, hskips.symm, ?_, hwrites.symm,
    hlog.written, ?_⟩
  · calc (outcomes.flatMap FileOutcome.edits).length + (outcomes.flatMap FileOutcome.skips).length
      _ = (EditPlan.places plans).length := by rw [hsites, EditPlan.length_places]
      _ = (EditPlan.places plans).toFinset.card :=
        (List.toFinset_card_of_nodup (EditPlan.places_nodup hgrouped)).symm
      _ = (selected.map fun d => (d.path, d.line)).toFinset.card := by
        rw [EditPlan.places_ofDiagnostics]
  · rw [hlog.names, EditPlan.paths_ofDiagnostics]

/-- Two files: one with two messages at a line and a site beyond its end, one whose site is
declined. -/
theorem run_log_accounts_mixed :
    let disk : Disk :=
      { nodes := [(["a.ts"], .file "x\ny".toUTF8), (["b.tsx"], .file "<b/>".toUTF8)] }
    let ds : List Diagnostic :=
      [⟨"b.tsx", 1, 1, "TS1", "k"⟩, ⟨"a.ts", 2, 1, "TS1", "m"⟩, ⟨"a.ts", 9, 1, "TS1", "n"⟩,
        ⟨"a.ts", 2, 5, "TS2", "o"⟩]
    let run := runDiagnostics ({} : Draft).freeze Decider.listed (.ofSeed 0) ds disk [.skip]
    ∃ result, run.result = .ok result ∧ result.inserted = 1 ∧ result.skipped = 2 ∧
      result.written = 1 ∧ (eventsOf run.entries).length = 8 ∧
      result.outcomes.map FileOutcome.name = ["b.tsx", "a.ts"] ∧
      RunLog ({} : Draft).freeze (EditPlan.ofDiagnostics ds) result.outcomes
        (eventsOf run.entries) := by
  intro disk ds run
  obtain ⟨result, hrun⟩ : ∃ result, run.result = .ok result := exists_eq_ok (by decide +kernel)
  obtain ⟨hselect, hlog, -, hinserted, hskipped, -, hwritten, -, hnames⟩ :=
    run_log_accounts ({} : Draft).freeze Decider.listed (.ofSeed 0) ds disk [.skip] hrun
  have hds : result.diagnostics = ds := (Except.ok.inj hselect).symm
  rw [hds] at hlog hnames
  refine ⟨result, hrun, ?_, ?_, ?_, by decide +kernel, ?_, hlog⟩
  · rw [hinserted]
    decide +kernel
  · rw [hskipped]
    decide +kernel
  · rw [hwritten]
    decide +kernel
  · rw [hnames]
    decide +kernel

end ExpectError
