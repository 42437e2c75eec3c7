import ExpectError.Proofs.EventLog

/-!
# Where the entries about sites come from

An entry about a site is one of the records of the plan that the run had come to, made from the
lines that its file held at that time. `Reached` says which plans a run comes to, with the disk and
the state of the decision source that it finds there; `PlanRun.exists_record` is the step for one
file, `runPlans_record` follows the plans, and `runReport_record` takes in the report.
-/

namespace ExpectError

open LineBuffer (ofText)

variable {σ α β : Type}

theorem Run.mem_andThen {first : Run σ α} {next : Disk → σ → α → Run σ β} {entry : Entry}
    (h : entry ∈ (first.andThen next).entries) :
    entry ∈ first.entries ∨ ∃ value, first.result = .ok value ∧
      entry ∈ (next first.disk first.state value).entries := by
  rcases hresult : first.result with error | value
  · rw [Run.andThen_of_error hresult] at h
    exact Or.inl h
  · rw [Run.andThen_of_ok hresult, List.mem_append] at h
    exact h.imp_right fun hmem => ⟨value, rfl, hmem⟩

theorem Entry.event?_cases {entry : Entry} {event : Event} (h : entry.event? = some event) :
    (∃ name preview record, entry = .site name preview record ∧
      SiteEnd.event? name preview record.ending = some event) ∨
    event.edit? = none ∧ event.skip? = none := by
  cases entry with
  | sampled => cases h
  | processing => cases h
  | site name preview record => exact Or.inl ⟨name, preview, record, rfl, h⟩
  | read path fault =>
    obtain rfl := Option.some.inj (Option.ite_none_right_eq_some.mp h).2
    exact Or.inr ⟨rfl, rfl⟩
  | wrote path fault =>
    obtain rfl := Option.some.inj (Option.ite_none_right_eq_some.mp h).2
    exact Or.inr ⟨rfl, rfl⟩
  | finished outcome =>
    obtain rfl := Option.some.inj h
    exact Or.inr ⟨rfl, rfl⟩

theorem exists_record_of_edit {entries : List Entry} {name : String} {edit : Edit}
    (h : (name, edit) ∈ (eventsOf entries).filterMap Event.edit?) :
    ∃ preview record, .site name preview record ∈ entries ∧ record.ending = .edited edit := by
  obtain ⟨event, hevent, hedit⟩ := List.mem_filterMap.mp h
  obtain ⟨entry, hentry, hevent⟩ := List.mem_filterMap.mp hevent
  rcases Entry.event?_cases hevent with ⟨name', preview, record, rfl, hending⟩ | ⟨hnone, -⟩
  · rcases hend : record.ending with edit' | skip | _ <;> rw [hend] at hending
    · obtain rfl := Option.some.inj hending
      obtain ⟨rfl, rfl⟩ := Prod.mk.inj (Option.some.inj hedit)
      exact ⟨preview, record, hentry, hend⟩
    · obtain rfl := Option.some.inj hending
      cases hedit
    · cases hending
  · rw [hnone] at hedit
    cases hedit

theorem exists_record_of_skip {entries : List Entry} {name : String} {skip : Skip}
    (h : (name, skip) ∈ (eventsOf entries).filterMap Event.skip?) :
    ∃ preview record, .site name preview record ∈ entries ∧ record.ending = .skipped skip := by
  obtain ⟨event, hevent, hskip⟩ := List.mem_filterMap.mp h
  obtain ⟨entry, hentry, hevent⟩ := List.mem_filterMap.mp hevent
  rcases Entry.event?_cases hevent with ⟨name', preview, record, rfl, hending⟩ | ⟨-, hnone⟩
  · rcases hend : record.ending with edit | skip' | _ <;> rw [hend] at hending
    · obtain rfl := Option.some.inj hending
      cases hskip
    · obtain rfl := Option.some.inj hending
      obtain ⟨rfl, rfl⟩ := Prod.mk.inj (Option.some.inj hskip)
      exact ⟨preview, record, hentry, hend⟩
    · cases hending
  · rw [hnone] at hskip
    cases hskip

theorem exists_record_of_asked {entries : List Entry} {asked : Asked}
    (h : asked ∈ askedOf entries) :
    ∃ name preview record, .site name preview record ∈ entries ∧ record.asked = some asked := by
  obtain ⟨entry, hentry, hasked⟩ := List.mem_filterMap.mp h
  cases entry with
  | site name preview record => exact ⟨name, preview, record, hentry, hasked⟩
  | _ => cases hasked

section Run

variable {config : Config} {decide : Decider σ}

theorem PlanRun.exists_record {remaining : Nat} {plan : EditPlan} {disk : Disk} {state : σ}
    {run : Run σ FileOutcome} (h : PlanRun config decide remaining plan disk state run)
    {name : String} {preview : Bool} {record : SiteRecord}
    (hentry : .site name preview record ∈ run.entries) :
    name = plan.path ∧ ∃ text, disk.readText (config.resolve plan.path) = .ok text ∧
      record ∈ (plan.mutation config decide remaining (ofText text).lines state).records := by
  have htold : ∀ text mutation, disk.readText (config.resolve plan.path) = .ok text →
      mutation = plan.mutation config decide remaining (ofText text).lines state →
      .site name preview record ∈ plan.told config mutation → name = plan.path ∧
        ∃ text, disk.readText (config.resolve plan.path) = .ok text ∧
          record ∈ (plan.mutation config decide remaining (ofText text).lines state).records := by
    rintro text _ hread rfl hmem
    obtain ⟨record', hrecord, heq⟩ := List.mem_map.mp hmem
    obtain ⟨rfl, -, rfl⟩ := Entry.site.inj heq
    exact ⟨rfl, text, hread, hrecord⟩
  cases h with
  | unread => simp [EditPlan.opening] at hentry
  | abandoned hread hmutation =>
    exact htold _ _ hread hmutation (by simpa [EditPlan.opening] using hentry)
  | kept hread hmutation =>
    exact htold _ _ hread hmutation (by simpa [EditPlan.opening] using hentry)
  | unwritten hread hmutation =>
    exact htold _ _ hread hmutation (by simpa [EditPlan.opening] using hentry)
  | written hread hmutation =>
    exact htold _ _ hread hmutation (by simpa [EditPlan.opening] using hentry)

variable (config decide) in
/-- The plans that a run over plans comes to: each with the number of plans behind it, and with the
disk and the state of the decision source that the plans before it have left. -/
inductive Reached : List EditPlan → Disk → σ → EditPlan → Nat → Disk → σ → Prop
  | here {plan : EditPlan} {plans : List EditPlan} {disk : Disk} {state : σ} :
    Reached (plan :: plans) disk state plan plans.length disk state
  | later {first plan : EditPlan} {plans : List EditPlan} {disk disk' : Disk} {state state' : σ}
    {remaining : Nat}
    (hfirst : (runPlan config decide plans.length first disk state).result.isOk = true)
    (hrest : Reached plans (runPlan config decide plans.length first disk state).disk
      (runPlan config decide plans.length first disk state).state plan remaining disk' state') :
    Reached (first :: plans) disk state plan remaining disk' state'

theorem Reached.mem {plans : List EditPlan} {plan : EditPlan} {remaining : Nat}
    {disk disk' : Disk} {state state' : σ}
    (h : Reached config decide plans disk state plan remaining disk' state') : plan ∈ plans := by
  induction h with
  | here => exact List.mem_cons_self
  | later _ _ ih => exact List.mem_cons_of_mem _ ih

theorem runPlans_record {plans : List EditPlan} {disk : Disk} {state : σ} {name : String}
    {preview : Bool} {record : SiteRecord}
    (hentry : .site name preview record ∈ (runPlans config decide plans disk state).entries) :
    ∃ plan remaining disk' state' text,
      Reached config decide plans disk state plan remaining disk' state' ∧ plan.path = name ∧
      disk'.readText (config.resolve name) = .ok text ∧
      record ∈ (plan.mutation config decide remaining (ofText text).lines state').records := by
  induction plans generalizing disk state with
  | nil => cases hentry
  | cons plan plans ih =>
    rcases Run.mem_andThen hentry with hown | ⟨outcome, hfirst, hentry⟩
    · obtain ⟨rfl, text, hread, hrecord⟩ := (runPlan_planRun ..).exists_record hown
      exact ⟨plan, plans.length, disk, state, text, .here, rfl, hread, hrecord⟩
    · rcases Run.mem_andThen hentry with hrest | ⟨_, -, hdone⟩
      · obtain ⟨plan', remaining, disk', state', text, hreached, hfound⟩ := ih hrest
        exact ⟨plan', remaining, disk', state', text, .later (by rw [hfirst]; rfl) hreached, hfound⟩
      · cases hdone

theorem select_disk_state (config : Config) (generator : Random.Twister) (ds : List Diagnostic)
    (disk : Disk) (state : σ) : (select config generator ds disk state).disk = disk ∧
      (select config generator ds disk state).state = state := by
  unfold select
  split
  · exact ⟨rfl, rfl⟩
  · split <;> exact ⟨rfl, rfl⟩

/-- **Entries about sites in a run over a report.** The plan is one of those for the selected
diagnostics of the report. -/
theorem runReport_record {generator : Random.Twister} {report : Path} {disk : Disk} {state : σ}
    {name : String} {preview : Bool} {record : SiteRecord}
    (hentry : .site name preview record ∈
      (runReport config decide generator report disk state).entries) :
    ∃ text selected plan remaining disk' state' content, disk.readText report = .ok text ∧
      (select config generator (Diagnostic.ofReport (ofText text).lines) disk state).result =
        .ok selected ∧
      Reached config decide (EditPlan.ofDiagnostics selected) disk state plan remaining disk'
        state' ∧
      plan.path = name ∧ disk'.readText (config.resolve name) = .ok content ∧
      record ∈ (plan.mutation config decide remaining (ofText content).lines state').records := by
  rcases Run.mem_andThen hentry with hread | ⟨buffer, hread, hentry⟩
  · -- reading the report tells of no site
    unfold readBuffer at hread
    split at hread <;> simp at hread
  obtain ⟨hdisk, hstate, text, htext, rfl⟩ := readBuffer_ends (Run.ends_of_result hread)
  rw [hdisk, hstate] at hentry
  rcases Run.mem_andThen hentry with hselect | ⟨selected, hselect, hentry⟩
  · -- nor does drawing the sample
    unfold select at hselect
    split at hselect
    · cases hselect
    · split at hselect <;> simp at hselect
  obtain ⟨hdisk, hstate⟩ :=
    select_disk_state config generator (Diagnostic.ofReport (ofText text).lines) disk state
  rw [hdisk, hstate] at hentry
  rcases Run.mem_andThen hentry with hplans | ⟨_, -, hdone⟩
  · obtain ⟨plan, remaining, disk', state', content, hfound⟩ := runPlans_record hplans
    exact ⟨text, selected, plan, remaining, disk', state', content, htext, hselect, hfound⟩
  · cases hdone

end Run

end ExpectError
