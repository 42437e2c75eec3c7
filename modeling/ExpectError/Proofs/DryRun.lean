import ExpectError.Proofs.PlanRun
import ExpectError.Proofs.ReportEffect

/-!
# Dry runs

A dry run reads and asks but does not write (`Run.Reads`), so it always finds the files as they were
at the start. A real run finds what it has written itself, but where no two paths lead to the same
place it has not yet written what it goes on to read. The two runs read the same texts, so they deal
with the sites alike, put the same questions and come to the same outcomes (`runPlans_preview`).
-/

namespace ExpectError

open LineBuffer (ofText withBlocks)

variable {σ α β : Type}

/-! ## Nothing is written -/

/-- The part leaves the disk alone and does not try to write. -/
structure Run.Reads (run : Run σ α) (disk : Disk) : Prop where
  disk : run.disk = disk
  entries : ∀ path fault, Entry.wrote path fault ∉ run.entries

theorem Run.Reads.andThen {first : Run σ α} {next : Disk → σ → α → Run σ β} {disk : Disk}
    (h : first.Reads disk) (hnext : ∀ state value, (next disk state value).Reads disk) :
    (first.andThen next).Reads disk := by
  rcases hresult : first.result with error | value
  · rw [Run.andThen_of_error hresult]
    exact ⟨h.disk, h.entries⟩
  · rw [Run.andThen_of_ok hresult, h.disk]
    refine ⟨(hnext _ _).disk, fun path fault hmem => ?_⟩
    rcases List.mem_append.mp hmem with hmem | hmem
    · exact h.entries path fault hmem
    · exact (hnext _ _).entries path fault hmem

theorem Run.done_reads (disk : Disk) (state : σ) (value : α) :
    (Run.done disk state value).Reads disk :=
  ⟨rfl, fun _ _ => List.not_mem_nil⟩

theorem Run.Reads.events {run : Run σ α} {disk : Disk} (h : run.Reads disk) (path : Path)
    (fault : Option IoFault) : Event.io .write path fault ∉ eventsOf run.entries := by
  intro hmem
  obtain ⟨entry, hentry, hevent⟩ := List.mem_filterMap.mp hmem
  cases entry with
  | wrote path' fault' => exact h.entries path' fault' hentry
  | sampled => cases hevent
  | processing => cases hevent
  | read => simp [Entry.event?, Event.ofOperation] at hevent
  | site name preview record =>
    dsimp only [Entry.event?] at hevent
    split at hevent
    all_goals cases hevent
  | finished => cases hevent

theorem readBuffer_reads (path : Path) (disk : Disk) (state : σ) :
    (readBuffer path disk state).Reads disk := by
  unfold readBuffer
  rcases disk.readText path with fault | text
  · exact ⟨rfl, by simp⟩
  · exact ⟨rfl, by simp⟩

section Dry

variable {config : Config} (hdry : config.dry = true) (decide : Decider σ)

include hdry

theorem runPlan_reads (remaining : Nat) (plan : EditPlan) (disk : Disk) (state : σ) :
    (runPlan config decide remaining plan disk state).Reads disk := by
  have h := runPlan_planRun config decide remaining plan disk state
  generalize runPlan config decide remaining plan disk state = run at h
  cases h with
  | unread => exact ⟨rfl, by simp [EditPlan.opening]⟩
  | abandoned => exact ⟨rfl, by simp [EditPlan.opening, EditPlan.told]⟩
  | kept => exact ⟨rfl, by simp [EditPlan.opening, EditPlan.told]⟩
  | unwritten _ _ _ hchanged => simp [hdry] at hchanged
  | written _ _ _ hchanged => simp [hdry] at hchanged

theorem runPlans_reads (plans : List EditPlan) (disk : Disk) (state : σ) :
    (runPlans config decide plans disk state).Reads disk := by
  induction plans generalizing state with
  | nil => exact Run.done_reads disk state []
  | cons plan plans ih =>
    exact (runPlan_reads hdry decide _ plan disk state).andThen fun state outcome =>
      (ih state).andThen fun state outcomes => Run.done_reads disk state _

end Dry

theorem select_reads (config : Config) (generator : Random.Twister) (ds : List Diagnostic)
    (disk : Disk) (state : σ) : (select config generator ds disk state).Reads disk := by
  unfold select
  split
  · exact Run.done_reads disk state ds
  · split
    · exact ⟨rfl, by simp⟩
    · exact ⟨rfl, by simp⟩

theorem runReport_reads {config : Config} (hdry : config.dry = true) (decide : Decider σ)
    (generator : Random.Twister) (report : Path) (disk : Disk) (state : σ) :
    (runReport config decide generator report disk state).Reads disk :=
  (readBuffer_reads report disk state).andThen fun state _ =>
    (select_reads config generator _ disk state).andThen fun state _ =>
      (runPlans_reads hdry decide _ disk state).andThen fun state _ =>
        Run.done_reads disk state _

/-! ## The same course -/

/-- What a dry run shows of a real one: it comes to its end with a result, and the decision source
has been asked the same questions and is left in the same state. -/
structure Previews (dry real : Run σ α) (shown : α) : Prop where
  result : dry.result = .ok shown
  state : dry.state = real.state
  asked : askedOf dry.entries = askedOf real.entries

theorem Previews.refl {run : Run σ α} {value : α} (h : run.result = .ok value) :
    Previews run run value :=
  ⟨h, rfl, rfl⟩

theorem Previews.andThen {dry real : Run σ α} {shown value : α} (h : Previews dry real shown)
    (hreal : real.result = .ok value) {next next' : Disk → σ → α → Run σ β} {shown' : β}
    (hnext : Previews (next dry.disk real.state shown) (next' real.disk real.state value) shown') :
    Previews (dry.andThen next) (real.andThen next') shown' := by
  rw [Run.andThen_of_ok h.result, Run.andThen_of_ok hreal, h.state]
  refine ⟨hnext.result, hnext.state, ?_⟩
  rw [askedOf_append, askedOf_append, h.asked, hnext.asked]

/-- The outcome of a run that does not write. -/
def FileOutcome.unwritten (outcome : FileOutcome) : FileOutcome :=
  { outcome with written := false }

section Plans

variable {config : Config} {decide : Decider σ}

theorem runPlan_dry {remaining : Nat} {plan : EditPlan} {disk : Disk} {state : σ} {text : String}
    {mutation : Mutation σ} (hread : disk.readText (config.resolve plan.path) = .ok text)
    (hmutation : mutation = plan.mutation config decide remaining (ofText text).lines state)
    (hgoing : mutation.abandoned = false) :
    runPlan { config with dry := true } decide remaining plan disk state =
      ⟨disk, mutation.state,
        plan.opening config none ++ (plan.told { config with dry := true } mutation ++
          [.finished (plan.outcome config (ofText text).lines mutation false)]),
        .ok (plan.outcome config (ofText text).lines mutation false)⟩ := by
  rw [← EditPlan.mutation_with config decide remaining plan true config.sample] at hmutation
  have h := runPlan_planRun { config with dry := true } decide remaining plan disk state
  generalize runPlan { config with dry := true } decide remaining plan disk state = run at h ⊢
  cases h with
  | unread hread' => cases hread'.symm.trans hread
  | abandoned hread' hmutation' hgone =>
    obtain rfl := Except.ok.inj (hread'.symm.trans hread)
    obtain rfl := hmutation'.trans hmutation.symm
    rw [hgoing] at hgone
    cases hgone
  | kept hread' hmutation' =>
    obtain rfl := Except.ok.inj (hread'.symm.trans hread)
    obtain rfl := hmutation'.trans hmutation.symm
    rfl
  | unwritten _ _ _ hchanged => simp at hchanged
  | written _ _ _ hchanged => simp at hchanged

theorem runPlan_preview (hdry : config.dry = false) {remaining : Nat} {plan : EditPlan}
    {disk start : Disk} {state : σ} {outcome : FileOutcome}
    (hread : ∀ text, disk.readText (config.resolve plan.path) = .ok text →
      start.readText (config.resolve plan.path) = .ok text)
    (hown : (runPlan config decide remaining plan disk state).result = .ok outcome) :
    Previews (runPlan { config with dry := true } decide remaining plan start state)
        (runPlan config decide remaining plan disk state) outcome.unwritten ∧
      outcome.written = outcome.changed := by
  obtain ⟨text, mutation, htext, hmutation, hgoing, rfl, hrun⟩ := (runPlan_planRun ..).of_ok hown
  obtain ⟨hasked, hstate⟩ :
      askedOf (runPlan config decide remaining plan disk state).entries = mutation.asked ∧
        (runPlan config decide remaining plan disk state).state = mutation.state := by
    rcases hrun with ⟨-, hrun⟩ | ⟨-, _, -, hrun⟩
    · exact ⟨by rw [hrun, askedOf_plan _ _ _ rfl], by rw [hrun]⟩
    · exact ⟨by rw [hrun, askedOf_plan _ _ _ rfl], by rw [hrun]⟩
  rw [runPlan_dry (hread text htext) hmutation hgoing]
  refine ⟨⟨rfl, hstate.symm, ?_⟩, ?_⟩
  · rw [hasked]
    exact askedOf_plan { config with dry := true } _ _ rfl
  · rw [hdry]
    exact Bool.and_true _

/-- The paths of two plans lead to different places. -/
def PlacesApart (config : Config) (disk : Disk) (plan other : EditPlan) : Prop :=
  ∀ location, disk.locate (config.resolve plan.path) = .ok location →
    disk.locate (config.resolve other.path) ≠ .ok location

theorem Disk.SameTree.readText {start disk : Disk} (htree : start.SameTree disk) {path : Path}
    (hkept : ∀ location, start.locate path = .ok location →
      disk.node? location = start.node? location)
    {text : String} (h : disk.readText path = .ok text) : start.readText path = .ok text := by
  obtain ⟨location, hopen, hnode⟩ := Disk.readText_eq_ok_iff.mp h
  rw [htree.openPath_iff] at hopen
  rw [hkept location (Disk.locate_of_openPath hopen)] at hnode
  exact Disk.readText_eq_ok_iff.mpr ⟨location, hopen, hnode⟩

theorem PlanEffect.node?_apart {plan other : EditPlan} {start disk disk' : Disk}
    {outcome : FileOutcome} (h : PlanEffect config plan disk outcome disk')
    (htree : start.SameTree disk) (hapart : PlacesApart config start plan other)
    {location : Location} (hlocate : start.locate (config.resolve other.path) = .ok location) :
    disk'.node? location = disk.node? location := by
  obtain ⟨place, text, hopen, -, hsettles, hnode⟩ := h.file
  have hplace := htree.locate_iff.mp (Disk.locate_of_openPath hopen)
  rw [hsettles.path] at hplace
  rw [hnode, if_neg]
  rintro rfl
  exact hapart location hplace hlocate

/-- **All files, dry.** What a run goes on to read it has not yet written, if the places are apart,
so a dry run from the start goes the same way. -/
theorem runPlans_preview (hdry : config.dry = false) {plans : List EditPlan} {start : Disk}
    (hdesc : ∀ plan ∈ plans, Descending Site.line plan.sites)
    (hapart : plans.Pairwise (PlacesApart config start)) {disk : Disk} (htree : start.SameTree disk)
    (hkept : ∀ plan ∈ plans, ∀ location,
      start.locate (config.resolve plan.path) = .ok location →
        disk.node? location = start.node? location)
    {state : σ} {outcomes : List FileOutcome}
    (h : (runPlans config decide plans disk state).result = .ok outcomes) :
    Previews (runPlans { config with dry := true } decide plans start state)
        (runPlans config decide plans disk state) (outcomes.map FileOutcome.unwritten) ∧
      ∀ outcome ∈ outcomes, outcome.written = outcome.changed := by
  induction plans generalizing disk state outcomes with
  | nil =>
    obtain rfl := Except.ok.inj h
    exact ⟨⟨rfl, rfl, rfl⟩, by simp⟩
  | cons plan plans ih =>
    obtain ⟨middle, outcome, hown, h⟩ := Run.andThen_ends (Run.ends_of_result h)
    obtain ⟨_, others, hrest, h⟩ := Run.andThen_ends h
    obtain rfl := Except.ok.inj h.result
    rw [List.pairwise_cons] at hapart
    have heffect := runPlan_effect hdry (hdesc plan List.mem_cons_self) hown
    obtain ⟨hpreview, hwritten⟩ := runPlan_preview hdry
      (fun text => htree.readText (hkept plan List.mem_cons_self)) hown.result
    obtain ⟨hpreviews, hall⟩ := ih (fun p hp => hdesc p (List.mem_cons_of_mem _ hp)) hapart.2
      (htree.trans heffect.tree)
      (fun other hother location hlocate =>
        (heffect.node?_apart htree (hapart.1 other hother) hlocate).trans
          (hkept other (List.mem_cons_of_mem _ hother) location hlocate))
      hrest.result
    refine ⟨hpreview.andThen hown.result ?_, List.forall_mem_cons.mpr ⟨hwritten, hall⟩⟩
    rw [(runPlan_reads rfl decide _ plan start state).disk, hown.disk]
    exact hpreviews.andThen hrest.result ⟨rfl, rfl, rfl⟩

end Plans

/-! ## Reports -/

theorem Random.sample_mem {τ : Type} {draw : Random.WordSource τ} {items picked : List α}
    {count : Int} {state : τ} (h : (Random.sample draw items count state).1 = .ok picked) :
    ∀ item ∈ picked, item ∈ items := by
  unfold Random.sample at h
  split_ifs at h
  split at h
  case h_1 => cases h
  case h_2 =>
    obtain rfl := Except.ok.inj h
    intro item hitem
    obtain ⟨position, -, hposition⟩ := List.mem_filterMap.mp hitem
    exact List.mem_of_getElem? hposition

theorem select_mem {config : Config} {generator : Random.Twister} {ds selected : List Diagnostic}
    {disk : Disk} {state : σ} (h : (select config generator ds disk state).result = .ok selected) :
    ∀ d ∈ selected, d ∈ ds := by
  unfold select at h
  split at h
  case h_1 =>
    obtain rfl := Except.ok.inj h
    exact fun d hd => hd
  case h_2 =>
    split at h
    case h_1 => cases h
    case h_2 hsample =>
      obtain rfl := Except.ok.inj h
      exact Random.sample_mem hsample

theorem Apart.mono {config : Config} {disk : Disk} {ds selected : List Diagnostic}
    (h : Apart config disk ds) (hsub : ∀ d ∈ selected, d ∈ ds) : Apart config disk selected :=
  fun d hd d' hd' => h d (hsub d hd) d' (hsub d' hd')

theorem Apart.plans {config : Config} {disk : Disk} {ds : List Diagnostic}
    (h : Apart config disk ds) :
    (EditPlan.ofDiagnostics ds).Pairwise (PlacesApart config disk) := by
  have hpaths := List.pairwise_map.mp (EditPlan.ofDiagnostics_grouped ds).paths
  refine hpaths.imp_of_mem fun {plan other} hplan hother hne location hlocate hlocate' => hne ?_
  obtain ⟨d, hd, hpath⟩ := EditPlan.exists_diagnostic_of_plan hplan
  obtain ⟨d', hd', hpath'⟩ := EditPlan.exists_diagnostic_of_plan hother
  rw [← hpath, ← hpath']
  exact h d hd d' hd' location (hpath ▸ hlocate) (hpath' ▸ hlocate')

theorem runReport_preview {config : Config} (hdry : config.dry = false) {decide : Decider σ}
    {generator : Random.Twister} {report : Path} {disk : Disk} {state : σ} {text : String}
    (hreport : disk.readText report = .ok text)
    (hapart : Apart config disk (Diagnostic.ofReport (ofText text).lines)) {result : RunResult}
    (hrun : (runReport config decide generator report disk state).result = .ok result) :
    Previews (runReport { config with dry := true } decide generator report disk state)
        (runReport config decide generator report disk state)
        ⟨result.diagnostics, result.outcomes.map FileOutcome.unwritten⟩ ∧
      (∀ outcome ∈ result.outcomes, outcome.written = outcome.changed) ∧
      Apart config disk result.diagnostics ∧
      RunEffect config (EditPlan.ofDiagnostics result.diagnostics) disk result.outcomes
        (runReport config decide generator report disk state).disk := by
  obtain ⟨_, buffer, hread, h⟩ := Run.andThen_ends (Run.ends_of_result hrun)
  obtain ⟨rfl, hstate, text', htext, rfl⟩ := readBuffer_ends hread
  obtain rfl := Except.ok.inj (htext.symm.trans hreport)
  obtain ⟨_, selected, hselect, h⟩ := Run.andThen_ends h
  obtain rfl := hselect.disk.symm.trans (select_reads ..).disk
  obtain ⟨_, outcomes, hplans, h⟩ := Run.andThen_ends h
  obtain ⟨hdisk, rfl⟩ := Run.done_ends h
  have hselected := hapart.mono (select_mem hselect.result)
  have hdesc := (EditPlan.ofDiagnostics_grouped selected).descending
  obtain ⟨hpreview, hwritten⟩ := runPlans_preview hdry hdesc hselected.plans (Disk.SameTree.refl _)
    (fun _ _ _ _ => rfl) hplans.result
  have heffect := runPlans_effect hdry hdesc hplans
  rw [← hdisk] at heffect
  refine ⟨?_, hwritten, hselected, heffect⟩
  refine (Previews.refl hread.result).andThen hread.result ?_
  rw [hread.disk]
  refine (Previews.refl hselect.result).andThen hselect.result ?_
  rw [hselect.disk]
  exact hpreview.andThen hplans.result ⟨rfl, rfl, rfl⟩

/-- **A dry run changes nothing and shows the real run.** Both start from the same disk, with the
same generator and the decision source in the same state. If no two paths of the report lead to the
same place and the real run comes to its end, then the dry run draws the same diagnostics, puts the
same questions and comes to the same outcomes, except that nothing is written; and the real run has
written what changed: the lines behind the sites, with the line end of the file. -/
theorem dry_run_previews (config : Config) (decide : Decider σ) (generator : Random.Twister)
    (report : Path) (disk : Disk) (state : σ) :
    let dry := runReport { config with dry := true } decide generator report disk state
    let real := runReport { config with dry := false } decide generator report disk state
    dry.disk = disk ∧
    (∀ path fault, Event.io .write path fault ∉ eventsOf dry.entries) ∧
    ∀ text result, disk.readText report = .ok text →
      Apart config disk (Diagnostic.ofReport (ofText text).lines) → real.result = .ok result →
      dry.result = .ok ⟨result.diagnostics, result.outcomes.map FileOutcome.unwritten⟩ ∧
      askedOf dry.entries = askedOf real.entries ∧
      dry.state = real.state ∧
      ∀ outcome ∈ result.outcomes, outcome.written = outcome.changed ∧
        (outcome.changed = true → ∃ location old,
          disk.locate outcome.path = .ok location ∧
          disk.node? location = some (.file old.toUTF8) ∧
          outcome.before = (ofText old).lines ∧
          real.disk.locate outcome.path = .ok location ∧
          real.disk.node? location = some (.file
            (LineBuffer.toText ⟨outcome.after, (ofText old).newline⟩).toUTF8)) := by
  intro dry real
  have hreads : dry.Reads disk := runReport_reads rfl decide generator report disk state
  refine ⟨hreads.disk, hreads.events, fun text result hreport hapart hrun => ?_⟩
  replace hapart : Apart { config with dry := false } disk
    (Diagnostic.ofReport (ofText text).lines) := hapart
  obtain ⟨hpreview, hwritten, hselected, heffect⟩ := runReport_preview rfl hreport hapart hrun
  refine ⟨hpreview.result, hpreview.asked, hpreview.state, fun outcome houtcome =>
    ⟨hwritten outcome houtcome, fun _ => ?_⟩⟩
  obtain ⟨plan, -, location, old, hopen, hold, hsettles, hnew⟩ := heffect.solo hselected houtcome
  have hlocate := Disk.locate_of_openPath hopen
  refine ⟨location, old, hlocate, hold, hsettles.before, heffect.tree.locate_iff.mpr hlocate, ?_⟩
  rw [hsettles.after, hsettles.before, LineBuffer.toText_interleave]
  exact hnew

/-- Two files, one with a question and one whose lines end in a return. -/
theorem dry_run_previews_two_files :
    let config : Config := ({} : Draft).freeze
    let disk : Disk :=
      { nodes := [(["a.tsx"], .file "<b/>\ny".toUTF8), (["b.ts"], .file "x\r\nz\r\n".toUTF8),
          (["log"], .file "b.ts(2,1): error TS1: n\na.tsx(2,3): error TS1: m\n".toUTF8)] }
    let dry := runReport { config with dry := true } Decider.listed (.ofSeed 0) (Path.ofText "log")
      disk [.embedded]
    let real := runReport { config with dry := false } Decider.listed (.ofSeed 0)
      (Path.ofText "log") disk [.embedded]
    dry.disk = disk ∧ (∃ result, real.result = .ok result ∧ result.outcomes.length = 2 ∧
      dry.result = .ok ⟨result.diagnostics, result.outcomes.map FileOutcome.unwritten⟩) ∧
    (askedOf dry.entries).length = 1 ∧ askedOf dry.entries = askedOf real.entries ∧
    real.disk.node? ["b.ts"] = some (.file
      "x\r\n// n\r\n// @ts-expect-error TODO: fix error and remove\r\nz\r\n".toUTF8) := by
  intro config disk dry real
  have hreport : disk.readText (Path.ofText "log") =
      .ok "b.ts(2,1): error TS1: n\na.tsx(2,3): error TS1: m\n" :=
    eq_ok_of_toOption (by decide +kernel)
  have hapart : Apart config disk (Diagnostic.ofReport (ofText
      "b.ts(2,1): error TS1: n\na.tsx(2,3): error TS1: m\n").lines) := by
    decide +kernel
  have houtcomes : (real.result.toOption.map fun result => result.outcomes.length) = some 2 := by
    decide +kernel
  obtain ⟨result, hresult, hlength⟩ := Option.map_eq_some_iff.mp houtcomes
  have hrun : real.result = .ok result := eq_ok_of_toOption hresult
  obtain ⟨hdisk, -, hpreview⟩ :=
    dry_run_previews config Decider.listed (.ofSeed 0) (Path.ofText "log") disk [.embedded]
  obtain ⟨hdry, hasked, -⟩ := hpreview _ result hreport hapart hrun
  exact ⟨hdisk, ⟨result, hrun, hlength, hdry⟩, by decide +kernel, hasked, by decide +kernel⟩

end ExpectError
