import ExpectError.Proofs.DryRun
import ExpectError.Proofs.Neighbours
import ExpectError.Proofs.Partition

/-!
# The order of a report

Which diagnostic comes first in a report matters for the messages at one line and for nothing else.
Grouping forgets the rest but for the order of the plans (`ofDiagnostics_perm`). With a fixed answer
the outcome for a file hangs on its text alone (`EditPlan.outcomeFor`), and where no two paths lead
to the same place no plan gets in the way of another: a run comes to its end exactly if each of its
plans can be carried out on the disk as it is at the start (`runPlans_eq_ok_iff`). So the plans can
be taken in any order (`report_order_irrelevant`).
-/

namespace ExpectError

open LineBuffer (ofText)

variable {σ τ : Type}

/-! ## A fixed answer -/

section Fixed

variable (config : Config) (path directive : String) (answer : CommentStyle)

theorem applySite_fixed_congr (more more' : Int) (site : Site) (lines : List String) (state : σ)
    (state' : τ) :
    let step := applySite ⟨config, path, directive, more⟩ (Decider.fixed answer) site lines state
    let step' := applySite ⟨config, path, directive, more'⟩ (Decider.fixed answer) site lines state'
    step'.ending = step.ending ∧ step'.lines = step.lines := by
  intro step step'
  have hending : step'.ending = step.ending := by
    rcases htarget : itemAt lines site.line with _ | target
    · have h := applySite_outOfRange ⟨config, path, directive, more⟩ (Decider.fixed answer) state
        htarget
      have h' := applySite_outOfRange ⟨config, path, directive, more'⟩ (Decider.fixed answer) state'
        htarget
      simp only [step, step', h, h']
    · by_cases habove : Suppressed directive lines site.line
      · have h := applySite_suppressed ⟨config, path, directive, more⟩ (Decider.fixed answer) state
          htarget habove
        have h' := applySite_suppressed ⟨config, path, directive, more'⟩ (Decider.fixed answer)
          state' htarget habove
        simp only [step, step', h, h']
      · have h := applySite_fixed ⟨config, path, directive, more⟩ answer state htarget habove
        have h' := applySite_fixed ⟨config, path, directive, more'⟩ answer state' htarget habove
        exact h'.trans h.symm
  refine ⟨hending, ?_⟩
  rw [(applySite_endsAs ..).2, (applySite_endsAs ..).2]
  exact congrArg (SiteEnd.linesAfter lines) hending

theorem apply_fixed_congr (more more' : Int) (sites : List Site) (lines : List String) (state : σ)
    (state' : τ) :
    let run := Mutation.apply ⟨config, path, directive, more⟩ (Decider.fixed answer) sites lines
      state
    let run' := Mutation.apply ⟨config, path, directive, more'⟩ (Decider.fixed answer) sites lines
      state'
    run'.endings = run.endings ∧ run'.lines = run.lines := by
  induction sites generalizing lines state state' with
  | nil => exact ⟨rfl, rfl⟩
  | cons site sites ih =>
    obtain ⟨hending, hlines⟩ := applySite_fixed_congr config path directive answer more more' site
      lines state state'
    have hcons := Mutation.apply_cons ⟨config, path, directive, more⟩ (Decider.fixed answer) site
      sites lines state
    have hcons' := Mutation.apply_cons ⟨config, path, directive, more'⟩ (Decider.fixed answer) site
      sites lines state'
    dsimp only at hcons hcons' ⊢
    rw [hending, hlines] at hcons'
    rcases hcons with ⟨hgone, hl, he⟩ | ⟨hgoing, hl, he⟩
    · rcases hcons' with ⟨-, hl', he'⟩ | ⟨hgoing', -⟩
      · exact ⟨he'.trans he.symm, hl'.trans hl.symm⟩
      · exact absurd hgone hgoing'
    · rcases hcons' with ⟨hgone', -⟩ | ⟨-, hl', he'⟩
      · exact absurd hgone' hgoing
      · obtain ⟨hrest, hafter⟩ := ih _ _ _
        rw [hl', he', hrest, hafter]
        exact ⟨he.symm, hl.symm⟩

/-- The outcome for a file with a given text. -/
def EditPlan.outcomeFor (plan : EditPlan) (text : String) : FileOutcome :=
  let mutation := plan.mutation config (Decider.fixed answer) 0 (ofText text).lines ()
  plan.outcome config (ofText text).lines mutation (mutation.changed && !config.dry)

theorem EditPlan.outcome_fixed (remaining : Nat) (plan : EditPlan) (text : String) (state : σ) :
    let mutation := plan.mutation config (Decider.fixed answer) remaining (ofText text).lines state
    plan.outcome config (ofText text).lines mutation (mutation.changed && !config.dry) =
      plan.outcomeFor config answer text := by
  intro mutation
  obtain ⟨hendings, hlines⟩ := apply_fixed_congr config plan.path config.directive answer
    (0 : Nat) remaining plan.sites (ofText text).lines () state
  have hedits : mutation.edits =
      (plan.mutation config (Decider.fixed answer) 0 (ofText text).lines ()).edits := by
    rw [Mutation.edits_eq, Mutation.edits_eq]
    exact congrArg _ hendings
  have hskips : mutation.skips =
      (plan.mutation config (Decider.fixed answer) 0 (ofText text).lines ()).skips := by
    rw [Mutation.skips_eq, Mutation.skips_eq]
    exact congrArg _ hendings
  have hafter : mutation.lines =
      (plan.mutation config (Decider.fixed answer) 0 (ofText text).lines ()).lines := hlines
  unfold outcomeFor outcome Mutation.changed
  rw [hedits, hskips, hafter]

end Fixed

/-! ## Plans that can be carried out -/

theorem Run.andThen_eq_ok_iff {α β : Type} {first : Run σ α} {next : Disk → σ → α → Run σ β}
    {value : β} :
    (first.andThen next).result = .ok value ↔
      ∃ middle, first.result = .ok middle ∧ (next first.disk first.state middle).result =
        .ok value := by
  rcases h : first.result with error | middle
  · simp [Run.andThen_of_error h]
  · simp [Run.andThen_of_ok h]

section Ready

variable {config : Config} {answer : CommentStyle}

/-- The plan can be carried out on the disk, with an outcome: its file can be read, and if something
is inserted then it can be opened for writing, and the new text can be encoded. -/
structure EditPlan.Ready (config : Config) (answer : CommentStyle) (disk : Disk) (plan : EditPlan)
    (outcome : FileOutcome) : Prop where
  read : ∃ text, disk.readText (config.resolve plan.path) = .ok text ∧
    outcome = plan.outcomeFor config answer text ∧
    (outcome.written = true →
      Text.Whole disk.halves (LineBuffer.toText ⟨outcome.after, (ofText text).newline⟩))
  write : outcome.written = true →
    ∃ location, disk.openPath .write (config.resolve plan.path) = .ok location

theorem runPlan_eq_ok_iff {remaining : Nat} {plan : EditPlan} {disk : Disk} {state : σ}
    {outcome : FileOutcome} :
    (runPlan config (Decider.fixed answer) remaining plan disk state).result = .ok outcome ↔
      plan.Ready config answer disk outcome := by
  have hrun := runPlan_planRun config (Decider.fixed answer) remaining plan disk state
  have hgoing : ∀ lines, (plan.mutation config (Decider.fixed answer) remaining lines
      state).abandoned = false := fun lines =>
    Mutation.abandoned_eq_false_iff.mpr
      (Mutation.apply_going (Decider.fixed_answers answer) _ plan.sites lines state)
  constructor
  · intro hok
    obtain ⟨text, mutation, hread, rfl, -, rfl, hwritten⟩ := hrun.of_ok hok
    rcases hwritten with ⟨hkept, -⟩ | ⟨-, disk', hput, -⟩
    · refine ⟨⟨text, hread, plan.outcome_fixed config answer remaining text state, ?_⟩, ?_⟩
      all_goals exact fun hwrite => absurd (hkept.symm.trans hwrite) Bool.false_ne_true
    · obtain ⟨location, hopen, -, hwhole, -⟩ := Disk.writeText_eq_ok_iff.mp hput
      exact ⟨⟨text, hread, plan.outcome_fixed config answer remaining text state, fun _ => hwhole⟩,
        fun _ => ⟨location, hopen⟩⟩
  · rintro ⟨⟨text, hread, rfl, hwhole⟩, hwrite⟩
    generalize runPlan config (Decider.fixed answer) remaining plan disk state = run at hrun ⊢
    rw [← plan.outcome_fixed config answer remaining text state] at hwhole hwrite ⊢
    cases hrun with
    | unread hread' => cases hread'.symm.trans hread
    | abandoned hread' hmutation hgone =>
      rw [hmutation, hgoing] at hgone
      cases hgone
    | kept hread' hmutation _ hkept =>
      obtain rfl := Except.ok.inj (hread'.symm.trans hread)
      rw [← hmutation, hkept]
    | written hread' hmutation _ hchanged =>
      obtain rfl := Except.ok.inj (hread'.symm.trans hread)
      rw [← hmutation, hchanged]
    | unwritten hread' hmutation _ hchanged hfault =>
      obtain rfl := Except.ok.inj (hread'.symm.trans hread)
      rw [← hmutation] at hwhole hwrite
      obtain ⟨location, hopen⟩ := hwrite hchanged
      obtain ⟨place, hopen', hnode⟩ := Disk.readText_eq_ok_iff.mp hread
      obtain rfl := Disk.openPath_unique rfl hopen hopen'
      have hput := Disk.writeText_eq_ok_iff.mpr
        ⟨place, hopen, by simp [hnode], hwhole hchanged, rfl⟩
      cases hfault.symm.trans hput

theorem EditPlan.Ready.transport {plan : EditPlan} {start disk : Disk} (htree : start.SameTree disk)
    (hkept : ∀ location, start.locate (config.resolve plan.path) = .ok location →
      disk.node? location = start.node? location) {outcome : FileOutcome} :
    plan.Ready config answer disk outcome ↔ plan.Ready config answer start outcome := by
  have hkept' : ∀ location, disk.locate (config.resolve plan.path) = .ok location →
      start.node? location = disk.node? location :=
    fun location hlocate => (hkept location (htree.locate_iff.mp hlocate)).symm
  constructor
  · rintro ⟨⟨text, hread, houtcome, hwhole⟩, hwrite⟩
    rw [htree.halves] at hwhole
    refine ⟨⟨text, htree.readText hkept hread, houtcome, hwhole⟩, fun hwritten => ?_⟩
    obtain ⟨location, hopen⟩ := hwrite hwritten
    exact ⟨location, htree.openPath_iff.mp hopen⟩
  · rintro ⟨⟨text, hread, houtcome, hwhole⟩, hwrite⟩
    rw [← htree.halves] at hwhole
    refine ⟨⟨text, htree.symm.readText hkept' hread, houtcome, hwhole⟩, fun hwritten => ?_⟩
    obtain ⟨location, hopen⟩ := hwrite hwritten
    exact ⟨location, htree.openPath_iff.mpr hopen⟩

/-- **Plans apart.** If no two plans lead to the same place, a run comes to its end exactly if each
of them can be carried out on the disk as it is at the start. -/
theorem runPlans_eq_ok_iff (hdry : config.dry = false) {plans : List EditPlan} {start : Disk}
    (hdesc : ∀ plan ∈ plans, Descending Site.line plan.sites)
    (hapart : plans.Pairwise (PlacesApart config start)) {disk : Disk} (htree : start.SameTree disk)
    (hkept : ∀ plan ∈ plans, ∀ location,
      start.locate (config.resolve plan.path) = .ok location →
        disk.node? location = start.node? location)
    {state : σ} {outcomes : List FileOutcome} :
    (runPlans config (Decider.fixed answer) plans disk state).result = .ok outcomes ↔
      plans.Forall₂ (EditPlan.Ready config answer start) outcomes := by
  induction plans generalizing disk state outcomes with
  | nil => simp [runPlans, Run.done, eq_comm]
  | cons plan plans ih =>
    obtain ⟨hfirst, hothers⟩ := List.pairwise_cons.mp hapart
    obtain ⟨hkeptFirst, hkeptRest⟩ := List.forall_mem_cons.mp hkept
    -- the first plan writes nothing that the others read, so they can do from where it leaves off
    -- what they can do from the start
    have hrest : ∀ {outcome}, (runPlan config (Decider.fixed answer) plans.length plan disk
        state).result = .ok outcome → ∀ {others},
        (runPlans config (Decider.fixed answer) plans
          (runPlan config (Decider.fixed answer) plans.length plan disk state).disk
          (runPlan config (Decider.fixed answer) plans.length plan disk state).state).result =
            .ok others ↔ plans.Forall₂ (EditPlan.Ready config answer start) others := by
      intro outcome hown others
      have heffect := runPlan_effect hdry (hdesc plan List.mem_cons_self) (Run.ends_of_result hown)
      refine ih (fun p hp => hdesc p (List.mem_cons_of_mem _ hp)) hothers
        (htree.trans heffect.tree) fun other hother location hlocate => ?_
      rw [heffect.node?_apart htree (hfirst other hother) hlocate]
      exact hkeptRest other hother location hlocate
    rw [runPlans, Run.andThen_eq_ok_iff, List.forall₂_cons_left_iff]
    simp only [Run.andThen_eq_ok_iff, runPlan_eq_ok_iff,
      ← EditPlan.Ready.transport htree hkeptFirst]
    constructor
    · rintro ⟨outcome, hready, others, hothers, hdone⟩
      refine ⟨outcome, others, hready, (hrest (runPlan_eq_ok_iff.mpr hready)).mp hothers, ?_⟩
      exact (Except.ok.inj hdone).symm
    · rintro ⟨outcome, others, hready, hforall, rfl⟩
      exact ⟨outcome, hready, others, (hrest (runPlan_eq_ok_iff.mpr hready)).mpr hforall, rfl⟩

end Ready

/-! ## Permuted reports -/

theorem runDiagnostics_ends_iff {config : Config} (hsample : config.sample = none)
    {decide : Decider σ} {generator : Random.Twister} {ds : List Diagnostic} {disk disk' : Disk}
    {state : σ} {result : RunResult} :
    (runDiagnostics config decide generator ds disk state).Ends disk' result ↔
      ∃ outcomes, (runPlans config decide (EditPlan.ofDiagnostics ds) disk state).Ends disk'
        outcomes ∧ result = ⟨ds, outcomes⟩ := by
  have hselect : select config generator ds disk state = .done disk state ds := by
    rw [select, hsample]
  rw [runDiagnostics, hselect, Run.done_andThen]
  constructor
  · intro h
    obtain ⟨_, outcomes, hplans, hdone⟩ := Run.andThen_ends h
    obtain ⟨rfl, rfl⟩ := Run.done_ends hdone
    exact ⟨outcomes, hplans, rfl⟩
  · rintro ⟨outcomes, ⟨hdisk, hplans⟩, rfl⟩
    rw [Run.andThen_of_ok hplans]
    exact ⟨hdisk, rfl⟩

theorem RunEffect.node?_eq {config : Config} {ds ds' : List Diagnostic} {disk after after' : Disk}
    {outcomes outcomes' : List FileOutcome}
    (heffect : RunEffect config (EditPlan.ofDiagnostics ds) disk outcomes after)
    (heffect' : RunEffect config (EditPlan.ofDiagnostics ds') disk outcomes' after')
    (hapart : Apart config disk ds) (hapart' : Apart config disk ds')
    (hsame : ∀ outcome, outcome ∈ outcomes' ↔ outcome ∈ outcomes) (location : Location) :
    after'.node? location = after.node? location := by
  by_cases hlead : ∃ outcome ∈ outcomes, disk.locate outcome.path = .ok location
  · obtain ⟨outcome, houtcome, hlocate⟩ := hlead
    obtain ⟨-, -, place, text, hopen, hnode, -, hafter⟩ := heffect.solo hapart houtcome
    obtain ⟨-, -, place', text', hopen', hnode', -, hafter'⟩ :=
      heffect'.solo hapart' ((hsame outcome).mpr houtcome)
    obtain rfl := Except.ok.inj (hlocate.symm.trans (Disk.locate_of_openPath hopen))
    obtain rfl := Disk.openPath_unique rfl hopen hopen'
    rw [hnode, Option.some.injEq, Node.file.injEq] at hnode'
    obtain rfl := String.toByteArray_inj.mp hnode'
    exact hafter'.trans hafter.symm
  · push Not at hlead
    rw [heffect.untouched location (passes_eq_nil hlead), heffect'.untouched location
      (passes_eq_nil fun outcome houtcome => hlead outcome ((hsame outcome).mp houtcome))]

/-- **The order of a report.** Let the diagnostics be taken in another order that keeps the order of
the messages at each line of each file. If no two of their paths lead to the same place and a run
with a fixed answer that is not dry and draws no sample comes to its end, then so does the run over
the other order, with the same disk behind it and the same outcome for each path. The outcomes may
stand in another order. -/
theorem report_order_irrelevant {config : Config} (hdry : config.dry = false)
    (hsample : config.sample = none) (answer : CommentStyle) (generator generator' : Random.Twister)
    {ds ds' : List Diagnostic} (hperm : ds'.Perm ds)
    (hsame : ∀ path line,
      (ds'.filter fun d => d.path = path ∧ d.line = line).map Diagnostic.message =
        (ds.filter fun d => d.path = path ∧ d.line = line).map Diagnostic.message)
    {disk : Disk} (hapart : Apart config disk ds) (state : σ) (state' : τ) {result : RunResult}
    (hrun : (runDiagnostics config (Decider.fixed answer) generator ds disk state).result =
      .ok result) :
    let run := runDiagnostics config (Decider.fixed answer) generator ds disk state
    let run' := runDiagnostics config (Decider.fixed answer) generator' ds' disk state'
    ∃ result', run'.result = .ok result' ∧
      (∀ location, run'.disk.node? location = run.disk.node? location) ∧
      run.disk.SameTree run'.disk ∧
      result'.outcomes.Perm result.outcomes ∧
      (result.outcomes.map FileOutcome.name).Nodup := by
  intro run run'
  obtain ⟨outcomes, hends, rfl⟩ :=
    (runDiagnostics_ends_iff hsample).mp (Run.ends_of_result hrun)
  have hapart' : Apart config disk ds' := hapart.mono fun d hd => hperm.subset hd
  have hdesc := (EditPlan.ofDiagnostics_grouped ds).descending
  have hdesc' := (EditPlan.ofDiagnostics_grouped ds').descending
  have hready := (runPlans_eq_ok_iff hdry hdesc hapart.plans (Disk.SameTree.refl disk)
    fun _ _ _ _ => rfl).mp hends.result
  -- each plan of the other order is ready for the same outcome
  obtain ⟨outcomes', hready', houtcomes⟩ :=
    List.perm_comp_forall₂ (EditPlan.ofDiagnostics_perm hsame) hready
  have hplans' : (runPlans config (Decider.fixed answer) (EditPlan.ofDiagnostics ds') disk
      state').result = .ok outcomes' :=
    (runPlans_eq_ok_iff hdry hdesc' hapart'.plans (Disk.SameTree.refl disk)
      fun _ _ _ _ => rfl).mpr hready'
  have hends' : run'.Ends _ ⟨ds', outcomes'⟩ :=
    (runDiagnostics_ends_iff hsample).mpr ⟨outcomes', Run.ends_of_result hplans', rfl⟩
  have heffect := runPlans_effect hdry hdesc hends
  have heffect' := runPlans_effect hdry hdesc' (Run.ends_of_result hplans')
  have hdisk' : run'.disk = _ := hends'.disk
  refine ⟨⟨ds', outcomes'⟩, hends'.result, fun location => ?_, ?_, houtcomes,
    heffect.nodup_names⟩
  · rw [hdisk']
    exact heffect.node?_eq heffect' hapart hapart' (fun _ => houtcomes.mem_iff) location
  · rw [hdisk']
    exact heffect.tree.symm.trans heffect'.tree

/-- Two files, one of them with two messages at a line. The other order begins with the other file
and puts a message for it in between. -/
theorem report_order_irrelevant_interleaved :
    let disk : Disk :=
      { nodes := [(["a.ts"], .file "x\ny\n".toUTF8), (["b.ts"], .file "z".toUTF8)] }
    let ds : List Diagnostic := [⟨"b.ts", 1, 1, "TS1", "p"⟩, ⟨"a.ts", 2, 1, "TS2", "m"⟩,
      ⟨"a.ts", 2, 5, "TS3", "n"⟩, ⟨"a.ts", 1, 1, "TS1", "k"⟩]
    let ds' : List Diagnostic := [⟨"a.ts", 1, 1, "TS1", "k"⟩, ⟨"a.ts", 2, 1, "TS2", "m"⟩,
      ⟨"b.ts", 1, 1, "TS1", "p"⟩, ⟨"a.ts", 2, 5, "TS3", "n"⟩]
    let run := runDiagnostics ({} : Draft).freeze (Decider.fixed .plain) (.ofSeed 0) ds disk ()
    let run' := runDiagnostics ({} : Draft).freeze (Decider.fixed .plain) (.ofSeed 0) ds' disk ()
    ∃ result result', run.result = .ok result ∧ run'.result = .ok result' ∧
      result.outcomes.map FileOutcome.name = ["b.ts", "a.ts"] ∧
      result'.outcomes.map FileOutcome.name = ["a.ts", "b.ts"] ∧
      result'.outcomes.Perm result.outcomes ∧
      run'.disk.node? ["a.ts"] = run.disk.node? ["a.ts"] ∧
      run.disk.node? ["a.ts"] = some (.file
        ("// k\n// @ts-expect-error TODO: fix error and remove\nx\n" ++
          "// m\n// n\n// @ts-expect-error TODO: fix error and remove\ny\n").toUTF8) := by
  intro disk ds ds' run run'
  have hperm : ds'.Perm ds := by decide
  have hsame : ∀ path line,
      (ds'.filter fun d => d.path = path ∧ d.line = line).map Diagnostic.message =
        (ds.filter fun d => d.path = path ∧ d.line = line).map Diagnostic.message := by
    intro path line
    by_cases ha : "a.ts" = path
    · by_cases h2 : 2 = line
      · subst ha h2
        rfl
      · subst ha
        simp [ds, ds', List.filter_cons, h2]
    · simp [ds, ds', List.filter_cons, ha]
  have hapart : Apart ({} : Draft).freeze disk ds := by decide +kernel
  obtain ⟨result, hrun⟩ : ∃ result, run.result = .ok result := exists_eq_ok (by decide +kernel)
  obtain ⟨result', hrun', hnodes, -, houtcomes, -⟩ :=
    report_order_irrelevant rfl rfl .plain (.ofSeed 0) (.ofSeed 0) hperm hsame hapart () () hrun
  have hnames : run.result.toOption.map (fun r => r.outcomes.map FileOutcome.name) =
      some ["b.ts", "a.ts"] := by decide +kernel
  have hnames' : run'.result.toOption.map (fun r => r.outcomes.map FileOutcome.name) =
      some ["a.ts", "b.ts"] := by decide +kernel
  rw [hrun] at hnames
  rw [show run'.result = .ok result' from hrun'] at hnames'
  exact ⟨result, result', hrun, hrun', Option.some.inj hnames, Option.some.inj hnames', houtcomes,
    hnodes ["a.ts"], by decide +kernel⟩

end ExpectError
