import ExpectError.Run
import ExpectError.Proofs.DiskFrame
import ExpectError.Proofs.FileLines
import ExpectError.Proofs.Grouping
import ExpectError.Proofs.Placement

/-!
# What a run does to the disk

A run that comes to its end has read and written one file after the other. Each plan changes at most
the file that its path leads to, and that file becomes the text that was read with the blocks of the
outcome in it (`PlanEffect`). Since no path comes to lead elsewhere, the places stay apart over the
whole run: the file at a place is rewritten by the outcomes whose paths lead there, in their order,
and by no others (`RunEffect`).
-/

namespace ExpectError

open LineBuffer (ofText withBlocks)

variable {σ α β : Type}

/-! ## Parts of a run -/

/-- The run comes to its end, with a disk and a result. -/
structure Run.Ends (run : Run σ α) (disk : Disk) (value : α) : Prop where
  disk : run.disk = disk
  result : run.result = .ok value

theorem Run.ends_of_result {run : Run σ α} {value : α} (h : run.result = .ok value) :
    run.Ends run.disk value :=
  ⟨rfl, h⟩

theorem Run.done_ends {disk disk' : Disk} {state : σ} {value value' : α}
    (h : (Run.done disk state value).Ends disk' value') : disk' = disk ∧ value' = value :=
  ⟨h.disk.symm, (Except.ok.inj h.result).symm⟩

theorem Run.andThen_ends {first : Run σ α} {next : Disk → σ → α → Run σ β} {disk : Disk}
    {result : β} (h : (first.andThen next).Ends disk result) :
    ∃ middle value, first.Ends middle value ∧
      (next middle first.state value).Ends disk result := by
  obtain ⟨hdisk, hresult⟩ := h
  unfold Run.andThen at hdisk hresult
  rcases hfirst : first.result with error | value
  · rw [hfirst] at hresult
    cases hresult
  · rw [hfirst] at hdisk hresult
    exact ⟨first.disk, value, Run.ends_of_result hfirst, hdisk, hresult⟩

theorem readBuffer_ends {path : Path} {disk disk' : Disk} {state : σ} {buffer : LineBuffer}
    (h : (readBuffer path disk state).Ends disk' buffer) :
    disk' = disk ∧ (readBuffer path disk state).state = state ∧
      ∃ text, disk.readText path = .ok text ∧ buffer = ofText text := by
  obtain ⟨hdisk, hresult⟩ := h
  unfold readBuffer at hdisk hresult ⊢
  rcases hread : disk.readText path with fault | text
  · rw [hread] at hresult
    cases hresult
  · rw [hread] at hdisk hresult
    exact ⟨hdisk.symm, rfl, text, rfl, (Except.ok.inj hresult).symm⟩

theorem mutateLines_ends {config : Config} {decide : Decider σ} {plan : EditPlan}
    {filesRemaining : Nat} {lines : List String} {disk disk' : Disk} {state : σ}
    {mutation : Mutation σ}
    (h : (mutateLines config decide plan filesRemaining lines disk state).Ends disk' mutation) :
    disk' = disk ∧
      mutation = Mutation.apply ⟨config, plan.path, config.directive, filesRemaining⟩ decide
        plan.sites lines state ∧ mutation.abandoned = false := by
  obtain ⟨hdisk, hresult⟩ := h
  unfold mutateLines at hdisk hresult
  dsimp only at hdisk hresult
  split_ifs at hresult with habandoned
  rw [Except.ok.injEq] at hresult
  rw [hresult] at habandoned
  exact ⟨hdisk.symm, hresult.symm, by simpa using habandoned⟩

theorem writeBuffer_ends {path : Path} {buffer : LineBuffer} {disk disk' : Disk} {state : σ}
    {bytes : Nat} (h : (writeBuffer path buffer disk state).Ends disk' bytes) :
    disk.writeText path buffer.toText = .ok disk' := by
  obtain ⟨hdisk, hresult⟩ := h
  unfold writeBuffer at hdisk hresult
  rcases hwrite : disk.writeText path buffer.toText with fault | written
  · rw [hwrite] at hresult
    cases hresult
  · rw [hwrite] at hdisk
    rw [← hdisk]

theorem persist_ends {config : Config} (hdry : config.dry = false) {path : Path} {changed : Bool}
    {buffer : LineBuffer} {disk disk' : Disk} {state : σ} {written : Bool}
    (h : (persist config path changed buffer disk state).Ends disk' written) :
    (changed = true ∧ disk.writeText path buffer.toText = .ok disk') ∨
      (changed = false ∧ disk' = disk) := by
  unfold persist at h
  cases changed with
  | false => exact Or.inr ⟨rfl, (Run.done_ends h).1⟩
  | true =>
    simp only [hdry, Bool.not_false, Bool.and_self, if_true] at h
    obtain ⟨middle, _, hwrite, hdone⟩ := Run.andThen_ends h
    rw [(Run.done_ends hdone).1]
    exact Or.inl ⟨rfl, writeBuffer_ends hwrite⟩

/-! ## One file -/

/-- What the outcome of a plan says about the text that was read. -/
structure Settles (config : Config) (plan : EditPlan) (text : String) (outcome : FileOutcome) :
    Prop where
  name : outcome.name = plan.path
  path : outcome.path = config.resolve plan.path
  before : outcome.before = (ofText text).lines
  after : outcome.after = interleave (frontAt Edit.block outcome.edits) 1 outcome.before
  descending : Descending Edit.line outcome.edits
  /-- Each site is an edit or passed over. -/
  sites : (outcome.edits.map Edit.line ++ outcome.skips.map Skip.line).Perm
    (plan.sites.map Site.line)
  /-- An edit is at a line that is there and not silenced, and has the messages of its site. -/
  edited : ∀ edit ∈ outcome.edits, itemAt outcome.before edit.line = some edit.target ∧
    ¬ Suppressed config.directive outcome.before edit.line ∧
    ∃ site ∈ plan.sites, site.line = edit.line ∧
      IsBlock config site.messages edit.target edit.block
  suppressed : ∀ n : Int, ⟨n, .alreadySuppressed⟩ ∈ outcome.skips →
    (1 ≤ n ∧ n ≤ outcome.before.length) ∧ Suppressed config.directive outcome.before n
  /-- Of the sites that are there, the others were declined. -/
  declined : ∀ site ∈ plan.sites, 1 ≤ site.line → site.line ≤ outcome.before.length →
    Suppressed config.directive outcome.before site.line ∨
      ⟨site.line, .declined⟩ ∈ outcome.skips ∨ ∃ edit ∈ outcome.edits, edit.line = site.line

theorem settles_apply (config : Config) (decide : Decider σ) (remaining : Int) {plan : EditPlan}
    (hdesc : Descending Site.line plan.sites) (text : String) (state : σ) (written : Bool) :
    let mutation := Mutation.apply ⟨config, plan.path, config.directive, remaining⟩ decide
      plan.sites (ofText text).lines state
    mutation.abandoned = false →
      Settles config plan text
        { name := plan.path
          path := config.resolve plan.path
          edits := mutation.edits
          skips := mutation.skips
          before := (ofText text).lines
          after := mutation.lines
          written } := by
  intro mutation hgoing
  rw [Mutation.abandoned_eq_false_iff] at hgoing
  refine ⟨rfl, rfl, rfl, Mutation.apply_lines _ decide hdesc _ state,
    Mutation.edits_descending _ decide hdesc _ state,
    Mutation.edits_skips_perm _ decide plan.sites _ state hgoing, ?_, ?_, ?_⟩
  · intro edit hedit
    obtain ⟨site, hsite, hends⟩ := Mutation.edits_endsAs _ decide hdesc _ state hedit
    obtain ⟨htarget, habove, hline, hblock⟩ := hends.of_edited
    exact ⟨htarget, habove, site, hsite, hline, hblock⟩
  · intro n hskip
    obtain ⟨site, -, hends⟩ := Mutation.skips_endsAs _ decide hdesc _ state hskip
    exact hends.of_suppressed
  · intro site hsite hlow hhigh
    obtain ⟨-, -, hopen⟩ := Mutation.site_verdict _ decide hdesc _ state hsite hgoing
    by_cases habove : Suppressed config.directive (ofText text).lines site.line
    · exact Or.inl habove
    · exact Or.inr (hopen.mpr ⟨⟨hlow, hhigh⟩, habove⟩)

namespace Settles

variable {config : Config} {plan : EditPlan} {text : String} {outcome : FileOutcome}

theorem edit_bounds (h : Settles config plan text outcome) {edit : Edit}
    (hedit : edit ∈ outcome.edits) : 1 ≤ edit.line ∧ edit.line ≤ outcome.before.length :=
  itemAt_bounds (h.edited edit hedit).1

theorem placed (h : Settles config plan text outcome) (filesRemaining : Int) :
    Placed ⟨config, plan.path, config.directive, filesRemaining⟩ plan.sites outcome.before
      outcome.edits outcome.after := by
  refine ⟨h.after, h.descending, fun edit hedit => ?_⟩
  obtain ⟨htarget, habove, site, hsite, hline, hblock⟩ := h.edited edit hedit
  obtain ⟨line, block, target⟩ := edit
  obtain rfl : site.line = line := hline
  exact ⟨site, hsite, .edited htarget habove hblock⟩

theorem itemAt_after (h : Settles config plan text outcome) {n : Int} (hlow : 1 ≤ n)
    (hhigh : n ≤ outcome.before.length) :
    itemAt outcome.after (landing (fun e => e.block.length) outcome.edits n) =
      itemAt outcome.before n :=
  (h.placed 0).itemAt_after hlow hhigh

theorem suppressed_after (h : Settles config plan text outcome) {n : Int} (hlow : 1 ≤ n)
    (hhigh : n ≤ outcome.before.length)
    (hn : Suppressed config.directive outcome.before n ∨ ∃ edit ∈ outcome.edits, edit.line = n) :
    Suppressed config.directive outcome.after
      (landing (fun e => e.block.length) outcome.edits n) :=
  (h.placed 0).suppressed_after rfl hlow hhigh hn

theorem ofText_withBlocks (h : Settles config plan text outcome)
    (hdirective : '\n' ∉ config.directive.toList) (htodo : '\n' ∉ config.todo.toList)
    (hmessages : ∀ site ∈ plan.sites, ∀ message ∈ site.messages, OneLine message) :
    (ofText (withBlocks text outcome.edits)).lines = outcome.after := by
  have hplaced := h.placed 0
  rw [h.before] at hplaced
  rw [hplaced.ofText_withBlocks hdirective htodo hmessages]

end Settles

theorem runPlan_ends {config : Config} (hdry : config.dry = false) {decide : Decider σ}
    {filesRemaining : Nat} {plan : EditPlan} (hdesc : Descending Site.line plan.sites)
    {disk disk' : Disk} {state : σ} {outcome : FileOutcome}
    (h : (runPlan config decide filesRemaining plan disk state).Ends disk' outcome) :
    ∃ text, disk.readText outcome.path = .ok text ∧ Settles config plan text outcome ∧
      (disk.writeText outcome.path (withBlocks text outcome.edits) = .ok disk' ∨
        outcome.edits = [] ∧ disk' = disk) := by
  obtain ⟨hdisk, hresult⟩ := h
  obtain ⟨_, buffer, hread, h⟩ := Run.andThen_ends ⟨hdisk, hresult⟩
  obtain ⟨rfl, hstate, text, htext, rfl⟩ := readBuffer_ends hread
  rw [hstate] at h
  obtain ⟨_, mutation, hmutate, h⟩ := Run.andThen_ends h
  obtain ⟨rfl, rfl, hgoing⟩ := mutateLines_ends hmutate
  obtain ⟨_, written, hpersist, h⟩ := Run.andThen_ends h
  obtain rfl := (Except.ok.inj h.result).symm
  obtain rfl := h.disk
  have hsettles := settles_apply config decide filesRemaining hdesc text state written hgoing
  refine ⟨text, htext, hsettles, ?_⟩
  rcases persist_ends hdry hpersist with ⟨-, hwrite⟩ | ⟨hchanged, hkept⟩
  · rw [Mutation.apply_lines _ decide hdesc, LineBuffer.toText_interleave] at hwrite
    exact Or.inl hwrite
  · exact Or.inr ⟨by simpa [Mutation.changed] using hchanged, hkept⟩

/-- What a plan does to the disk: the file that its path leads to gets the blocks of the outcome,
and every other place stays as it is. -/
structure PlanEffect (config : Config) (plan : EditPlan) (disk : Disk) (outcome : FileOutcome)
    (disk' : Disk) : Prop where
  tree : disk.SameTree disk'
  file : ∃ location text, disk.openPath .read outcome.path = .ok location ∧
    disk.node? location = some (.file text.toUTF8) ∧ Settles config plan text outcome ∧
    ∀ other, disk'.node? other =
      if other = location then some (.file (withBlocks text outcome.edits).toUTF8)
      else disk.node? other

theorem runPlan_effect {config : Config} (hdry : config.dry = false) {decide : Decider σ}
    {filesRemaining : Nat} {plan : EditPlan} (hdesc : Descending Site.line plan.sites)
    {disk disk' : Disk} {state : σ} {outcome : FileOutcome}
    (h : (runPlan config decide filesRemaining plan disk state).Ends disk' outcome) :
    PlanEffect config plan disk outcome disk' := by
  obtain ⟨text, hread, hsettles, hdisk⟩ := runPlan_ends hdry hdesc h
  obtain ⟨location, hopen, hnode⟩ := Disk.readText_eq_ok_iff.mp hread
  have hfile : disk.node? location ≠ some .directory := by simp [hnode]
  rcases hdisk with hwrite | ⟨hnone, rfl⟩
  · obtain ⟨place, hopen', -, -, rfl⟩ := Disk.writeText_eq_ok_iff.mp hwrite
    obtain rfl : location = place := Except.ok.inj
      ((Disk.locate_of_openPath hopen).symm.trans (Disk.locate_of_openPath hopen'))
    exact ⟨Disk.sameTree_put _ hfile, location, text, hopen, hnode, hsettles,
      Disk.node?_put (Disk.ne_root_of_node?_ne hfile) disk _⟩
  · refine ⟨Disk.SameTree.refl _, location, text, hopen, hnode, hsettles, fun other => ?_⟩
    rw [hnone, LineBuffer.withBlocks_nil]
    split_ifs with heq
    · rw [heq, hnode]
    · rfl

/-! ## All files -/

def Disk.leadsTo (disk : Disk) (location : Location) (path : Path) : Bool :=
  match disk.locate path with
  | .ok place => place = location
  | .error _ => false

theorem Disk.leadsTo_iff {disk : Disk} {location : Location} {path : Path} :
    disk.leadsTo location path = true ↔ disk.locate path = .ok location := by
  unfold Disk.leadsTo
  rcases disk.locate path with error | place <;> simp

theorem Disk.SameTree.leadsTo_eq {disk disk' : Disk} (h : disk.SameTree disk')
    (location : Location) (path : Path) :
    disk'.leadsTo location path = disk.leadsTo location path := by
  rw [Bool.eq_iff_iff, Disk.leadsTo_iff, Disk.leadsTo_iff, h.locate_iff]

/-- The edits that outcomes make to the file at a place, one list for each of them, in order. -/
def passes (disk : Disk) (location : Location) (outcomes : List FileOutcome) : List (List Edit) :=
  (outcomes.filter fun o => disk.leadsTo location o.path).map FileOutcome.edits

theorem passes_cons (disk : Disk) (location : Location) (outcome : FileOutcome)
    (outcomes : List FileOutcome) :
    passes disk location (outcome :: outcomes) =
      (if disk.locate outcome.path = .ok location then [outcome.edits] else []) ++
        passes disk location outcomes := by
  unfold passes
  rw [List.filter_cons]
  by_cases h : disk.locate outcome.path = .ok location
  · rw [if_pos (Disk.leadsTo_iff.mpr h), if_pos h]
    rfl
  · rw [if_neg (mt Disk.leadsTo_iff.mp h), if_neg h]
    rfl

theorem Disk.SameTree.passes_eq {disk disk' : Disk} (h : disk.SameTree disk')
    (location : Location) (outcomes : List FileOutcome) :
    passes disk' location outcomes = passes disk location outcomes := by
  unfold passes
  simp only [h.leadsTo_eq]

/-- What plans do to the disk, one after the other. -/
structure RunEffect (config : Config) (plans : List EditPlan) (disk : Disk)
    (outcomes : List FileOutcome) (disk' : Disk) : Prop where
  names : outcomes.map FileOutcome.name = plans.map EditPlan.path
  tree : disk.SameTree disk'
  /-- A place that no outcome leads to stays as it is. -/
  untouched : ∀ location, passes disk location outcomes = [] →
    disk'.node? location = disk.node? location
  /-- A file gets the blocks of the outcomes that lead to it. -/
  rewritten : ∀ location text, disk.node? location = some (.file text.toUTF8) →
    disk'.node? location =
      some (.file ((passes disk location outcomes).foldl withBlocks text).toUTF8)
  /-- Each outcome tells of the file as the outcomes before it have left it. -/
  settles : ∀ done outcome rest, outcomes = done ++ outcome :: rest →
    ∃ plan ∈ plans, ∃ location text, disk.openPath .read outcome.path = .ok location ∧
      disk.node? location = some (.file text.toUTF8) ∧
      Settles config plan ((passes disk location done).foldl withBlocks text) outcome

theorem RunEffect.nil (config : Config) (disk : Disk) : RunEffect config [] disk [] disk where
  names := rfl
  tree := Disk.SameTree.refl disk
  untouched _ _ := rfl
  rewritten _ _ h := h
  settles done outcome rest h := by simp at h

theorem RunEffect.cons {config : Config} {plan : EditPlan} {plans : List EditPlan}
    {disk middle disk' : Disk} {outcome : FileOutcome} {outcomes : List FileOutcome}
    (hfirst : PlanEffect config plan disk outcome middle)
    (hrest : RunEffect config plans middle outcomes disk') :
    RunEffect config (plan :: plans) disk (outcome :: outcomes) disk' := by
  obtain ⟨place, first, hopen, hplace, hsettles, hmiddle⟩ := hfirst.file
  have hlead : ∀ location, disk.locate outcome.path = .ok location ↔ location = place := by
    intro location
    rw [Disk.locate_of_openPath hopen, Except.ok.injEq, eq_comm]
  -- what the outcomes to come find at a place is what this outcome has left there
  have hfile : ∀ location text, disk.node? location = some (.file text.toUTF8) →
      ∃ text', middle.node? location = some (.file text'.toUTF8) ∧
        ∀ done, (passes disk location (outcome :: done)).foldl withBlocks text =
          (passes middle location done).foldl withBlocks text' := by
    intro location text hnode
    rw [hmiddle]
    simp only [passes_cons, hlead, hfirst.tree.passes_eq]
    split_ifs with heq
    · rw [heq, hplace, Option.some.injEq, Node.file.injEq] at hnode
      obtain rfl := String.toByteArray_inj.mp hnode
      exact ⟨_, rfl, fun done => rfl⟩
    · exact ⟨text, hnode, fun done => rfl⟩
  constructor
  case names =>
    rw [List.map_cons, List.map_cons, hrest.names, hsettles.name]
  case tree => exact hfirst.tree.trans hrest.tree
  case untouched =>
    intro location hnone
    rw [passes_cons, List.append_eq_nil_iff, ← hfirst.tree.passes_eq] at hnone
    rw [hrest.untouched location hnone.2, hmiddle, if_neg]
    intro heq
    rw [if_pos ((hlead location).mpr heq)] at hnone
    exact absurd hnone.1 (List.cons_ne_nil _ _)
  case rewritten =>
    intro location text hnode
    obtain ⟨text', hnode', hpasses⟩ := hfile location text hnode
    rw [hpasses]
    exact hrest.rewritten location text' hnode'
  case settles =>
    intro done other rest heq
    cases done with
    | nil =>
      obtain ⟨rfl, -⟩ := List.cons.inj heq
      exact ⟨plan, List.mem_cons_self, place, first, hopen, hplace, hsettles⟩
    | cons head done =>
      obtain ⟨rfl, htail⟩ := List.cons.inj heq
      obtain ⟨plan', hplan, location, text', hopen', hnode', hsettles'⟩ :=
        hrest.settles done other rest htail
      -- the file was there from the start, since only files are overwritten
      obtain ⟨text, hnode⟩ : ∃ text : String, disk.node? location = some (.file text.toUTF8) := by
        rw [hmiddle] at hnode'
        split_ifs at hnode' with hsame
        · exact ⟨first, hsame ▸ hplace⟩
        · exact ⟨text', hnode'⟩
      obtain ⟨text'', hnode'', hpasses⟩ := hfile location text hnode
      rw [hnode', Option.some.injEq, Node.file.injEq] at hnode''
      obtain rfl := String.toByteArray_inj.mp hnode''
      refine ⟨plan', List.mem_cons_of_mem _ hplan, location, text,
        hfirst.tree.openPath_iff.mp hopen', hnode, ?_⟩
      rw [hpasses]
      exact hsettles'

theorem runPlans_effect {config : Config} (hdry : config.dry = false) {decide : Decider σ}
    {plans : List EditPlan} (hdesc : ∀ plan ∈ plans, Descending Site.line plan.sites)
    {disk disk' : Disk} {state : σ} {outcomes : List FileOutcome}
    (h : (runPlans config decide plans disk state).Ends disk' outcomes) :
    RunEffect config plans disk outcomes disk' := by
  induction plans generalizing disk state outcomes with
  | nil =>
    obtain ⟨rfl, rfl⟩ := Run.done_ends h
    exact RunEffect.nil config _
  | cons plan plans ih =>
    rw [runPlans] at h
    obtain ⟨middle, outcome, hfirst, h⟩ := Run.andThen_ends h
    obtain ⟨_, others, hrest, h⟩ := Run.andThen_ends h
    obtain ⟨rfl, rfl⟩ := Run.done_ends h
    exact RunEffect.cons (runPlan_effect hdry (hdesc plan List.mem_cons_self) hfirst)
      (ih (fun p hp => hdesc p (List.mem_cons_of_mem _ hp)) hrest)

theorem runReport_effect {config : Config} (hdry : config.dry = false)
    (hsample : config.sample = none) {decide : Decider σ} {generator : Random.Twister}
    {report : Path} {disk disk' : Disk} {state : σ} {result : RunResult}
    (h : (runReport config decide generator report disk state).Ends disk' result) :
    ∃ text, disk.readText report = .ok text ∧
      result.diagnostics = Diagnostic.ofReport (ofText text).lines ∧
      RunEffect config (EditPlan.ofDiagnostics result.diagnostics) disk result.outcomes disk' := by
  obtain ⟨_, buffer, hread, h⟩ := Run.andThen_ends h
  obtain ⟨rfl, -, text, htext, rfl⟩ := readBuffer_ends hread
  obtain ⟨_, selected, hselect, h⟩ := Run.andThen_ends h
  rw [select, hsample] at hselect
  obtain ⟨rfl, rfl⟩ := Run.done_ends hselect
  obtain ⟨_, outcomes, hplans, h⟩ := Run.andThen_ends h
  obtain ⟨rfl, rfl⟩ := Run.done_ends h
  exact ⟨text, htext, rfl,
    runPlans_effect hdry (EditPlan.ofDiagnostics_grouped _).descending hplans⟩

end ExpectError
