import ExpectError.Proofs.RunEffect

/-!
# The ways a file can go

Dealing with one file has five ways to go: it cannot be read, the decision source gives up, nothing
is to be written, it cannot be written, or it is written. `PlanRun` says for each of them what
happened, in what order, and what is left behind; `runPlan_planRun` says that there are no others.
-/

namespace ExpectError

open LineBuffer (ofText)

variable {σ α β γ : Type}

/-! ## Parts in a row -/

theorem eventsOf_append (entries more : List Entry) :
    eventsOf (entries ++ more) = eventsOf entries ++ eventsOf more :=
  List.filterMap_append

theorem askedOf_append (entries more : List Entry) :
    askedOf (entries ++ more) = askedOf entries ++ askedOf more :=
  List.filterMap_append

namespace Run

theorem andThen_of_error {first : Run σ α} {error : RunError} (h : first.result = .error error)
    (next : Disk → σ → α → Run σ β) :
    first.andThen next = ⟨first.disk, first.state, first.entries, .error error⟩ := by
  unfold andThen
  rw [h]

theorem andThen_of_ok {first : Run σ α} {value : α} (h : first.result = .ok value)
    (next : Disk → σ → α → Run σ β) :
    first.andThen next =
      ⟨(next first.disk first.state value).disk, (next first.disk first.state value).state,
        first.entries ++ (next first.disk first.state value).entries,
        (next first.disk first.state value).result⟩ := by
  unfold andThen
  rw [h]

@[simp] theorem done_andThen (disk : Disk) (state : σ) (value : α)
    (next : Disk → σ → α → Run σ β) :
    (done disk state value).andThen next = next disk state value := rfl

@[simp] theorem andThen_done (run : Run σ α) : run.andThen done = run := by
  obtain ⟨disk, state, entries, error | value⟩ := run
  · rfl
  · simp [andThen, done]

theorem andThen_assoc (run : Run σ α) (next : Disk → σ → α → Run σ β)
    (last : Disk → σ → β → Run σ γ) :
    (run.andThen next).andThen last =
      run.andThen fun disk state value => (next disk state value).andThen last := by
  rcases h : run.result with error | value
  · rw [andThen_of_error h, andThen_of_error h, andThen_of_error rfl]
  · rw [andThen_of_ok h, andThen_of_ok h]
    obtain ⟨disk, state, entries, error | value'⟩ := next run.disk run.state value
    · rfl
    · simp [andThen]

end Run

/-! ## One file -/

section Plan

variable (config : Config) (decide : Decider σ) (remaining : Nat) (plan : EditPlan)

/-- What becomes of the sites of a plan in the lines of its file. -/
def EditPlan.mutation (lines : List String) (state : σ) : Mutation σ :=
  Mutation.apply ⟨config, plan.path, config.directive, remaining⟩ decide plan.sites lines state

/-- The outcome for a file whose sites have been dealt with. -/
def EditPlan.outcome (before : List String) (mutation : Mutation σ) (written : Bool) :
    FileOutcome where
  name := plan.path
  path := config.resolve plan.path
  edits := mutation.edits
  skips := mutation.skips
  before
  after := mutation.lines
  written

/-- The entries up to the sites: the file is next, and is read. -/
def EditPlan.opening (fault : Option IoFault) : List Entry :=
  [.processing (config.resolve plan.path) plan.sites.length,
    .read (config.resolve plan.path) fault]

def EditPlan.told (mutation : Mutation σ) : List Entry :=
  mutation.records.map (.site plan.path config.dry)

theorem eventsOf_opening :
    eventsOf (plan.opening config none) = [.io .read (config.resolve plan.path) none] := rfl

theorem askedOf_opening (fault : Option IoFault) : askedOf (plan.opening config fault) = [] := rfl

theorem askedOf_told (mutation : Mutation σ) :
    askedOf (plan.told config mutation) = mutation.asked := by
  rw [askedOf, EditPlan.told, List.filterMap_map]
  rfl

theorem askedOf_plan (mutation : Mutation σ) {closing : List Entry} (h : askedOf closing = []) :
    askedOf (plan.opening config none ++ (plan.told config mutation ++ closing)) =
      mutation.asked := by
  rw [askedOf_append, askedOf_append, askedOf_opening, askedOf_told, h, List.nil_append,
    List.append_nil]

/-- The ways in which dealing with a file can go. -/
inductive PlanRun (disk : Disk) (state : σ) : Run σ FileOutcome → Prop
  | unread {fault : IoFault} (hread : disk.readText (config.resolve plan.path) = .error fault) :
    PlanRun disk state ⟨disk, state, plan.opening config (some fault), .error (.io fault)⟩
  | abandoned {text : String} {mutation : Mutation σ}
    (hread : disk.readText (config.resolve plan.path) = .ok text)
    (hmutation : mutation = plan.mutation config decide remaining (ofText text).lines state)
    (hgone : mutation.abandoned = true) :
    PlanRun disk state
      ⟨disk, mutation.state, plan.opening config none ++ plan.told config mutation,
        .error .abandoned⟩
  | kept {text : String} {mutation : Mutation σ}
    (hread : disk.readText (config.resolve plan.path) = .ok text)
    (hmutation : mutation = plan.mutation config decide remaining (ofText text).lines state)
    (hgoing : mutation.abandoned = false) (hkept : (mutation.changed && !config.dry) = false) :
    PlanRun disk state
      ⟨disk, mutation.state,
        plan.opening config none ++ (plan.told config mutation ++
          [.finished (plan.outcome config (ofText text).lines mutation false)]),
        .ok (plan.outcome config (ofText text).lines mutation false)⟩
  | unwritten {text : String} {mutation : Mutation σ} {fault : IoFault} {left : Disk}
    (hread : disk.readText (config.resolve plan.path) = .ok text)
    (hmutation : mutation = plan.mutation config decide remaining (ofText text).lines state)
    (hgoing : mutation.abandoned = false) (hchanged : (mutation.changed && !config.dry) = true)
    (hwrite : disk.writeText (config.resolve plan.path)
      (LineBuffer.toText ⟨mutation.lines, (ofText text).newline⟩) = .error (fault, left)) :
    PlanRun disk state
      ⟨left, mutation.state,
        plan.opening config none ++ (plan.told config mutation ++
          [.wrote (config.resolve plan.path) (some fault)]),
        .error (.io fault)⟩
  | written {text : String} {mutation : Mutation σ} {disk' : Disk}
    (hread : disk.readText (config.resolve plan.path) = .ok text)
    (hmutation : mutation = plan.mutation config decide remaining (ofText text).lines state)
    (hgoing : mutation.abandoned = false) (hchanged : (mutation.changed && !config.dry) = true)
    (hwrite : disk.writeText (config.resolve plan.path)
      (LineBuffer.toText ⟨mutation.lines, (ofText text).newline⟩) = .ok disk') :
    PlanRun disk state
      ⟨disk', mutation.state,
        plan.opening config none ++ (plan.told config mutation ++
          [.wrote (config.resolve plan.path) none,
            .finished (plan.outcome config (ofText text).lines mutation true)]),
        .ok (plan.outcome config (ofText text).lines mutation true)⟩

theorem mutateLines_eq (lines : List String) (disk : Disk) (state : σ) :
    mutateLines config decide plan remaining lines disk state =
      ⟨disk, (plan.mutation config decide remaining lines state).state,
        plan.told config (plan.mutation config decide remaining lines state),
        if (plan.mutation config decide remaining lines state).abandoned then .error .abandoned
        else .ok (plan.mutation config decide remaining lines state)⟩ := rfl

theorem EditPlan.mutation_with (dry : Bool) (sample : Option Int) (lines : List String) (state : σ) :
    plan.mutation { config with dry, sample } decide remaining lines state =
      plan.mutation config decide remaining lines state := by
  unfold EditPlan.mutation
  induction plan.sites generalizing lines state with
  | nil => rfl
  | cons site sites ih =>
    have hstep : applySite ⟨{ config with dry, sample }, plan.path, config.directive, remaining⟩
        decide site lines state =
      applySite ⟨config, plan.path, config.directive, remaining⟩ decide site lines state := rfl
    rw [Mutation.apply, Mutation.apply, hstep, ih]

theorem runPlan_planRun (disk : Disk) (state : σ) :
    PlanRun config decide remaining plan disk state
      (runPlan config decide remaining plan disk state) := by
  unfold runPlan readBuffer
  dsimp only
  rcases hread : disk.readText (config.resolve plan.path) with fault | text
  · exact .unread hread
  rw [Run.andThen_of_ok rfl]
  dsimp only
  rw [mutateLines_eq]
  obtain ⟨mutation, hmutation⟩ :
    ∃ mutation, mutation = plan.mutation config decide remaining (ofText text).lines state :=
    ⟨_, rfl⟩
  rw [← hmutation]
  rcases hgoing : mutation.abandoned with _ | _
  case true =>
    rw [if_pos rfl, Run.andThen_of_error rfl]
    exact .abandoned hread hmutation hgoing
  rw [if_neg Bool.false_ne_true, Run.andThen_of_ok rfl]
  dsimp only
  unfold persist writeBuffer
  rcases hchanged : mutation.changed && !config.dry with _ | _
  · exact .kept hread hmutation hgoing hchanged
  · rw [if_pos rfl]
    rcases hwrite : disk.writeText (config.resolve plan.path)
      (LineBuffer.toText ⟨mutation.lines, (ofText text).newline⟩) with ⟨fault, left⟩ | disk'
    · exact .unwritten hread hmutation hgoing hchanged hwrite
    · exact .written hread hmutation hgoing hchanged hwrite

variable {config decide remaining plan}

theorem PlanRun.of_ok {disk : Disk} {state : σ} {run : Run σ FileOutcome} {outcome : FileOutcome}
    (h : PlanRun config decide remaining plan disk state run) (hok : run.result = .ok outcome) :
    ∃ text mutation, disk.readText (config.resolve plan.path) = .ok text ∧
      mutation = plan.mutation config decide remaining (ofText text).lines state ∧
      mutation.abandoned = false ∧
      outcome = plan.outcome config (ofText text).lines mutation (mutation.changed && !config.dry) ∧
      ((mutation.changed && !config.dry) = false ∧
          run = ⟨disk, mutation.state,
            plan.opening config none ++ (plan.told config mutation ++ [.finished outcome]),
            .ok outcome⟩ ∨
        (mutation.changed && !config.dry) = true ∧ ∃ disk',
          disk.writeText (config.resolve plan.path)
            (LineBuffer.toText ⟨mutation.lines, (ofText text).newline⟩) = .ok disk' ∧
          run = ⟨disk', mutation.state,
            plan.opening config none ++ (plan.told config mutation ++
              [.wrote (config.resolve plan.path) none, .finished outcome]),
            .ok outcome⟩) := by
  cases h with
  | unread => cases hok
  | abandoned => cases hok
  | unwritten => cases hok
  | @kept text mutation hread hmutation hgoing hkept =>
    obtain rfl := Except.ok.inj hok
    exact ⟨text, mutation, hread, hmutation, hgoing, by rw [hkept], Or.inl ⟨hkept, rfl⟩⟩
  | @written text mutation disk' hread hmutation hgoing hchanged hwrite =>
    obtain rfl := Except.ok.inj hok
    exact ⟨text, mutation, hread, hmutation, hgoing, by rw [hchanged],
      Or.inr ⟨hchanged, disk', hwrite, rfl⟩⟩

end Plan

end ExpectError
