import ExpectError.Disk
import ExpectError.History
import ExpectError.Random.Sample
import ExpectError.Random.Twister

/-!
# Runs

A run takes the plans of a report one after the other: read the file, apply the sites, and write
the file if something was inserted and the run is not dry. The first fault ends the run. What has
been written stays, and nothing more is read, asked or written; a file whose new text could not be
encoded is left empty.
-/

namespace ExpectError

inductive RunError where
  | io (fault : IoFault)
  | sample (error : Random.SampleError)
  /-- The decision source gave up. -/
  | abandoned
  deriving DecidableEq, Repr

/-- A part of a run: the disk and the decision source behind it, what happened, and the result. -/
structure Run (σ α : Type) where
  disk : Disk
  state : σ
  entries : List Entry
  result : Except RunError α

namespace Run

variable {σ α β : Type}

def done (disk : Disk) (state : σ) (value : α) : Run σ α :=
  ⟨disk, state, [], .ok value⟩

/-- Goes on with the result of a part; a failed part is the end. -/
def andThen (first : Run σ α) (next : Disk → σ → α → Run σ β) : Run σ β :=
  match first.result with
  | .error error => ⟨first.disk, first.state, first.entries, .error error⟩
  | .ok value =>
    let rest := next first.disk first.state value
    { rest with entries := first.entries ++ rest.entries }

def record (entry : Entry) (run : Run σ α) : Run σ α :=
  { run with entries := entry :: run.entries }

end Run

section Parts

variable {σ : Type}

def readBuffer (path : Path) (disk : Disk) (state : σ) : Run σ LineBuffer :=
  match disk.readText path with
  | .error fault => ⟨disk, state, [.read path (some fault)], .error (.io fault)⟩
  | .ok text => ⟨disk, state, [.read path none], .ok (LineBuffer.ofText text)⟩

/-- Writes a buffer to a file, and tells how many bytes that took. -/
def writeBuffer (path : Path) (buffer : LineBuffer) (disk : Disk) (state : σ) : Run σ Nat :=
  match disk.writeText path buffer.toText with
  | .error (fault, disk) => ⟨disk, state, [.wrote path (some fault)], .error (.io fault)⟩
  | .ok disk => ⟨disk, state, [.wrote path none], .ok buffer.toText.utf8ByteSize⟩

/-- Applies the sites of a plan to the lines of a file. -/
def mutateLines (config : Config) (decide : Decider σ) (plan : EditPlan) (filesRemaining : Nat)
    (lines : List String) (disk : Disk) (state : σ) : Run σ (Mutation σ) :=
  let rules : SiteRules := ⟨config, plan.path, config.directive, filesRemaining⟩
  let mutation := Mutation.apply rules decide plan.sites lines state
  { disk
    state := mutation.state
    entries := mutation.records.map (.site plan.path config.dry)
    result := if mutation.abandoned then .error .abandoned else .ok mutation }

/-- Writes a buffer if that is called for, and tells whether it was. -/
def persist (config : Config) (path : Path) (changed : Bool) (buffer : LineBuffer) (disk : Disk)
    (state : σ) : Run σ Bool :=
  if changed && !config.dry then
    (writeBuffer path buffer disk state).andThen fun disk state _ => .done disk state true
  else .done disk state false

/-- Deals with one file. -/
def runPlan (config : Config) (decide : Decider σ) (filesRemaining : Nat) (plan : EditPlan)
    (disk : Disk) (state : σ) : Run σ FileOutcome :=
  let path := config.resolve plan.path
  Run.record (.processing path plan.sites.length) <|
    (readBuffer path disk state).andThen fun disk state buffer =>
    (mutateLines config decide plan filesRemaining buffer.lines disk state).andThen
      fun disk state mutation =>
    (persist config path mutation.changed ⟨mutation.lines, buffer.newline⟩ disk state).andThen
      fun disk state written =>
    let outcome : FileOutcome :=
      { name := plan.path
        path
        edits := mutation.edits
        skips := mutation.skips
        before := buffer.lines
        after := mutation.lines
        written }
    ⟨disk, state, [.finished outcome], .ok outcome⟩

/-- Deals with the files of several plans, in their order. -/
def runPlans (config : Config) (decide : Decider σ) :
    List EditPlan → Disk → σ → Run σ (List FileOutcome)
  | [], disk, state => .done disk state []
  | plan :: plans, disk, state =>
    (runPlan config decide plans.length plan disk state).andThen fun disk state outcome =>
    (runPlans config decide plans disk state).andThen fun disk state outcomes =>
    .done disk state (outcome :: outcomes)

end Parts

/-- The result of a whole run. -/
structure RunResult where
  /-- The diagnostics that were dealt with, in the order in which they were drawn. -/
  diagnostics : List Diagnostic
  outcomes : List FileOutcome
  deriving DecidableEq, Repr

namespace RunResult

def inserted (result : RunResult) : Nat :=
  (result.outcomes.flatMap FileOutcome.edits).length

def skipped (result : RunResult) : Nat :=
  (result.outcomes.flatMap FileOutcome.skips).length

def written (result : RunResult) : Nat :=
  result.outcomes.countP FileOutcome.written

def changed (result : RunResult) : Nat :=
  result.outcomes.countP FileOutcome.changed

end RunResult

section Whole

variable {σ : Type}

/-- The diagnostics that a run deals with: all of them, or a sample. -/
def select (config : Config) (generator : Random.Twister) (diagnostics : List Diagnostic)
    (disk : Disk) (state : σ) : Run σ (List Diagnostic) :=
  match config.sample with
  | none => .done disk state diagnostics
  | some count =>
    match (Random.sample Random.Twister.draw diagnostics count generator).1 with
    | .error error => ⟨disk, state, [], .error (.sample error)⟩
    | .ok picked =>
      ⟨disk, state, [.sampled picked.length diagnostics.length], .ok picked⟩

/-- The generator of a run: the one for the seed, if there is a seed. -/
def Config.generator (config : Config) (fresh : Random.Twister) : Random.Twister :=
  match config.seed with
  | some seed => .ofSeed seed
  | none => fresh

/-- The generator that samples are drawn from: one that the caller gives wins over the seed. -/
def Config.drawsFrom (config : Config) (given : Option Random.Twister) (fresh : Random.Twister) :
    Random.Twister :=
  given.getD (config.generator fresh)

/-- Deals with diagnostics. -/
def runDiagnostics (config : Config) (decide : Decider σ) (generator : Random.Twister)
    (diagnostics : List Diagnostic) (disk : Disk) (state : σ) : Run σ RunResult :=
  (select config generator diagnostics disk state).andThen fun disk state selected =>
  (runPlans config decide (EditPlan.ofDiagnostics selected) disk state).andThen
    fun disk state outcomes =>
  .done disk state ⟨selected, outcomes⟩

/-- Deals with the diagnostics of a report. Its path is taken as it is given. -/
def runReport (config : Config) (decide : Decider σ) (generator : Random.Twister) (report : Path)
    (disk : Disk) (state : σ) : Run σ RunResult :=
  (readBuffer report disk state).andThen fun disk state buffer =>
  runDiagnostics config decide generator (Diagnostic.ofReport buffer.lines) disk state

end Whole

end ExpectError
