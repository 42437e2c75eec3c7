import ExpectError.Proofs.PlanRun
import ExpectError.Proofs.Sampling

/-!
# Runs over a sample

A run that draws a sample goes on with it as if the sample were all there is: what it does to the
files of a plan does not depend on the size of the sample (`runPlans_sample`), so it is the run over
the selected diagnostics with two entries in front, one for the report and one for the log. If there
is no such sample, nothing comes after the report.
-/

namespace ExpectError

open LineBuffer (ofText)

variable {σ : Type}

/-! ## Parts of a run -/

section Parts

variable (config : Config) (decide : Decider σ)

theorem runReport_of_readText (generator : Random.Twister) {report : Path} {disk : Disk} (state : σ)
    {text : String} (hreport : disk.readText report = .ok text) :
    runReport config decide generator report disk state =
      (runDiagnostics config decide generator (Diagnostic.ofReport (ofText text).lines) disk
        state).record (.read report none) := by
  rw [runReport, readBuffer, hreport]
  rfl

theorem runReport_result (generator : Random.Twister) {report : Path} {disk : Disk} (state : σ)
    {text : String} (hreport : disk.readText report = .ok text) :
    (runReport config decide generator report disk state).result =
      (runDiagnostics config decide generator (Diagnostic.ofReport (ofText text).lines) disk
        state).result := by
  rw [runReport_of_readText config decide generator state hreport]
  rfl

theorem runPlan_sample (sample : Option Int) (remaining : Nat) (plan : EditPlan) (disk : Disk)
    (state : σ) :
    runPlan { config with sample } decide remaining plan disk state =
      runPlan config decide remaining plan disk state := by
  have hmutate : ∀ lines (disk : Disk) state,
      mutateLines { config with sample } decide plan remaining lines disk state =
        mutateLines config decide plan remaining lines disk state := by
    intro lines disk state
    rw [mutateLines_eq, mutateLines_eq,
      EditPlan.mutation_with config decide remaining plan config.dry sample]
    rfl
  unfold runPlan
  simp only [hmutate]
  rfl

theorem runPlans_sample (sample : Option Int) (plans : List EditPlan) (disk : Disk) (state : σ) :
    runPlans { config with sample } decide plans disk state =
      runPlans config decide plans disk state := by
  induction plans generalizing disk state with
  | nil => rfl
  | cons plan plans ih => simp only [runPlans, runPlan_sample, ih]

variable {config decide}

theorem runPlan_ne_sample {remaining : Nat} {plan : EditPlan} {disk : Disk} {state : σ}
    (error : Random.SampleError) :
    (runPlan config decide remaining plan disk state).result ≠ .error (.sample error) := by
  have h := runPlan_planRun config decide remaining plan disk state
  generalize runPlan config decide remaining plan disk state = run at h
  cases h <;> exact nofun

theorem Run.andThen_ne_sample {α β : Type} {first : Run σ α} {next : Disk → σ → α → Run σ β}
    {error : Random.SampleError} (hfirst : first.result ≠ .error (.sample error))
    (hnext : ∀ disk state value, (next disk state value).result ≠ .error (.sample error)) :
    (first.andThen next).result ≠ .error (.sample error) := by
  rcases h : first.result with fault | value
  · rw [Run.andThen_of_error h]
    intro heq
    obtain rfl := Except.error.inj heq
    exact hfirst h
  · rw [Run.andThen_of_ok h]
    exact hnext _ _ _

theorem runPlans_ne_sample {plans : List EditPlan} {disk : Disk} {state : σ}
    (error : Random.SampleError) :
    (runPlans config decide plans disk state).result ≠ .error (.sample error) := by
  induction plans generalizing disk state with
  | nil => exact nofun
  | cons plan plans ih =>
    exact Run.andThen_ne_sample (runPlan_ne_sample error) fun _ _ _ =>
      Run.andThen_ne_sample ih fun _ _ _ => nofun

end Parts

/-! ## The selection -/

section Selection

variable {config : Config} {decide : Decider σ} {generator : Random.Twister} {ds : List Diagnostic}
  {disk : Disk} {state : σ}

theorem runDiagnostics_all (hsample : config.sample = none) :
    runDiagnostics config decide generator ds disk state =
      (runPlans config decide (EditPlan.ofDiagnostics ds) disk state).andThen
        fun disk state outcomes => .done disk state ⟨ds, outcomes⟩ := by
  have hselect : select config generator ds disk state = .done disk state ds := by
    rw [select, hsample]
  rw [runDiagnostics, hselect, Run.done_andThen]

theorem runDiagnostics_all_diagnostics (hsample : config.sample = none) {result : RunResult}
    (h : (runDiagnostics config decide generator ds disk state).result = .ok result) :
    result.diagnostics = ds := by
  rw [runDiagnostics_all hsample] at h
  obtain ⟨_, outcomes, -, hdone⟩ := Run.andThen_ends (Run.ends_of_result h)
  obtain ⟨-, rfl⟩ := Run.done_ends hdone
  rfl

theorem runDiagnostics_all_ne_sample (hsample : config.sample = none) (error : Random.SampleError) :
    (runDiagnostics config decide generator ds disk state).result ≠ .error (.sample error) := by
  rw [runDiagnostics_all hsample]
  exact Run.andThen_ne_sample (runPlans_ne_sample error) fun _ _ _ => nofun

variable {count : Int} (hsample : config.sample = some count)

include hsample

theorem runDiagnostics_undrawn {error : Random.SampleError}
    (h : (Random.sample Random.Twister.draw ds count generator).1 = .error error) :
    runDiagnostics config decide generator ds disk state =
      ⟨disk, state, [], .error (.sample error)⟩ := by
  have hselect : select config generator ds disk state =
      ⟨disk, state, [], .error (.sample error)⟩ := by
    rw [select, hsample]
    simp only [h]
  rw [runDiagnostics, hselect]
  rfl

theorem runDiagnostics_drawn {picked : List Diagnostic}
    (h : (Random.sample Random.Twister.draw ds count generator).1 = .ok picked)
    (generator' : Random.Twister) :
    runDiagnostics config decide generator ds disk state =
      (runDiagnostics { config with sample := none } decide generator' picked disk state).record
        (.sampled picked.length ds.length) := by
  have hselect : select config generator ds disk state =
      ⟨disk, state, [.sampled picked.length ds.length], .ok picked⟩ := by
    rw [select, hsample]
    simp only [h]
  have hrest := @runDiagnostics_all _ { config with sample := none } decide generator' picked disk
    state rfl
  rw [runPlans_sample] at hrest
  rw [hrest, runDiagnostics, hselect, Run.andThen_of_ok rfl]
  rfl

theorem runDiagnostics_refused (h : count < 0 ∨ (ds.length : Int) < count) :
    runDiagnostics config decide generator ds disk state =
      ⟨disk, state, [], .error (.sample (Random.refusal count ds.length))⟩ :=
  runDiagnostics_undrawn hsample (congrArg Prod.fst (Random.sample_refused h))

/-- The run fails for want of a sample as the draw does. -/
theorem runDiagnostics_sample_iff {error : Random.SampleError} :
    (runDiagnostics config decide generator ds disk state).result = .error (.sample error) ↔
      (Random.sample Random.Twister.draw ds count generator).1 = .error error := by
  rcases hdrawn : (Random.sample Random.Twister.draw ds count generator).1 with error' | picked
  · simp [runDiagnostics_undrawn hsample hdrawn]
  · rw [runDiagnostics_drawn hsample hdrawn generator]
    exact iff_of_false (runDiagnostics_all_ne_sample rfl error) (by simp)

theorem runDiagnostics_outOfBounds_iff :
    (∃ told size, (runDiagnostics config decide generator ds disk state).result =
        .error (.sample (.outOfBounds told size))) ↔
      (count < 0 ∨ (ds.length : Int) < count) ∧ count.natAbs < 10 ^ Text.digitLimit := by
  simp only [runDiagnostics_sample_iff hsample]
  exact Random.sample_outOfBounds_iff

theorem runDiagnostics_unwritable_iff :
    (runDiagnostics config decide generator ds disk state).result = .error (.sample .unwritable) ↔
      (count < 0 ∨ (ds.length : Int) < count) ∧ 10 ^ Text.digitLimit ≤ count.natAbs :=
  (runDiagnostics_sample_iff hsample).trans Random.sample_unwritable_iff

theorem runDiagnostics_none_drawn (hzero : count = 0) :
    runDiagnostics config decide generator ds disk state =
      ⟨disk, state, [.sampled 0 ds.length], .ok ⟨[], []⟩⟩ := by
  rw [hzero] at hsample
  rw [runDiagnostics_drawn hsample (congrArg Prod.fst Random.sample_zero) generator,
    runDiagnostics_all rfl]
  rfl

end Selection

/-! ## Reports -/

/-- **Runs over a sample.** Of a report that can be read, a run is to draw so many diagnostics. If
there are not so many, or the number is negative, the run ends at once: no file is changed or read
but the report, nothing is asked, and the reporter is told only that the report was read. The error
names the number if that has few enough digits to be told, and is a fault of another kind if it has
not. This is the only case in which the run fails for want of a sample, unless the draw never ends.
Otherwise the run is the run over the drawn diagnostics, in the order in which they were drawn, that
draws none itself: with the same disk and state of the decision source behind it, the same events,
questions and result, and the drawn diagnostics as those it dealt with. A sample of none touches
nothing. The sample comes from the generator that the caller gives, whatever the seed is, or else
from the one for the seed. -/
theorem sampled_run (config : Config) (count : Int) (decide : Decider σ)
    (given : Option Random.Twister) (fresh : Random.Twister) {report : Path} {disk : Disk}
    (state : σ) {text : String} (hreport : disk.readText report = .ok text) :
    let sampling := { config with sample := some count }
    let generator := sampling.drawsFrom given fresh
    let ds := Diagnostic.ofReport (ofText text).lines
    let refused := count < 0 ∨ (ds.length : Int) < count
    let run := runReport sampling decide generator report disk state
    ((∃ told size, run.result = .error (.sample (.outOfBounds told size))) ↔
      refused ∧ count.natAbs < 10 ^ Text.digitLimit) ∧
    (run.result = .error (.sample .unwritable) ↔
      refused ∧ 10 ^ Text.digitLimit ≤ count.natAbs) ∧
    (refused →
      run = ⟨disk, state, [.read report none], run.result⟩ ∧
      eventsOf run.entries = [.io .read report none] ∧ askedOf run.entries = [] ∧
      (count.natAbs < 10 ^ Text.digitLimit →
        run.result = .error (.sample (.outOfBounds count ds.length)))) ∧
    (∀ picked, (Random.sample Random.Twister.draw ds count generator).1 = .ok picked → ∀ generator',
      let rest := runDiagnostics { config with sample := none } decide generator' picked disk state
      Random.DrawnFrom ds count picked ∧
      run = (rest.record (.sampled picked.length ds.length)).record (.read report none) ∧
      eventsOf run.entries = .io .read report none :: eventsOf rest.entries ∧
      askedOf run.entries = askedOf rest.entries ∧
      ∀ result, run.result = .ok result → result.diagnostics = picked) ∧
    (count = 0 →
      run = ⟨disk, state, [.read report none, .sampled 0 ds.length], .ok ⟨[], []⟩⟩) ∧
    (∀ explicit, given = some explicit → generator = explicit) ∧
    (∀ seed, given = none → config.seed = some seed → generator = .ofSeed seed) := by
  intro sampling generator ds refused run
  have hrun : run = (runDiagnostics sampling decide generator ds disk state).record
      (.read report none) := runReport_of_readText sampling decide generator state hreport
  have hresult : run.result = (runDiagnostics sampling decide generator ds disk state).result :=
    runReport_result sampling decide generator state hreport
  refine ⟨?_, ?_, fun h => ?_, fun picked hpicked generator' => ?_, fun hzero => ?_, ?_, ?_⟩
  · rw [hresult]
    exact runDiagnostics_outOfBounds_iff rfl
  · rw [hresult]
    exact runDiagnostics_unwritable_iff rfl
  · rw [runDiagnostics_refused rfl h] at hrun
    rw [hrun]
    exact ⟨rfl, rfl, rfl, fun hshort => by rw [← Random.refusal_of_lt hshort]; rfl⟩
  · have hdrawn := hrun.trans (congrArg (Run.record (.read report none))
      (runDiagnostics_drawn rfl hpicked generator'))
    rw [hdrawn]
    refine ⟨Random.sample_drawnFrom hpicked, rfl, rfl, rfl, fun result hresult => ?_⟩
    exact runDiagnostics_all_diagnostics rfl hresult
  · rw [hrun, runDiagnostics_none_drawn rfl hzero]
    rfl
  · rintro explicit rfl
    rfl
  · rintro seed rfl hseed
    simp only [generator, sampling, Config.drawsFrom, Config.generator, hseed]
    rfl

/-- Of three diagnostics, four cannot be drawn. Of two that are drawn from a generator that wins
over the seed, the last comes first: its file gets both blocks, and the other file is left alone. -/
theorem sampled_run_last_first :
    let log := "a.ts(1,1): error TS1: m\nb.ts(1,1): error TS1: n\na.ts(2,1): error TS1: o\n"
    let disk : Disk :=
      { nodes := [(["log"], .file log.toUTF8), (["a.ts"], .file "x\ny".toUTF8),
          (["b.ts"], .file "z".toUTF8)] }
    let config : Config := { ({} : Draft).freeze with seed := some 4 }
    let explicit : Random.Twister := ⟨#[0x80000000], 0⟩
    let run (count : Int) : Run Unit RunResult :=
      runReport { config with sample := some count } (Decider.fixed .plain)
        ({ config with sample := some count }.drawsFrom (some explicit) (.ofSeed 0))
        (Path.ofText "log") disk ()
    let picked : List Diagnostic := [⟨"a.ts", 2, 1, "TS1", "o"⟩, ⟨"a.ts", 1, 1, "TS1", "m"⟩]
    disk.readText (Path.ofText "log") = .ok log ∧
    (run 4).result = .error (.sample (.outOfBounds 4 3)) ∧
    eventsOf (run 4).entries = [.io .read (Path.ofText "log") none] ∧
    Random.DrawnFrom (Diagnostic.ofReport (ofText log).lines) 2 picked ∧
    (run 2).result =
      (runDiagnostics { config with sample := none } (Decider.fixed .plain) explicit picked disk
        ()).result ∧
    (run 2).disk.node? ["a.ts"] =
      some (.file ("// m\n// @ts-expect-error TODO: fix error and remove\nx\n" ++
        "// o\n// @ts-expect-error TODO: fix error and remove\ny").toUTF8) ∧
    (run 2).disk.node? ["b.ts"] = disk.node? ["b.ts"] := by
  intro log disk config explicit run picked
  have hreport : disk.readText (Path.ofText "log") = .ok log :=
    eq_ok_of_toOption (by decide +kernel)
  have hds : Diagnostic.ofReport (ofText log).lines =
      [⟨"a.ts", 1, 1, "TS1", "m"⟩, ⟨"b.ts", 1, 1, "TS1", "n"⟩, ⟨"a.ts", 2, 1, "TS1", "o"⟩] := by
    decide +kernel
  have hpicked : (Random.sample Random.Twister.draw (Diagnostic.ofReport (ofText log).lines) 2
      explicit).1 = .ok picked := by
    rw [hds]
    cbv
  obtain ⟨-, -, hrefused, -, -, -⟩ := sampled_run config 4 (Decider.fixed .plain) (some explicit)
    (.ofSeed 0) () hreport
  obtain ⟨-, -, -, hdrawn, -, -⟩ := sampled_run config 2 (Decider.fixed .plain) (some explicit)
    (.ofSeed 0) () hreport
  obtain ⟨-, hevents, -, hwords⟩ := hrefused (by rw [hds]; decide)
  obtain ⟨hfrom, hrun₂, -, -, -⟩ := hdrawn picked hpicked explicit
  have hresult₄ := hwords (by decide +kernel)
  rw [hds] at hresult₄
  have hresult₂ := congrArg Run.result hrun₂
  have hdisk₂ := congrArg Run.disk hrun₂
  refine ⟨hreport, hresult₄, hevents, hfrom, hresult₂, ?_, ?_⟩
  · refine (congrArg (Disk.node? · ["a.ts"]) hdisk₂).trans ?_
    decide +kernel
  · refine (congrArg (Disk.node? · ["b.ts"]) hdisk₂).trans ?_
    decide +kernel

/-- A run that is to draw a number with too many digits from one diagnostic. It fails, but not with
the error for a sample that is out of bounds. -/
theorem sampled_run_of_long_size :
    let log := "a.ts(1,1): error TS1: m\n"
    let disk : Disk := { nodes := [(["log"], .file log.toUTF8)] }
    let count : Int := 10 ^ Text.digitLimit
    let config : Config := { ({} : Draft).freeze with sample := some count }
    let run := runReport config (Decider.fixed .plain) (.ofSeed 0) (Path.ofText "log") disk ()
    disk.readText (Path.ofText "log") = .ok log ∧
    ((Diagnostic.ofReport (ofText log).lines).length : Int) < count ∧
    run.result = .error (.sample .unwritable) ∧
    ¬ ∃ told size, run.result = .error (.sample (.outOfBounds told size)) := by
  intro log disk count config run
  have hreport : disk.readText (Path.ofText "log") = .ok log :=
    eq_ok_of_toOption (by decide +kernel)
  have hds : Diagnostic.ofReport (ofText log).lines = [⟨"a.ts", 1, 1, "TS1", "m"⟩] := by
    decide +kernel
  have hlong : 10 ^ Text.digitLimit ≤ count.natAbs := (Random.natAbs_ten_pow Text.digitLimit).ge
  have hlarge : ((Diagnostic.ofReport (ofText log).lines).length : Int) < count := by
    rw [hds]
    exact Random.one_lt_ten_pow (by decide)
  have hresult : run.result = .error (.sample .unwritable) := by
    rw [show run.result = _ from runReport_result config _ _ () hreport]
    exact (runDiagnostics_unwritable_iff rfl).mpr ⟨Or.inr hlarge, hlong⟩
  exact ⟨hreport, hlarge, hresult, fun ⟨told, size, hwords⟩ => by cases hresult.symm.trans hwords⟩

end ExpectError
