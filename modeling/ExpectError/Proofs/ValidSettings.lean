import ExpectError.CommandLine.Program
import ExpectError.Proofs.ConfigLayers
import ExpectError.Proofs.SampledRun
import ExpectError.Proofs.SiteEntries

/-!
# Settings that make sense

The checks of settings are spread out: the command turns down negative numbers, a layer of a file
holds none, and freezing a draft does not keep an empty directive. Together they make sure that the
settings of a run are valid (`ApplyOptions.settings_valid`), whatever the files say and in whatever
order they come. The run relies on this in three places: the window of a question reaches its target
(`SiteRules.question?_focused`), no line is silenced by an empty word, and a sample that is refused
is too large. `validated_run` says so of every call of the command that comes to a run.
-/

namespace ExpectError

open LineBuffer (ofText)

/-- Settings that a run can rely on. -/
structure Config.Valid (config : Config) : Prop where
  context : 0 ≤ config.context
  sample : ∀ count, config.sample = some count → 0 ≤ count
  directive : config.directive ≠ ""

/-! ## The settings of a call -/

namespace Config

open Toml (Value)

theorem mem_of_lastSet {α : Type} {values : List (Option α)} {value : α}
    (h : lastSet values = some value) : some value ∈ values := by
  obtain ⟨_, hmem, rfl⟩ := List.mem_filterMap.mp (List.mem_of_getLast? h)
  exact hmem

theorem lastValid_forall {α : Type} {p : α → Prop} {layers : List Layer} {key : Key}
    {valid? : Value → Option α} {arg : Option α} (hvalid : ∀ value a, valid? value = some a → p a)
    (harg : ∀ a, arg = some a → p a) {a : α} (h : lastValid layers key valid? arg = some a) :
    p a := by
  rcases List.mem_append.mp (mem_of_lastSet h) with hlayer | hcaller
  · obtain ⟨layer, -, hread⟩ := List.mem_map.mp hlayer
    obtain ⟨value, -, hvalue⟩ := Option.bind_eq_some_iff.mp hread
    exact hvalid value a hvalue
  · exact harg a (List.mem_singleton.mp hcaller).symm

theorem size?_nonneg (value : Value) (n : Int) (h : value.size? = some n) : 0 ≤ n :=
  of_decide_eq_true (Option.filter_eq_some_iff.mp h).2

theorem Layered.valid {layers : List Layer} {args : Draft.Overrides} {config : Config}
    (h : Layered layers args config) (hcontext : ∀ n, args.context = some n → 0 ≤ n)
    (hsample : ∀ n, args.sample = some n → 0 ≤ n) : config.Valid := by
  refine ⟨?_, fun count hcount => ?_, ?_⟩
  · rw [h.context]
    rcases hlast : lastValid layers .context Value.size? args.context with _ | n
    · decide
    · exact lastValid_forall size?_nonneg hcontext hlast
  · rw [h.sample] at hcount
    exact lastValid_forall size?_nonneg hsample hcount
  · rw [h.directive]
    rcases hlast : (lastValid layers .directive Value.text? args.directive).filter (· ≠ "") with
      _ | directive
    · decide
    · exact of_decide_eq_true (Option.filter_eq_some_iff.mp hlast).2

end Config

namespace CommandLine.ApplyOptions

/-- The settings that a call of the command runs with, if it comes to a run. -/
def runsWith? (options : ApplyOptions) (reader : Toml.DocumentReader) (disk : Disk) :
    Option Config :=
  match options.objection? with
  | some _ => none
  | none => (options.settings reader disk).result.toOption

theorem negative?_eq_none_iff {name : String} {value : Option Int} :
    negative? name value = none ↔ ∀ n, value = some n → 0 ≤ n := by
  cases value <;> simp [negative?]

theorem objection?_eq_none_iff {options : ApplyOptions} :
    options.objection? = none ↔
      (∀ n, options.context = some n → 0 ≤ n) ∧ ∀ n, options.sample = some n → 0 ≤ n := by
  rw [← @negative?_eq_none_iff "--context", ← @negative?_eq_none_iff "--sample",
    ← Option.or_eq_none_iff, objection?]
  exact Eq.congr_left Option.orElse_eq_or

variable {options : ApplyOptions} {reader : Toml.DocumentReader} {disk : Disk} {config : Config}

theorem runsWith?_eq_some_iff :
    options.runsWith? reader disk = some config ↔
      options.objection? = none ∧ (options.settings reader disk).result = .ok config := by
  unfold runsWith?
  rcases options.objection? with _ | failure
  · rcases (options.settings reader disk).result with fault | config'
    · simp [Except.toOption]
    · simp [Except.toOption]
  · simp

/-- **The settings of a call are valid**, whatever its options and the files are. -/
theorem settings_valid (h : options.runsWith? reader disk = some config) : config.Valid := by
  obtain ⟨hobjection, hsettings⟩ := runsWith?_eq_some_iff.mp h
  obtain ⟨hcontext, hsample⟩ := objection?_eq_none_iff.mp hobjection
  obtain ⟨draft, hload, hfreeze⟩ := Loading.bind_eq_ok_iff.mp hsettings
  obtain ⟨found, -, -, rfl⟩ := Config.load_eq_ok_iff.mp hload
  obtain rfl := Loading.pure_eq_ok_iff.mp hfreeze
  exact (Config.layeredDraft_layered _ options.overrides).valid hcontext hsample

end CommandLine.ApplyOptions

/-! ## What a run relies on -/

/-- The place that a question points at is there, and the target line of the file is at it. -/
structure Question.Focused (question : Question) (lines : List String) : Prop where
  low : 0 ≤ question.focus
  high : question.focus < question.context.length
  target : question.context[question.focus.toNat]? = itemAt lines question.line

theorem SiteRules.question?_focused {rules : SiteRules} {site : Site} {lines : List String}
    {question : Question} (hcontext : 0 ≤ rules.config.context)
    (hlow : 1 ≤ site.line) (hhigh : site.line ≤ lines.length)
    (h : rules.question? site lines = some question) : question.Focused lines := by
  obtain ⟨target, htarget⟩ := exists_itemAt hlow hhigh
  obtain ⟨-, rfl⟩ := (question?_eq_some_iff rules site lines).mp h
  have hlength := Markup.length_linesAbove hlow hhigh hcontext
  have hfrom := Markup.linesFrom_eq_cons rules.config.context htarget
  have hwindow := Markup.around_eq hlow hhigh hcontext
  rw [hfrom, ← hlength] at hwindow
  rw [hwindow]
  constructor
  case low => exact Int.natCast_nonneg _
  case high => simp
  case target =>
    change (_ ++ target :: _)[Int.toNat (List.length _)]? = itemAt lines site.line
    rw [htarget, Int.toNat_natCast, List.getElem?_append_right le_rfl, Nat.sub_self]
    rfl

section Run

variable {σ : Type}

/-- In a run over a report, a file that the report names had these lines when the run came to it. -/
def FileFound (config : Config) (decide : Decider σ) (generator : Random.Twister) (report : Path)
    (disk : Disk) (state : σ) (name : String) (lines : List String) : Prop :=
  ∃ text selected plan remaining disk' state' content, disk.readText report = .ok text ∧
    (select config generator (Diagnostic.ofReport (ofText text).lines) disk state).result =
      .ok selected ∧
    Reached config decide (EditPlan.ofDiagnostics selected) disk state plan remaining disk'
      state' ∧
    plan.path = name ∧ disk'.readText (config.resolve name) = .ok content ∧
    (ofText content).lines = lines

variable {config : Config} {decide : Decider σ} {generator : Random.Twister} {report : Path}
  {disk : Disk} {state : σ}

theorem runReport_site {name : String} {preview : Bool} {record : SiteRecord}
    (hentry : .site name preview record ∈
      (runReport config decide generator report disk state).entries) :
    ∃ lines, FileFound config decide generator report disk state name lines ∧
      ∃ remaining site seen state',
        let step := applySite ⟨config, name, config.directive, remaining⟩ decide site seen state'
        record.asked = step.asked ∧ record.ending = step.ending ∧
        ∀ m ≤ site.line, itemAt seen m = itemAt lines m := by
  obtain ⟨text, selected, plan, remaining, disk', state', content, htext, hselect, hreached, rfl,
    hcontent, hrecord⟩ := runReport_record hentry
  have hdesc := (EditPlan.ofDiagnostics_grouped selected).descending plan hreached.mem
  obtain ⟨site, -, seen, state'', hasked, hending, hseen⟩ :=
    Mutation.exists_site_of_record _ _ hdesc _ _ hrecord
  exact ⟨_, ⟨text, selected, plan, remaining, disk', state', content, htext, hselect, hreached, rfl,
    hcontent, rfl⟩, remaining, site, seen, state'', hasked, hending, hseen.upTo⟩

theorem runReport_focused (hcontext : 0 ≤ config.context) {asked : Asked}
    (h : asked ∈ askedOf (runReport config decide generator report disk state).entries) :
    ∃ lines, FileFound config decide generator report disk state asked.question.path lines ∧
      asked.question.Focused lines := by
  obtain ⟨name, preview, record, hentry, hasked⟩ := exists_record_of_asked h
  obtain ⟨lines, hfound, remaining, site, seen, state', hown, -, hseen⟩ := runReport_site hentry
  rw [hasked] at hown
  obtain ⟨⟨hlow, hhigh⟩, -, hquestion, -⟩ :=
    (applySite_asked_iff _ decide site seen state').mp hown.symm
  have hfocused := SiteRules.question?_focused hcontext hlow hhigh hquestion
  have hfields := ((question?_eq_some_iff _ site seen).mp hquestion).2
  have hpath : asked.question.path = name := by rw [hfields]
  have hline : asked.question.line = site.line := by rw [hfields]
  refine ⟨lines, by rw [hpath]; exact hfound, hfocused.low, hfocused.high, ?_⟩
  rw [hfocused.target, hline, hseen site.line le_rfl]

theorem runReport_suppressed {name : String} {n : Int}
    (h : (name, ⟨n, .alreadySuppressed⟩) ∈ (eventsOf (runReport config decide generator report disk
      state).entries).filterMap Event.skip?) :
    ∃ lines, FileFound config decide generator report disk state name lines ∧
      Suppressed config.directive lines n := by
  obtain ⟨preview, record, hentry, hending⟩ := exists_record_of_skip h
  obtain ⟨lines, hfound, remaining, site, seen, state', -, hown, hseen⟩ := runReport_site hentry
  obtain ⟨hends, -⟩ := applySite_endsAs
    ⟨config, name, config.directive, remaining⟩ decide site seen state'
  rw [← hown, hending] at hends
  cases hends with
  | suppressed _ habove =>
    exact ⟨lines, hfound, (Suppressed.congr _ (hseen _ (by omega))).mp habove⟩

theorem runReport_outOfBounds {count : Int} {size : Nat}
    (h : (runReport config decide generator report disk state).result =
      .error (.sample (.outOfBounds count size))) :
    config.sample = some count ∧ ∃ text, disk.readText report = .ok text ∧
      size = (Diagnostic.ofReport (ofText text).lines).length ∧
      (count < 0 ∨ (size : Int) < count) := by
  rcases hread : disk.readText report with fault | text
  · rw [runReport, readBuffer, hread] at h
    cases h
  rw [runReport_of_readText config decide generator state hread] at h
  change (runDiagnostics ..).result = _ at h
  rcases hsample : config.sample with _ | count'
  · exact absurd h (runDiagnostics_all_ne_sample hsample _)
  obtain ⟨hrefused, hshort⟩ := (runDiagnostics_outOfBounds_iff hsample).mp ⟨count, size, h⟩
  rw [runDiagnostics_refused hsample hrefused, Random.refusal_of_lt hshort] at h
  obtain ⟨rfl, rfl⟩ := Random.SampleError.outOfBounds.inj (RunError.sample.inj (Except.error.inj h))
  exact ⟨rfl, text, rfl, rfl, hrefused⟩

end Run

/-! ## Calls of the command -/

namespace CommandLine

/-- **A call runs with valid settings only.** Whatever the files and the options are, a call that
comes to no run fails, prints nothing but its complaint and leaves the disk alone. A call that comes
to a run is that run, and its settings are valid: the radius is not negative, nor is the size of a
sample, and the directive is not empty. So in this run

* every question points at one of the lines that it shows, and that is the target line of the file
  as it was found;
* a line is passed over as silenced only if the line above it holds the directive, and is therefore
  not empty;
* a sample is refused only if it is to be larger than the number of diagnostics in the report. -/
theorem validated_run (environment : Environment) (console : Console)
    (log : List LogRecord → String) (disk : Disk) (options : ApplyOptions) (report : Path) :
    let outcome := runApply environment console log disk options report
    (options.runsWith? environment.reader disk = none →
      outcome.exitCode ≠ 0 ∧ outcome.out = "" ∧ outcome.disk = disk) ∧
    ∀ config, options.runsWith? environment.reader disk = some config →
      let decide := deciderOf config.ambiguous
      let generator := config.drawsFrom none environment.generator
      let run := runReport config decide generator report disk environment.answers
      let found := FileFound config decide generator report disk environment.answers
      let ended := endRun console config environment.answers log run
      outcome = { ended with err := log (options.settings environment.reader disk).log ++ ended.err } ∧
      config.Valid ∧
      (∀ asked ∈ askedOf run.entries, ∃ lines, found asked.question.path lines ∧
        asked.question.Focused lines) ∧
      (∀ name n, (name, ⟨n, .alreadySuppressed⟩) ∈ (eventsOf run.entries).filterMap Event.skip? →
        ∃ lines above, found name lines ∧ itemAt lines (n - 1) = some above ∧
          Carries config.directive above ∧ above ≠ "") ∧
      ∀ count size, run.result = .error (.sample (.outOfBounds count size)) →
        config.sample = some count ∧ (size : Int) < count ∧
          ∃ text, disk.readText report = .ok text ∧
            size = (Diagnostic.ofReport (ofText text).lines).length := by
  intro outcome
  refine ⟨fun hnone => ?_, fun config hconfig => ?_⟩
  · rcases hobjection : options.objection? with _ | failure
    · rcases hsettings : (options.settings environment.reader disk).result with fault | config
      · simp [outcome, runApply, hobjection, hsettings]
      · rw [ApplyOptions.runsWith?_eq_some_iff.mpr ⟨hobjection, hsettings⟩] at hnone
        cases hnone
    · simp only [outcome, runApply, hobjection, and_true]
      cases failure.kind <;> decide
  · intro decide generator run found ended
    obtain ⟨hobjection, hsettings⟩ := ApplyOptions.runsWith?_eq_some_iff.mp hconfig
    have hvalid := ApplyOptions.settings_valid hconfig
    refine ⟨?_, hvalid, fun asked hasked => runReport_focused hvalid.context hasked,
      fun name n hskip => ?_, fun count size hrefused => ?_⟩
    · simp only [outcome, runApply, hobjection, hsettings]
      rfl
    · obtain ⟨lines, hfound, above, habove, hcarries⟩ := runReport_suppressed hskip
      refine ⟨lines, above, hfound, habove, hcarries, ?_⟩
      rintro rfl
      exact hvalid.directive (String.toList_eq_nil_iff.mp (List.infix_nil.mp hcarries))
    · obtain ⟨hsample, text, hread, hsize, hbounds⟩ := runReport_outOfBounds hrefused
      have hcount := hvalid.sample count hsample
      exact ⟨hsample, by omega, text, hread, hsize⟩

/-- A file of settings with a negative radius, a negative size and an empty directive. The line
below the directive is passed over, and the question about the other has its target in view. -/
theorem validated_run_senseless_file :
    let disk : Disk :=
      { nodes := [(["tsmark.toml"],
            .file "context = -3\nsample = -1\ndirective = \"\"\n".toUTF8),
          (["a.tsx"], .file " <b>\n\n// @ts-expect-error\nx\n".toUTF8),
          (["log"], .file "a.tsx(4,1): error TS1: m\na.tsx(2,1): error TS1: n\n".toUTF8)] }
    let options : ApplyOptions := { ambiguous := some .embedded }
    let environment : Environment := { generator := ⟨#[], 0⟩ }
    ∃ config, options.runsWith? environment.reader disk = some config ∧ config.Valid ∧
      let run := runReport config (deciderOf config.ambiguous)
        (config.drawsFrom none environment.generator) (Path.ofText "log") disk environment.answers
      (askedOf run.entries).map (fun asked => (asked.question.line, asked.question.context)) =
        [(2, [" <b>", "", "// @ts-expect-error", "x", ""])] ∧
      (∀ asked ∈ askedOf run.entries, ∃ lines, asked.question.Focused lines) ∧
      ("a.tsx", ⟨4, .alreadySuppressed⟩) ∈ (eventsOf run.entries).filterMap Event.skip? ∧
      ∃ above, Carries config.directive above ∧ above ≠ "" := by
  intro disk options environment
  have hconfig : options.runsWith? environment.reader disk = some { ({} : Draft).freeze with
      sources := ["<defaults>", "/tsmark.toml"], ambiguous := .embedded } := by
    decide +kernel
  obtain ⟨-, hruns⟩ := validated_run environment ⟨false⟩ (fun _ => "") disk options
    (Path.ofText "log")
  obtain ⟨-, hvalid, hfocused, hsilenced, -⟩ := hruns _ hconfig
  obtain ⟨lines, above, -, -, hcarries, hne⟩ := hsilenced "a.tsx" 4 (by decide +kernel)
  refine ⟨_, hconfig, hvalid, by decide +kernel, fun asked hasked => ?_, by decide +kernel, above,
    hcarries, hne⟩
  obtain ⟨lines, -, hfocus⟩ := hfocused asked hasked
  exact ⟨lines, hfocus⟩

end CommandLine

end ExpectError
