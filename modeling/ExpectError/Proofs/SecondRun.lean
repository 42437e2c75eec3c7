import ExpectError.Proofs.ReportEffect
import ExpectError.Proofs.SecondPass

/-!
# A second run

A line that got a block, or that was silenced before, has the directive above it once the run is
over, and still has it when the file is read again. So a report that points only at such lines, each
counted as it stands now, finds nothing to do. The argument has two halves. One is about a run over
silenced sites, whatever made them so: `Run.Idle` says that a part of a run ends with the disk as it
was and without a question, and it is built up along the parts of a run (`runReport_idle`). The other
is that the lines of the first run are silenced (`RunEffect.silenced_of_revisits`).
-/

namespace ExpectError

open LineBuffer (ofText withBlocks)

variable {σ α β : Type}

/-! ## Idle parts -/

/-- A part of a run that comes to its end, leaves the disk alone and asks nothing. -/
structure Run.Idle (run : Run σ α) (disk : Disk) (value : α) : Prop extends
    run.Ends disk value where
  asked : askedOf run.entries = []

theorem Run.done_idle (disk : Disk) (state : σ) (value : α) :
    (Run.done disk state value).Idle disk value :=
  ⟨⟨rfl, rfl⟩, rfl⟩

theorem Run.Idle.andThen {first : Run σ α} {next : Disk → σ → α → Run σ β} {disk : Disk} {value : α}
    {result : β} (hfirst : first.Idle disk value)
    (hnext : (next disk first.state value).Idle disk result) :
    (first.andThen next).Idle disk result := by
  have heq : first.andThen next =
      { next disk first.state value with
        entries := first.entries ++ (next disk first.state value).entries } := by
    rw [Run.andThen, hfirst.result, hfirst.disk]
  have hentries : askedOf (first.entries ++ (next disk first.state value).entries) =
      askedOf first.entries ++ askedOf (next disk first.state value).entries :=
    List.filterMap_append
  rw [heq]
  refine ⟨⟨hnext.disk, hnext.result⟩, ?_⟩
  rw [hentries, hfirst.asked, hnext.asked, List.append_nil]

theorem Run.Idle.record {run : Run σ α} {disk : Disk} {value : α} (h : run.Idle disk value)
    {entry : Entry} (hentry : entry.asked? = none) : (run.record entry).Idle disk value := by
  refine ⟨⟨h.disk, h.result⟩, ?_⟩
  rw [Run.record, askedOf, List.filterMap_cons_none hentry]
  exact h.asked

theorem readBuffer_idle {path : Path} {disk : Disk} {text : String}
    (h : disk.readText path = .ok text) (state : σ) :
    (readBuffer path disk state).Idle disk (ofText text) := by
  rw [readBuffer, h]
  exact ⟨⟨rfl, rfl⟩, rfl⟩

/-! ## Silenced sites -/

theorem mutateLines_idle (config : Config) (decide : Decider σ) {plan : EditPlan}
    (filesRemaining : Nat) {lines : List String} (disk : Disk) (state : σ)
    (h : ∀ site ∈ plan.sites, Silenced config.directive lines site.line) :
    (mutateLines config decide plan filesRemaining lines disk state).Idle disk
      (Mutation.silenced plan.sites lines state) := by
  have happly := Mutation.apply_silenced state
    ⟨config, plan.path, config.directive, filesRemaining⟩ decide h
  simp only [mutateLines, happly]
  refine ⟨⟨rfl, by simp⟩, ?_⟩
  simp [askedOf, Mutation.silenced, Entry.asked?, List.filterMap_eq_nil_iff]

/-- The outcome for a plan whose sites are all silenced. -/
def silencedOutcome (config : Config) (plan : EditPlan) (text : String) : FileOutcome where
  name := plan.path
  path := config.resolve plan.path
  edits := []
  skips := plan.sites.map fun site => ⟨site.line, .alreadySuppressed⟩
  before := (ofText text).lines
  after := (ofText text).lines
  written := false

theorem runPlan_idle (config : Config) (decide : Decider σ) (filesRemaining : Nat)
    {plan : EditPlan} {disk : Disk} (state : σ) {text : String}
    (hread : disk.readText (config.resolve plan.path) = .ok text)
    (h : ∀ site ∈ plan.sites, Silenced config.directive (ofText text).lines site.line) :
    (runPlan config decide filesRemaining plan disk state).Idle disk
      (silencedOutcome config plan text) := by
  refine Run.Idle.record ?_ rfl
  refine (readBuffer_idle hread state).andThen ?_
  refine (mutateLines_idle config decide filesRemaining disk _ h).andThen ?_
  simp only [persist, Mutation.silenced_changed, Bool.false_and, Bool.false_eq_true, if_false]
  refine (Run.done_idle disk _ false).andThen ⟨⟨rfl, ?_⟩, rfl⟩
  simp only [Mutation.silenced_edits, Mutation.silenced_skips]
  rfl

/-- The plan is for a file that can be read, and all its sites are silenced there. -/
def EditPlan.Done (config : Config) (disk : Disk) (plan : EditPlan) : Prop :=
  ∃ text, disk.readText (config.resolve plan.path) = .ok text ∧
    ∀ site ∈ plan.sites, Silenced config.directive (ofText text).lines site.line

theorem runPlans_idle (config : Config) (decide : Decider σ) {plans : List EditPlan} {disk : Disk}
    (state : σ) (h : ∀ plan ∈ plans, plan.Done config disk) :
    ∃ outcomes, (runPlans config decide plans disk state).Idle disk outcomes ∧
      (∀ outcome ∈ outcomes, ∃ plan text, outcome = silencedOutcome config plan text) ∧
      ∀ plan ∈ plans, ∃ text, silencedOutcome config plan text ∈ outcomes := by
  induction plans generalizing state with
  | nil => exact ⟨[], Run.done_idle disk state [], by simp, by simp⟩
  | cons plan plans ih =>
    obtain ⟨text, hread, hsites⟩ := h plan List.mem_cons_self
    have hfirst := runPlan_idle config decide plans.length state hread hsites
    obtain ⟨outcomes, hrest, hform, hall⟩ :=
      ih (runPlan config decide plans.length plan disk state).state
        fun p hp => h p (List.mem_cons_of_mem _ hp)
    refine ⟨silencedOutcome config plan text :: outcomes,
      hfirst.andThen (hrest.andThen (Run.done_idle disk _ _)), ?_, ?_⟩
    · intro outcome houtcome
      rcases List.mem_cons.mp houtcome with rfl | houtcome
      · exact ⟨plan, text, rfl⟩
      · exact hform outcome houtcome
    · intro p hp
      rcases List.mem_cons.mp hp with rfl | hp
      · exact ⟨text, List.mem_cons_self⟩
      · obtain ⟨text', hmem⟩ := hall p hp
        exact ⟨text', List.mem_cons_of_mem _ hmem⟩

theorem runReport_idle {config : Config} (hsample : config.sample = none) (decide : Decider σ)
    (generator : Random.Twister) {report : Path} {disk : Disk} (state : σ) {text : String}
    (hreport : disk.readText report = .ok text)
    (h : ∀ plan ∈ EditPlan.ofDiagnostics (Diagnostic.ofReport (ofText text).lines),
      plan.Done config disk) :
    ∃ result, (runReport config decide generator report disk state).Idle disk result ∧
      (∀ outcome ∈ result.outcomes, ∃ plan text', outcome = silencedOutcome config plan text') ∧
      ∀ plan ∈ EditPlan.ofDiagnostics (Diagnostic.ofReport (ofText text).lines),
        ∃ text', silencedOutcome config plan text' ∈ result.outcomes := by
  have hread := readBuffer_idle hreport state
  obtain ⟨outcomes, hidle, hall⟩ :=
    runPlans_idle config decide (readBuffer report disk state).state h
  refine ⟨⟨Diagnostic.ofReport (ofText text).lines, outcomes⟩, hread.andThen ?_, hall⟩
  rw [runDiagnostics, select, hsample]
  exact (Run.done_idle disk _ _).andThen (hidle.andThen (Run.done_idle disk _ _))

/-! ## The lines of the first run -/

/-- A diagnostic that points at a line that an earlier run has dealt with: in the file of one of its
outcomes, a line that got a block or was silenced before, by the number that it has now. -/
def Diagnostic.Revisits (config : Config) (disk : Disk) (outcomes : List FileOutcome)
    (d : Diagnostic) : Prop :=
  ∃ outcome ∈ outcomes,
    disk.openPath .read (config.resolve d.path) = disk.openPath .read outcome.path ∧
    ∃ n, ((∃ edit ∈ outcome.edits, edit.line = n) ∨ ⟨n, .alreadySuppressed⟩ ∈ outcome.skips) ∧
      d.line = landing (fun e => e.block.length) outcome.edits n

theorem Settles.silenced_after {config : Config} {plan : EditPlan} {text : String}
    {outcome : FileOutcome} (h : Settles config plan text outcome) {n : Int}
    (hn : (∃ edit ∈ outcome.edits, edit.line = n) ∨ ⟨n, .alreadySuppressed⟩ ∈ outcome.skips) :
    Silenced config.directive outcome.after
      (landing (fun e => e.block.length) outcome.edits n) := by
  obtain ⟨⟨hlow, hhigh⟩, habove⟩ : (1 ≤ n ∧ n ≤ outcome.before.length) ∧
      (Suppressed config.directive outcome.before n ∨ ∃ edit ∈ outcome.edits, edit.line = n) := by
    rcases hn with ⟨edit, hedit, rfl⟩ | hskip
    · exact ⟨h.edit_bounds hedit, Or.inr ⟨edit, hedit, rfl⟩⟩
    · exact ⟨(h.suppressed n hskip).1, Or.inl (h.suppressed n hskip).2⟩
  exact (h.placed 0).silenced_after rfl hlow hhigh habove

section Revisit

variable {config : Config} {ds : List Diagnostic} {disk disk' later : Disk}
  {outcomes : List FileOutcome}

theorem RunEffect.silenced_of_revisits
    (heffect : RunEffect config (EditPlan.ofDiagnostics ds) disk outcomes disk')
    (hdirective : '\n' ∉ config.directive.toList) (htodo : '\n' ∉ config.todo.toList)
    (hone : ∀ d ∈ ds, OneLine d.message) (hapart : Apart config disk ds)
    (htree : disk'.SameTree later)
    (hfiles : ∀ outcome ∈ outcomes, ∀ location, disk.locate outcome.path = .ok location →
      later.node? location = disk'.node? location)
    {d : Diagnostic} (hd : d.Revisits config disk outcomes) :
    ∃ text, later.readText (config.resolve d.path) = .ok text ∧
      Silenced config.directive (ofText text).lines d.line := by
  obtain ⟨outcome, houtcome, hsame, n, hn, hline⟩ := hd
  obtain ⟨plan, hplan, location, old, hopen, -, hsettles, hnew⟩ := heffect.solo hapart houtcome
  refine ⟨withBlocks old outcome.edits, Disk.readText_eq_ok_iff.mpr ⟨location, ?_, ?_⟩, ?_⟩
  · exact (heffect.tree.trans htree).openPath_iff.mpr (hsame.trans hopen)
  · rw [hfiles outcome houtcome location (Disk.locate_of_openPath hopen), hnew]
  · rw [hsettles.ofText_withBlocks hdirective htodo (EditPlan.oneLine_messages hone hplan), hline]
    exact hsettles.silenced_after hn

theorem EditPlan.done_of_silenced {ds : List Diagnostic}
    (h : ∀ d ∈ ds, ∃ text, disk.readText (config.resolve d.path) = .ok text ∧
      Silenced config.directive (ofText text).lines d.line) :
    ∀ plan ∈ EditPlan.ofDiagnostics ds, plan.Done config disk := by
  intro plan hplan
  have hsite : ∀ site ∈ plan.sites, ∃ text,
      disk.readText (config.resolve plan.path) = .ok text ∧
        Silenced config.directive (ofText text).lines site.line := by
    intro site hsite
    obtain ⟨d, hd, hpath, hline⟩ := EditPlan.exists_diagnostic_of_site hplan hsite
    rw [← hpath, ← hline]
    exact h d hd
  obtain ⟨first, hfirst⟩ :=
    List.exists_mem_of_ne_nil _ ((EditPlan.ofDiagnostics_grouped ds).sites plan hplan)
  obtain ⟨text, hread, -⟩ := hsite first hfirst
  refine ⟨text, hread, fun site hmem => ?_⟩
  obtain ⟨text', hread', hsilenced⟩ := hsite site hmem
  obtain rfl : text' = text := Except.ok.inj (hread'.symm.trans hread)
  exact hsilenced

end Revisit

/-- **A second run changes nothing.** After a run that came to its end, all paths apart and no line
feed in the directive or in the word of the note: a report of any diagnostics that point at lines
with a block, or silenced before, is dealt with to its end without a change to the disk, an
insertion, a written file or a question, and all its sites are passed over as already silenced. The
disk may be the one that the first run left or another with the same files in the reported places,
so that the second report can have been written in between. -/
theorem second_run_idle {config config₂ : Config} (hdry : config.dry = false)
    (hsample : config.sample = none) (hdirective : '\n' ∉ config.directive.toList)
    (htodo : '\n' ∉ config.todo.toList) (decide : Decider σ) (generator : Random.Twister)
    {report : Path} {disk : Disk} (state : σ) {text : String}
    (hreport : disk.readText report = .ok text)
    (hapart : Apart config disk (Diagnostic.ofReport (ofText text).lines)) {result : RunResult}
    (hrun : (runReport config decide generator report disk state).result = .ok result)
    (hsame : config₂.directive = config.directive) (hbase : config₂.base = config.base)
    (hsample₂ : config₂.sample = none) (decide₂ : Decider α) (generator₂ : Random.Twister)
    {report₂ : Path} {disk₂ : Disk} (state₂ : α) {text₂ : String}
    (htree : (runReport config decide generator report disk state).disk.SameTree disk₂)
    (hfiles : ∀ outcome ∈ result.outcomes, ∀ location, disk.locate outcome.path = .ok location →
      disk₂.node? location =
        (runReport config decide generator report disk state).disk.node? location)
    (hreport₂ : disk₂.readText report₂ = .ok text₂)
    (hrevisits : ∀ d ∈ Diagnostic.ofReport (ofText text₂).lines,
      d.Revisits config disk result.outcomes) :
    let second := runReport config₂ decide₂ generator₂ report₂ disk₂ state₂
    ∃ result₂, second.result = .ok result₂ ∧ second.disk = disk₂ ∧
      result₂.inserted = 0 ∧ result₂.written = 0 ∧
      (∀ outcome ∈ result₂.outcomes, outcome.edits = [] ∧
        ∀ skip ∈ outcome.skips, skip.reason = .alreadySuppressed) ∧
      (∀ d ∈ Diagnostic.ofReport (ofText text₂).lines, ∃ outcome ∈ result₂.outcomes,
        outcome.name = d.path ∧ ⟨d.line, .alreadySuppressed⟩ ∈ outcome.skips) ∧
      askedOf second.entries = [] := by
  intro second
  obtain ⟨text', hreport', hds, heffect⟩ :=
    runReport_effect hdry hsample (Run.ends_of_result hrun)
  obtain rfl : text' = text := Except.ok.inj (hreport'.symm.trans hreport)
  rw [hds] at heffect
  have hresolve : config₂.resolve = config.resolve := by
    funext path
    rw [Config.resolve, Config.resolve, hbase]
  have hsilenced : ∀ d ∈ Diagnostic.ofReport (ofText text₂).lines, ∃ text,
      disk₂.readText (config₂.resolve d.path) = .ok text ∧
        Silenced config₂.directive (ofText text).lines d.line := by
    intro d hd
    rw [hresolve, hsame]
    exact heffect.silenced_of_revisits hdirective htodo
      (fun d hd => Diagnostic.ofReport_message hd) hapart htree hfiles (hrevisits d hd)
  obtain ⟨result₂, hidle, hform, hall⟩ := runReport_idle hsample₂ decide₂ generator₂ state₂ hreport₂
    (EditPlan.done_of_silenced hsilenced)
  have hedits : ∀ outcome ∈ result₂.outcomes, outcome.edits = [] := by
    intro outcome houtcome
    obtain ⟨plan, text', rfl⟩ := hform outcome houtcome
    rfl
  refine ⟨result₂, hidle.result, hidle.disk, ?_, ?_, fun outcome houtcome => ?_, fun d hd => ?_,
    hidle.asked⟩
  · rw [RunResult.inserted, List.flatMap_eq_nil_iff.mpr hedits, List.length_nil]
  · rw [RunResult.written, List.countP_eq_zero]
    intro outcome houtcome
    obtain ⟨plan, text', rfl⟩ := hform outcome houtcome
    simp [silencedOutcome]
  · refine ⟨hedits outcome houtcome, fun skip hskip => ?_⟩
    obtain ⟨plan, text', rfl⟩ := hform outcome houtcome
    obtain ⟨site, -, rfl⟩ := List.mem_map.mp hskip
    rfl
  · obtain ⟨plan, hplan, hpath, site, hsite, hline, -⟩ := EditPlan.exists_site hd
    obtain ⟨text', hmem⟩ := hall plan hplan
    refine ⟨_, hmem, hpath, ?_⟩
    rw [← hline]
    exact List.mem_map_of_mem hsite

/-- A second report on the same two lines, the file under another name and the report in the place
of the first. -/
theorem second_run_idle_same_log :
    let disk : Disk :=
      { nodes := [(["a.ts"], .file "// @ts-expect-error\nx\ny".toUTF8),
          (["log"], .file "a.ts(3,1): error TS1: m\na.ts(2,1): error TS1: n".toUTF8)] }
    let first := runReport ({} : Draft).freeze Decider.listed (.ofSeed 0) (Path.ofText "log")
      disk []
    let disk₂ := first.disk.put ["log"]
      (.file "./a.ts(2,9): error TS7: k\n./a.ts(5,1): error TS1: m\n".toUTF8)
    let second := runReport ({ todo := some "Later" } : Draft).freeze (Decider.fixed .embedded)
      (.ofSeed 1) (Path.ofText "log") disk₂ ()
    first.disk.node? ["a.ts"] ≠ disk.node? ["a.ts"] ∧
    ∃ result, second.result = .ok result ∧ second.disk = disk₂ ∧ result.inserted = 0 ∧
      result.written = 0 := by
  intro disk first disk₂ second
  have hreport : disk.readText (Path.ofText "log") =
      .ok "a.ts(3,1): error TS1: m\na.ts(2,1): error TS1: n" :=
    eq_ok_of_toOption (by decide +kernel)
  have hapart : Apart ({} : Draft).freeze disk (Diagnostic.ofReport
      (ofText "a.ts(3,1): error TS1: m\na.ts(2,1): error TS1: n").lines) := by
    decide +kernel
  have hrun : first.result = .ok
      { diagnostics := [⟨"a.ts", 3, 1, "TS1", "m"⟩, ⟨"a.ts", 2, 1, "TS1", "n"⟩]
        outcomes := [
          { name := "a.ts"
            path := Path.ofText "a.ts"
            edits := [⟨3, ["// m", "// @ts-expect-error TODO: fix error and remove"], "y"⟩]
            skips := [⟨2, .alreadySuppressed⟩]
            before := ["// @ts-expect-error", "x", "y"]
            after := ["// @ts-expect-error", "x", "// m",
              "// @ts-expect-error TODO: fix error and remove", "y"]
            written := true }] } :=
    eq_ok_of_toOption (by decide +kernel)
  have hlog : first.disk.node? ["log"] ≠ some .directory := by decide +kernel
  have hreport₂ : disk₂.readText (Path.ofText "log") =
      .ok "./a.ts(2,9): error TS7: k\n./a.ts(5,1): error TS1: m\n" :=
    eq_ok_of_toOption (by decide +kernel)
  have hsecond : Diagnostic.ofReport
      (ofText "./a.ts(2,9): error TS7: k\n./a.ts(5,1): error TS1: m\n").lines =
        [⟨"./a.ts", 2, 9, "TS7", "k"⟩, ⟨"./a.ts", 5, 1, "TS1", "m"⟩] := by
    decide +kernel
  have hfile : disk.locate (Path.ofText "a.ts") = .ok ["a.ts"] := by decide +kernel
  have hspelling : ({} : Draft).freeze.resolve "./a.ts" = Path.ofText "a.ts" := by decide +kernel
  have hidle := second_run_idle rfl rfl (by decide +kernel) (by decide +kernel) Decider.listed
    (.ofSeed 0) [] hreport hapart hrun
    (show ({ todo := some "Later" } : Draft).freeze.directive = _ from rfl) rfl rfl
    (Decider.fixed .embedded) (.ofSeed 1) () (Disk.sameTree_put _ hlog) ?_ hreport₂ ?_
  · obtain ⟨result, hresult, hdisk, hinserted, hwritten, -⟩ := hidle
    exact ⟨by decide +kernel, result, hresult, hdisk, hinserted, hwritten⟩
  · intro outcome houtcome location hlocate
    rw [List.mem_singleton.mp houtcome, hfile, Except.ok.injEq] at hlocate
    subst hlocate
    rw [Disk.node?_put (by decide), if_neg (by decide)]
  · rw [hsecond]
    intro d hd
    rw [List.mem_cons, List.mem_singleton] at hd
    refine ⟨_, List.mem_cons_self, ?_⟩
    rcases hd with rfl | rfl
    · exact ⟨by rw [hspelling], 2, Or.inr (by simp), by decide⟩
    · exact ⟨by rw [hspelling], 3, Or.inl ⟨_, List.mem_cons_self, rfl⟩, by decide⟩

end ExpectError
