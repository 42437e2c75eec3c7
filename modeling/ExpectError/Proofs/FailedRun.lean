import ExpectError.Proofs.PlanRun
import ExpectError.Proofs.Questions

/-!
# Runs that fail

The first fault ends a run. The plans before it have had the effect that they always have
(`runAhead_replay`: two runs that both get through them have told, asked and written the same), the
plan at fault has read, and perhaps asked (`FailedPlan`), and the plans behind it are not touched.
The file of the plan at fault is left as it was, unless its new text has no encoding: then it is
left empty (`Disk.Unwritten`). `failed_run_effect` puts this together.
-/

namespace ExpectError

open LineBuffer (ofText)

variable {σ : Type}

/-! ## Faults and paths -/

namespace Disk

variable {disk : Disk} {path : Path} {fault : IoFault}

theorem reachesFile_of_openPath {access : Access} (h : disk.openPath access path = .error fault) :
    fault.reachesFile = false ↔
      disk.denied? access path = none ∧ path.toText.toList.contains (Char.ofNat 0) = true := by
  unfold openPath at h
  split at h
  case h_1 error hdenied =>
    obtain rfl := Except.error.inj h
    simp [IoFault.reachesFile, hdenied]
  case h_2 hdenied =>
    split_ifs at h with hnul
    · obtain rfl := Except.error.inj h
      simp only [IoFault.reachesFile, hdenied, hnul, and_self]
    · rcases hlocate : disk.locate path with error | location
      · rw [hlocate] at h
        obtain rfl := Except.error.inj h
        simp only [IoFault.reachesFile, hnul, and_false, reduceCtorEq]
      · rw [hlocate] at h
        cases h

theorem reachesFile_of_readText (h : disk.readText path = .error fault) :
    fault.reachesFile = false ↔
      disk.denied? .read path = none ∧ path.toText.toList.contains (Char.ofNat 0) = true := by
  rcases readText_eq_error_iff.mp h with hopen | ⟨location, hopen, hfault⟩
  · exact reachesFile_of_openPath hopen
  · -- the path has been passed on, so the fault is one of the file
    have hnul := (openPath_eq_ok_iff.mp hopen).2.1
    have hreaches : fault.reachesFile = true := by
      rcases hfault with ⟨-, rfl⟩ | ⟨-, rfl⟩ | ⟨_, _, -, -, rfl⟩ <;> rfl
    simp only [hreaches, hnul, and_false, reduceCtorEq, Bool.true_eq_false]

theorem openPath_ne_unencodable {access : Access} {wrong : Text.EncodeFault} :
    disk.openPath access path ≠ .error (.unencodable wrong) := by
  unfold openPath
  split
  · simp
  · split_ifs
    · simp
    · rcases disk.locate path with error | location <;> simp [Except.mapError]

theorem readText_ne_unencodable {wrong : Text.EncodeFault} :
    disk.readText path ≠ .error (.unencodable wrong) := by
  simp [readText_eq_error_iff, openPath_ne_unencodable]

theorem placeToWrite_ne_unencodable {wrong : Text.EncodeFault} :
    disk.placeToWrite path ≠ .error (.unencodable wrong) := by
  simp [placeToWrite_eq_error_iff, openPath_ne_unencodable]

/-- How a text fails to be written, and what is left: the path cannot be opened, and nothing has
changed, or a half of a pair is in the text, and the file is empty. -/
inductive Unwritten (disk : Disk) (path : Path) (text : String) : IoFault → Disk → Prop
  | unopened {fault : IoFault} (hplace : disk.placeToWrite path = .error fault) :
    Unwritten disk path text fault disk
  | emptied {wrong : Text.EncodeFault} {location : Location}
    (hplace : disk.placeToWrite path = .ok location)
    (hhalf : Text.FirstHalves disk.halves 0 text.toList wrong) :
    Unwritten disk path text (.unencodable wrong) (disk.put location (.file .empty))

theorem unwritten_of_writeText {text : String} {left : Disk}
    (h : disk.writeText path text = .error (fault, left)) :
    disk.Unwritten path text fault left := by
  unfold writeText at h
  rcases hplace : disk.placeToWrite path with refused | location
  · rw [hplace] at h
    obtain ⟨rfl, rfl⟩ := Prod.mk.inj (Except.error.inj h)
    exact .unopened hplace
  · rw [hplace] at h
    rcases hencode : Text.encode disk.halves text with wrong | bytes
    · simp only [hencode] at h
      obtain ⟨rfl, rfl⟩ := Prod.mk.inj (Except.error.inj h)
      exact .emptied hplace (Text.encode_firstHalves hencode)
    · simp only [hencode] at h
      cases h

theorem Unwritten.reachesFile {text new : String} {left : Disk}
    (h : disk.Unwritten path new fault left) (hread : disk.readText path = .ok text) :
    fault.reachesFile = true := by
  cases h with
  | emptied => rfl
  | unopened hplace =>
    obtain ⟨_, hopen, -⟩ := readText_eq_ok_iff.mp hread
    have hnul := (openPath_eq_ok_iff.mp hopen).2.1
    rcases placeToWrite_eq_error_iff.mp hplace with hopen' | ⟨_, _, -, rfl⟩
    · have hiff := reachesFile_of_openPath hopen'
      simpa only [hnul, and_false, iff_false, Bool.not_eq_false, Bool.false_eq_true] using hiff
    · rfl

/-- A text that fails to be written leaves all as it was, unless it has no encoding and there was a
text before. -/
theorem Unwritten.kept_iff {text new : String} {left : Disk}
    (h : disk.Unwritten path new fault left) (hread : disk.readText path = .ok text) :
    (∀ location, left.node? location = disk.node? location) ↔
      ∀ wrong, fault = .unencodable wrong → text = "" := by
  cases h with
  | unopened hplace =>
    refine ⟨fun _ wrong hwrong => ?_, fun _ _ => rfl⟩
    rw [hwrong] at hplace
    exact absurd hplace placeToWrite_ne_unencodable
  | @emptied wrong place hplace =>
    obtain ⟨hopen, hfree⟩ := placeToWrite_eq_ok_iff.mp hplace
    obtain ⟨location, hopen', hnode⟩ := readText_eq_ok_iff.mp hread
    obtain rfl := openPath_unique rfl hopen hopen'
    have hput := node?_put (ne_root_of_node?_ne hfree) disk (.file .empty)
    constructor
    · intro hkept _ _
      have hsame := (hput location).symm.trans (hkept location)
      rw [if_pos rfl, hnode, Option.some.injEq, Node.file.injEq] at hsame
      exact (String.toByteArray_inj.mp hsame).symm
    · intro hempty other
      rw [hput]
      split_ifs with heq
      · rw [heq, hnode, hempty wrong rfl]
        rfl
      · rfl

end Disk

/-! ## What is told of the sites -/

/-- The event tells of a site: a block was inserted there, or it was passed over. -/
def Event.TellsOf (name : String) (preview : Bool) (site : Site) : Event → Prop
  | .edit told inserted shown => told = name ∧ inserted.line = site.line ∧ shown = preview
  | .skip told passed => told = name ∧ passed.line = site.line
  | _ => False

namespace Mutation

variable (rules : SiteRules) (decide : Decider σ)

theorem exists_step_of_record {sites : List Site} {lines : List String} {state : σ}
    {record : SiteRecord} (h : record ∈ (apply rules decide sites lines state).records) :
    ∃ site lines state, record.asked = (applySite rules decide site lines state).asked := by
  induction sites generalizing lines state with
  | nil => cases h
  | cons site sites ih =>
    rcases apply_cons_eq rules decide site sites lines state with ⟨-, hrun⟩ | ⟨-, hrun⟩
    · rw [hrun, List.mem_singleton] at h
      exact ⟨site, lines, state, by rw [h]⟩
    · rw [hrun] at h
      rcases List.mem_cons.mp h with rfl | h
      · exact ⟨site, lines, state, rfl⟩
      · exact ih h

theorem question_of_record {sites : List Site} {lines : List String} {state : σ}
    {record : SiteRecord} (h : record ∈ (apply rules decide sites lines state).records)
    {asked : Asked} (hasked : record.asked = some asked) :
    asked.question.path = rules.path ∧ asked.question.filesRemaining = rules.filesRemaining := by
  obtain ⟨site, lines, state, hstep⟩ := exists_step_of_record rules decide h
  rw [hstep] at hasked
  obtain ⟨-, -, hquestion, -⟩ := (applySite_asked_iff rules decide site lines state).mp hasked
  rw [((question?_eq_some_iff rules site lines).mp hquestion).2]
  exact ⟨rfl, rfl⟩

theorem apply_tells (preview : Bool) (sites : List Site) (lines : List String) (state : σ) :
    ∃ dealt rest, sites = dealt ++ rest ∧
      List.Forall₂ (Event.TellsOf rules.path preview) dealt
        (eventsOf ((apply rules decide sites lines state).records.map
          (.site rules.path preview))) ∧
      ((apply rules decide sites lines state).abandoned = false ↔ rest = []) := by
  induction sites generalizing lines state with
  | nil => exact ⟨[], [], rfl, .nil, by simp [apply, abandoned]⟩
  | cons site sites ih =>
    obtain ⟨hends, -⟩ := applySite_endsAs rules decide site lines state
    rcases apply_cons_eq rules decide site sites lines state with ⟨hgone, hrun⟩ | ⟨hgoing, hrun⟩
    · refine ⟨[], site :: sites, rfl, ?_, ?_⟩
      · simp [hrun, eventsOf, Entry.event?, hgone]
      · simp [hrun, abandoned, hgone]
    · obtain ⟨dealt, rest, hsites, htells, hall⟩ := ih
        (applySite rules decide site lines state).lines
        (applySite rules decide site lines state).state
      refine ⟨site :: dealt, rest, by rw [hsites, List.cons_append], ?_, ?_⟩
      · have hline := hends.line?_eq hgoing
        rw [hrun, eventsOf, List.map_cons, List.filterMap_cons]
        rcases hend : (applySite rules decide site lines state).ending with edit | skip | _
        · rw [hend] at hline
          exact .cons ⟨rfl, Option.some.inj hline, rfl⟩ htells
        · rw [hend] at hline
          exact .cons ⟨rfl, Option.some.inj hline⟩ htells
        · exact absurd hend hgoing
      · rw [← hall, hrun]
        simp [abandoned, hgoing]

end Mutation

/-! ## The files ahead -/

section Ahead

variable (config : Config) (decide : Decider σ)

/-- Deals with the files of several plans, with so many more to come. -/
def runAhead (more : Nat) : List EditPlan → Disk → σ → Run σ (List FileOutcome)
  | [], disk, state => .done disk state []
  | plan :: plans, disk, state =>
    (runPlan config decide (plans.length + more) plan disk state).andThen fun disk state outcome =>
    (runAhead more plans disk state).andThen fun disk state outcomes =>
    .done disk state (outcome :: outcomes)

theorem runPlans_append (first rest : List EditPlan) (disk : Disk) (state : σ) :
    runPlans config decide (first ++ rest) disk state =
      (runAhead config decide rest.length first disk state).andThen fun disk state outcomes =>
      (runPlans config decide rest disk state).andThen fun disk state others =>
      .done disk state (outcomes ++ others) := by
  induction first generalizing disk state with
  | nil => exact (Run.andThen_done _).symm
  | cons plan first ih =>
    simp only [List.cons_append, runPlans, runAhead, List.length_append, ih, Run.andThen_assoc,
      Run.done_andThen]

variable {config decide}

theorem runAhead_cons {more : Nat} {plan : EditPlan} {plans : List EditPlan} {disk : Disk}
    {state : σ} {own : Run σ FileOutcome} {outcome : FileOutcome} {outcomes : List FileOutcome}
    (hown : runPlan config decide (plans.length + more) plan disk state = own)
    (houtcome : own.result = .ok outcome)
    (hrest : (runAhead config decide more plans own.disk own.state).result = .ok outcomes) :
    runAhead config decide more (plan :: plans) disk state =
      ⟨(runAhead config decide more plans own.disk own.state).disk,
        (runAhead config decide more plans own.disk own.state).state,
        own.entries ++ (runAhead config decide more plans own.disk own.state).entries,
        .ok (outcome :: outcomes)⟩ := by
  rw [runAhead, hown, Run.andThen_of_ok houtcome, Run.andThen_of_ok hrest]
  simp [Run.done]

theorem runAhead_cons_ends {more : Nat} {plan : EditPlan} {plans : List EditPlan} {disk : Disk}
    {state : σ}
    (h : (runAhead config decide more (plan :: plans) disk state).result.isOk = true) :
    ∃ outcome outcomes,
      let own := runPlan config decide (plans.length + more) plan disk state
      own.result = .ok outcome ∧
        (runAhead config decide more plans own.disk own.state).result = .ok outcomes := by
  obtain ⟨outcomes, h⟩ := exists_eq_ok h
  obtain ⟨_, outcome, hown, h⟩ := Run.andThen_ends (Run.ends_of_result h)
  obtain ⟨_, others, hrest, -⟩ := Run.andThen_ends h
  obtain rfl := hown.disk
  exact ⟨outcome, others, hown.result, hrest.result⟩

theorem runPlans_fails {plans : List EditPlan} {disk : Disk} {state : σ} {error : RunError}
    (h : (runPlans config decide plans disk state).result = .error error) :
    ∃ done plan later outcomes, plans = done ++ plan :: later ∧
      let before := runAhead config decide (later.length + 1) done disk state
      let own := runPlan config decide later.length plan before.disk before.state
      before.result = .ok outcomes ∧ own.result = .error error ∧
        runPlans config decide plans disk state =
          ⟨own.disk, own.state, before.entries ++ own.entries, .error error⟩ := by
  induction plans generalizing disk state with
  | nil => cases h
  | cons plan plans ih =>
    rw [runPlans] at h ⊢
    rcases hown : (runPlan config decide plans.length plan disk state).result with fault | outcome
    · rw [Run.andThen_of_error hown] at h ⊢
      obtain rfl : fault = error := Except.error.inj h
      exact ⟨[], plan, plans, [], rfl, rfl, hown, rfl⟩
    · rw [Run.andThen_of_ok hown] at h ⊢
      set middle := runPlan config decide plans.length plan disk state
      rcases hrest : (runPlans config decide plans middle.disk middle.state).result
        with fault | others
      case ok =>
        rw [Run.andThen_of_ok hrest] at h
        cases h
      rw [Run.andThen_of_error hrest] at h ⊢
      obtain rfl : fault = error := Except.error.inj h
      obtain ⟨done, failed, later, outcomes, rfl, hbefore, hfailed, hrun⟩ := ih hrest
      refine ⟨plan :: done, failed, later, outcome :: outcomes, rfl, ?_⟩
      have hmiddle : runPlan config decide (done.length + (later.length + 1)) plan disk state =
          middle := by
        simp only [middle, List.length_append, List.length_cons]
      rw [runAhead_cons hmiddle hown hbefore, hrun]
      exact ⟨rfl, hfailed, by simp only [List.append_assoc]⟩

/-! ## The same files on two disks -/

/-- The disk with files put at places, one after the other. -/
def Disk.putAll (disk : Disk) (files : List (Location × ByteArray)) : Disk :=
  files.foldl (fun disk file => disk.put file.1 (.file file.2)) disk

theorem Disk.putAll_append (disk : Disk) (files more : List (Location × ByteArray)) :
    disk.putAll (files ++ more) = (disk.putAll files).putAll more :=
  List.foldl_append

/-- The paths of the plans lead to the same files on both disks. The disks may differ elsewhere, and
in what they deny. -/
structure SameFiles (config : Config) (plans : List EditPlan) (disk disk' : Disk) : Prop where
  cwd : disk'.cwd = disk.cwd
  node : ∀ plan ∈ plans, ∀ location, disk.locate (config.resolve plan.path) = .ok location →
    disk'.node? location = disk.node? location

namespace SameFiles

variable {plans : List EditPlan} {disk disk' : Disk} (h : SameFiles config plans disk disk')

include h

theorem readText {plan : EditPlan} (hplan : plan ∈ plans) {text text' : String}
    (hread : disk.readText (config.resolve plan.path) = .ok text)
    (hread' : disk'.readText (config.resolve plan.path) = .ok text') : text' = text := by
  obtain ⟨location, hopen, hnode⟩ := Disk.readText_eq_ok_iff.mp hread
  obtain ⟨location', hopen', hnode'⟩ := Disk.readText_eq_ok_iff.mp hread'
  obtain rfl := Disk.openPath_unique h.cwd hopen hopen'
  rw [h.node plan hplan _ (Disk.locate_of_openPath hopen), hnode, Option.some.injEq,
    Node.file.injEq] at hnode'
  exact (String.toByteArray_inj.mp hnode').symm

theorem writeText {path : Path} {text : String} {next next' : Disk}
    (hwrite : disk.writeText path text = .ok next)
    (hwrite' : disk'.writeText path text = .ok next') :
    ∃ file : Location × ByteArray, next = disk.putAll [file] ∧ next' = disk'.putAll [file] ∧
      SameFiles config plans next next' := by
  obtain ⟨location, hopen, hfree, -, rfl⟩ := Disk.writeText_eq_ok_iff.mp hwrite
  obtain ⟨location', hopen', hfree', -, rfl⟩ := Disk.writeText_eq_ok_iff.mp hwrite'
  obtain rfl := Disk.openPath_unique h.cwd hopen hopen'
  refine ⟨(location', text.toUTF8), rfl, rfl, h.cwd, fun plan hplan place hplace => ?_⟩
  have hroot := Disk.ne_root_of_node?_ne hfree
  rw [(Disk.sameTree_put _ hfree).locate_iff] at hplace
  rw [Disk.node?_put hroot, Disk.node?_put hroot, h.node plan hplan place hplace]

end SameFiles

/-- **One file on two disks.** If both come to their end then both tell, ask and write the same. -/
theorem runPlan_replay {plans : List EditPlan} {disk disk' : Disk}
    (h : SameFiles config plans disk disk') {plan : EditPlan} (hplan : plan ∈ plans)
    {remaining : Nat} {state : σ} {outcome outcome' : FileOutcome}
    (hown : (runPlan config decide remaining plan disk state).result = .ok outcome)
    (hown' : (runPlan config decide remaining plan disk' state).result = .ok outcome') :
    let own := runPlan config decide remaining plan disk state
    let own' := runPlan config decide remaining plan disk' state
    ∃ files, own.disk = disk.putAll files ∧
      own' = ⟨disk'.putAll files, own.state, own.entries, own.result⟩ ∧
      SameFiles config plans own.disk own'.disk := by
  intro own own'
  obtain ⟨text, mutation, hread, hmutation, -, houtcome, hrun⟩ := (runPlan_planRun ..).of_ok hown
  obtain ⟨text', mutation', hread', hmutation', -, houtcome', hrun'⟩ :=
    (runPlan_planRun ..).of_ok hown'
  obtain rfl := h.readText hplan hread hread'
  obtain rfl := hmutation'.trans hmutation.symm
  obtain rfl := houtcome'.trans houtcome.symm
  rcases hrun with ⟨hkept, hrun⟩ | ⟨hchanged, next, hwrite, hrun⟩
  · rcases hrun' with ⟨-, hrun'⟩ | ⟨hchanged', -⟩
    · simp only [own, own', hrun, hrun']
      exact ⟨[], rfl, rfl, h⟩
    · rw [hkept] at hchanged'
      cases hchanged'
  · rcases hrun' with ⟨hkept', -⟩ | ⟨-, next', hwrite', hrun'⟩
    · rw [hchanged] at hkept'
      cases hkept'
    · obtain ⟨file, rfl, rfl, hsame⟩ := h.writeText hwrite hwrite'
      simp only [own, own', hrun, hrun']
      exact ⟨[file], rfl, rfl, hsame⟩

theorem runAhead_replay {all plans : List EditPlan} (hall : ∀ plan ∈ plans, plan ∈ all)
    {disk disk' : Disk} (h : SameFiles config all disk disk') {more : Nat} {state : σ}
    (hends : (runAhead config decide more plans disk state).result.isOk = true)
    (hends' : (runAhead config decide more plans disk' state).result.isOk = true) :
    let run := runAhead config decide more plans disk state
    ∃ files, run.disk = disk.putAll files ∧
      runAhead config decide more plans disk' state =
        ⟨disk'.putAll files, run.state, run.entries, run.result⟩ := by
  induction plans generalizing disk disk' state with
  | nil => exact ⟨[], rfl, rfl⟩
  | cons plan plans ih =>
    intro run
    obtain ⟨outcome, outcomes, hown, hrest⟩ := runAhead_cons_ends hends
    obtain ⟨outcome', outcomes', hown', hrest'⟩ := runAhead_cons_ends hends'
    obtain ⟨files, hdisk, hreplay, hnext⟩ :=
      runPlan_replay h (hall plan List.mem_cons_self) hown hown'
    rw [hreplay] at hrest' hnext
    obtain ⟨others, hdisk', hreplay'⟩ := ih (fun p hp => hall p (List.mem_cons_of_mem _ hp)) hnext
      (by rw [hrest]; rfl) (by rw [hrest']; rfl)
    have hresult' := (congrArg Run.result hreplay').trans hrest
    refine ⟨files ++ others, ?_, ?_⟩
    · rw [Disk.putAll_append, ← hdisk, ← hdisk']
      simp only [run, runAhead_cons rfl hown hrest]
    · simp only [run, runAhead_cons rfl hown hrest, runAhead_cons hreplay hown hresult', hreplay',
        Disk.putAll_append]

/-! ## What is told of each file -/

/-- The entry is about a file with so many more to come, and so is a question in it. -/
def Entry.About (config : Config) (plan : EditPlan) (remaining : Nat) : Entry → Prop
  | .sampled .. => False
  | .processing path sites => path = config.resolve plan.path ∧ sites = plan.sites.length
  | .read path _ => path = config.resolve plan.path
  | .site name preview record =>
    name = plan.path ∧ preview = config.dry ∧ ∀ asked, record.asked = some asked →
      asked.question.path = plan.path ∧ asked.question.filesRemaining = remaining
  | .wrote path _ => path = config.resolve plan.path
  | .finished outcome => outcome.name = plan.path ∧ outcome.path = config.resolve plan.path

theorem PlanRun.about {remaining : Nat} {plan : EditPlan} {disk : Disk} {state : σ}
    {run : Run σ FileOutcome} (h : PlanRun config decide remaining plan disk state run) :
    ∀ entry ∈ run.entries, entry.About config plan remaining := by
  have hopening : ∀ fault, ∀ entry ∈ plan.opening config fault,
      entry.About config plan remaining := by
    simp [EditPlan.opening, Entry.About]
  have htold : ∀ mutation lines, mutation = plan.mutation config decide remaining lines state →
      ∀ entry ∈ plan.told config mutation, entry.About config plan remaining := by
    rintro _ lines rfl entry hentry
    obtain ⟨record, hrecord, rfl⟩ := List.mem_map.mp hentry
    exact ⟨rfl, rfl, fun asked hasked => Mutation.question_of_record _ decide hrecord hasked⟩
  cases h with
  | unread => exact hopening _
  | abandoned hread hmutation hgone =>
    rw [List.forall_mem_append]
    exact ⟨hopening _, htold _ _ hmutation⟩
  | kept hread hmutation hgoing hkept =>
    rw [List.forall_mem_append, List.forall_mem_append]
    exact ⟨hopening _, htold _ _ hmutation, by simp [Entry.About, EditPlan.outcome]⟩
  | unwritten hread hmutation hgoing hchanged hwrite =>
    rw [List.forall_mem_append, List.forall_mem_append]
    exact ⟨hopening _, htold _ _ hmutation, by simp [Entry.About]⟩
  | written hread hmutation hgoing hchanged hwrite =>
    rw [List.forall_mem_append, List.forall_mem_append]
    exact ⟨hopening _, htold _ _ hmutation, by simp [Entry.About, EditPlan.outcome]⟩

/-- The history of the first plans, one part for each of them: the part at position `i` is about the
plan there, with all plans from `i + 1` on still to come. -/
def Told (config : Config) (plans : List EditPlan) (parts : List (List Entry)) : Prop :=
  ∀ i plan (part : List Entry), plans[i]? = some plan → parts[i]? = some part →
    ∀ entry ∈ part, entry.About config plan (plans.length - i - 1)

theorem Told.cons {plan : EditPlan} {plans : List EditPlan} {part : List Entry}
    {parts : List (List Entry)} (h : Told config plans parts)
    (hpart : ∀ entry ∈ part, entry.About config plan plans.length) :
    Told config (plan :: plans) (part :: parts) := by
  intro i plan' part' hplan hpart'
  cases i with
  | zero =>
    obtain rfl : plan = plan' := Option.some.inj hplan
    obtain rfl : part = part' := Option.some.inj hpart'
    exact hpart
  | succ i =>
    have hi := h i plan' part' hplan hpart'
    rwa [List.length_cons, show plans.length + 1 - (i + 1) - 1 = plans.length - i - 1 by omega]

theorem runAhead_told {plans : List EditPlan} (tail : List EditPlan) {disk : Disk} {state : σ}
    (h : (runAhead config decide tail.length plans disk state).result.isOk = true) :
    ∃ parts, (runAhead config decide tail.length plans disk state).entries = parts.flatten ∧
      parts.length = plans.length ∧ Told config (plans ++ tail) parts := by
  induction plans generalizing disk state with
  | nil => exact ⟨[], rfl, rfl, by simp [Told]⟩
  | cons plan plans ih =>
    obtain ⟨outcome, outcomes, hown, hrest⟩ := runAhead_cons_ends h
    obtain ⟨parts, hentries, hlength, htold⟩ := ih (by rw [hrest]; rfl)
    have hpart := (runPlan_planRun config decide (plans.length + tail.length) plan disk state).about
    rw [← List.length_append] at hpart
    refine ⟨_ :: parts, ?_, by rw [List.length_cons, hlength, List.length_cons], htold.cons hpart⟩
    rw [runAhead_cons rfl hown hrest, List.flatten_cons, ← hentries, List.length_append]

/-- How dealing with a file fails, with the entries, the disk and the state behind it. -/
inductive FailedPlan (config : Config) (decide : Decider σ) (remaining : Nat) (plan : EditPlan)
    (disk : Disk) (state : σ) (own : List Entry) : Disk → σ → RunError → Prop
  /-- It cannot be read. That is the one event, or none if the path cannot be passed on; nothing is
  asked. -/
  | read {fault : IoFault} (hread : disk.readText (config.resolve plan.path) = .error fault)
    (hevents : eventsOf own =
      if fault.reachesFile then [.io .read (config.resolve plan.path) (some fault)] else [])
    (hreaches : fault.reachesFile = false ↔
      disk.denied? .read (config.resolve plan.path) = none ∧
        (config.resolve plan.path).toText.toList.contains (Char.ofNat 0) = true)
    (hasked : askedOf own = []) :
    FailedPlan config decide remaining plan disk state own disk state (.io fault)
  /-- It cannot be written. The events are the read, one for each site, and the write. -/
  | write {fault : IoFault} {text : String} {mutation : Mutation σ} {told : List Event}
    {left : Disk}
    (hread : disk.readText (config.resolve plan.path) = .ok text)
    (hmutation : mutation = plan.mutation config decide remaining (ofText text).lines state)
    (hwrite : disk.Unwritten (config.resolve plan.path)
      (LineBuffer.toText ⟨mutation.lines, (ofText text).newline⟩) fault left)
    (hevents : eventsOf own = .io .read (config.resolve plan.path) none ::
      (told ++ [.io .write (config.resolve plan.path) (some fault)]))
    (htold : List.Forall₂ (Event.TellsOf plan.path config.dry) plan.sites told)
    (hasked : askedOf own = mutation.asked) :
    FailedPlan config decide remaining plan disk state own left mutation.state (.io fault)
  /-- The decision source gives up. The events are the read, and one for each site before. -/
  | abandoned {text : String} {mutation : Mutation σ} {told : List Event} {dealt rest : List Site}
    (hread : disk.readText (config.resolve plan.path) = .ok text)
    (hmutation : mutation = plan.mutation config decide remaining (ofText text).lines state)
    (hgone : mutation.abandoned = true)
    (hevents : eventsOf own = .io .read (config.resolve plan.path) none :: told)
    (hsites : plan.sites = dealt ++ rest) (hrest : rest ≠ [])
    (htold : List.Forall₂ (Event.TellsOf plan.path config.dry) dealt told)
    (hasked : askedOf own = mutation.asked) :
    FailedPlan config decide remaining plan disk state own disk mutation.state .abandoned

theorem FailedPlan.kept_iff {remaining : Nat} {plan : EditPlan} {disk left : Disk}
    {state state' : σ} {own : List Entry} {error : RunError}
    (h : FailedPlan config decide remaining plan disk state own left state' error) :
    (∀ location, left.node? location = disk.node? location) ↔
      ∀ wrong, error = .io (.unencodable wrong) →
        disk.readText (config.resolve plan.path) = .ok "" := by
  cases h with
  | read hread =>
    refine ⟨fun _ wrong hwrong => ?_, fun _ _ => rfl⟩
    rw [RunError.io.inj hwrong] at hread
    exact absurd hread Disk.readText_ne_unencodable
  | write hread hmutation hwrite =>
    simp only [hwrite.kept_iff hread, hread, Except.ok.injEq, RunError.io.injEq]
  | abandoned => exact ⟨fun _ _ hwrong => (by cases hwrong), fun _ _ => rfl⟩

theorem eventsOf_unread (path : Path) (fault : IoFault) :
    eventsOf [.read path (some fault)] =
      if fault.reachesFile then [.io .read path (some fault)] else [] := by
  cases h : fault.reachesFile <;> simp [eventsOf, Entry.event?, Event.ofOperation, h]

theorem eventsOf_unwritten (path : Path) {fault : IoFault} (h : fault.reachesFile = true) :
    eventsOf [.wrote path (some fault)] = [.io .write path (some fault)] := by
  simp [eventsOf, Entry.event?, Event.ofOperation, h]

theorem EditPlan.tells {remaining : Nat} {plan : EditPlan} {lines : List String} {state : σ}
    {mutation : Mutation σ} (h : mutation = plan.mutation config decide remaining lines state) :
    ∃ dealt rest, plan.sites = dealt ++ rest ∧
      List.Forall₂ (Event.TellsOf plan.path config.dry) dealt
        (eventsOf (plan.told config mutation)) ∧
      (mutation.abandoned = false ↔ rest = []) := by
  subst h
  exact Mutation.apply_tells ⟨config, plan.path, config.directive, remaining⟩ decide config.dry
    plan.sites lines state

theorem PlanRun.of_error {remaining : Nat} {plan : EditPlan} {disk : Disk} {state : σ}
    {run : Run σ FileOutcome} {error : RunError}
    (h : PlanRun config decide remaining plan disk state run) (herror : run.result = .error error) :
    FailedPlan config decide remaining plan disk state run.entries run.disk run.state error := by
  cases h with
  | kept => cases herror
  | written => cases herror
  | unread hread =>
    obtain rfl := Except.error.inj herror
    exact .read hread (eventsOf_unread _ _) (Disk.reachesFile_of_readText hread) rfl
  | abandoned hread hmutation hgone =>
    obtain rfl := Except.error.inj herror
    obtain ⟨dealt, rest, hsites, htells, hall⟩ := EditPlan.tells hmutation
    have hrest : rest ≠ [] := mt hall.mpr (by rw [hgone]; decide)
    refine .abandoned hread hmutation hgone ?_ hsites hrest htells ?_
    · rw [eventsOf_append, eventsOf_opening]
      rfl
    · rw [askedOf_append, askedOf_opening, askedOf_told, List.nil_append]
  | unwritten hread hmutation hgoing hchanged hwrite =>
    obtain rfl := Except.error.inj herror
    obtain ⟨dealt, rest, hsites, htells, hall⟩ := EditPlan.tells hmutation
    rw [hall.mp hgoing, List.append_nil] at hsites
    rw [← hsites] at htells
    have hunwritten := Disk.unwritten_of_writeText hwrite
    refine .write hread hmutation hunwritten ?_ htells (askedOf_plan _ _ _ rfl)
    rw [eventsOf_append, eventsOf_append, eventsOf_opening,
      eventsOf_unwritten _ (hunwritten.reachesFile hread)]
    rfl

variable (config decide)

/-- **A failed run leaves the plans before the fault done, and nothing else.** If a run over plans
fails then it does so at one of them:

* the plans before it came to their end, and the disk is as they left it, unless the new text of the
  file at fault has no encoding: then that file, and no other, is left empty;
* what was told is what was told of these plans, one part for each, and then what was told of the
  plan at fault, which ends with the read or the write that failed;
* the error is the one of that read or write, or the decision source gave up;
* in any other run that gets as far, such as one in which the fault does not occur, the plans before
  it tell, ask and write the same: whatever other plans follow, as many as here, and on any disk
  that has the same files for them, whatever it denies.

If the report cannot be read then that is all that happens. -/
theorem failed_run_effect (disk : Disk) (state : σ) :
    (∀ plans error, (runPlans config decide plans disk state).result = .error error →
      ∃ done plan later own,
        let run := runPlans config decide plans disk state
        let before := runAhead config decide (later.length + 1) done disk state
        plans = done ++ plan :: later ∧
        before.result.isOk = true ∧
        run.entries = before.entries ++ own ∧
        (∀ entry ∈ own, entry.About config plan later.length) ∧
        FailedPlan config decide later.length plan before.disk before.state own run.disk run.state
          error ∧
        ((∀ location, run.disk.node? location = before.disk.node? location) ↔
          ∀ wrong, error = .io (.unencodable wrong) →
            before.disk.readText (config.resolve plan.path) = .ok "") ∧
        (∃ parts, before.entries = parts.flatten ∧ parts.length = done.length ∧
          Told config plans parts) ∧
        ∀ disk' others, SameFiles config done disk disk' → others.length = later.length + 1 →
          let before' := runAhead config decide others.length done disk' state
          before'.result.isOk = true →
            before'.entries = before.entries ∧ before'.state = before.state ∧
            before'.result = before.result ∧
            (∃ files, before.disk = disk.putAll files ∧ before'.disk = disk'.putAll files) ∧
            runPlans config decide (done ++ others) disk' state =
              before'.andThen fun disk state outcomes =>
              (runPlans config decide others disk state).andThen fun disk state more =>
              .done disk state (outcomes ++ more)) ∧
    ∀ generator report fault, disk.readText report = .error fault →
      runReport config decide generator report disk state =
        ⟨disk, state, [.read report (some fault)], .error (.io fault)⟩ ∧
      eventsOf [.read report (some fault)] =
        (if fault.reachesFile then [.io .read report (some fault)] else []) := by
  refine ⟨?_, ?_⟩
  · intro plans error herror
    obtain ⟨done, plan, later, outcomes, rfl, hbefore, hown, hrun⟩ := runPlans_fails herror
    have hends :
        (runAhead config decide (later.length + 1) done disk state).result.isOk = true := by
      rw [hbefore]
      rfl
    have hplan := runPlan_planRun config decide later.length plan
      (runAhead config decide (later.length + 1) done disk state).disk
      (runAhead config decide (later.length + 1) done disk state).state
    have hfailed := hplan.of_error hown
    refine ⟨done, plan, later, _, rfl, hends, by rw [hrun], hplan.about,
      by rw [hrun]; exact hfailed, by rw [hrun]; exact hfailed.kept_iff,
      runAhead_told (plan :: later) hends, ?_⟩
    intro disk' others hsame hlength before' hends'
    have happend := runPlans_append config decide done others disk' state
    simp only [before'] at hends' ⊢
    rw [hlength] at hends' happend ⊢
    obtain ⟨files, hfiles, hreplay⟩ := runAhead_replay (fun _ h => h) hsame hends hends'
    refine ⟨?_, ?_, ?_, ⟨files, hfiles, ?_⟩, happend⟩
    all_goals rw [hreplay]
  · intro generator report fault hread
    refine ⟨?_, eventsOf_unread report fault⟩
    rw [runReport, readBuffer, hread]
    rfl

end Ahead

/-- Of three files the second cannot be written. The first has been, and the third is not touched;
with leave to write the second, the first goes the same way. -/
theorem failed_run_effect_denied :
    let config := ({} : Draft).freeze
    let plans : List EditPlan :=
      [⟨"a.ts", [⟨1, ["m"]⟩]⟩, ⟨"b.tsx", [⟨2, ["n"]⟩, ⟨9, ["o"]⟩]⟩, ⟨"c.ts", [⟨1, ["p"]⟩]⟩]
    let free : Disk :=
      { nodes := [(["a.ts"], .file "x".toUTF8), (["b.tsx"], .file "</b>\ny".toUTF8),
          (["c.ts"], .file "z".toUTF8)] }
    let disk : Disk := { free with denials := [⟨"b.tsx", .write, .accessDenied⟩] }
    let run := runPlans config Decider.listed plans disk [.embedded]
    let before := runAhead config Decider.listed 2 (plans.take 1) disk [.embedded]
    let before' := runAhead config Decider.listed 2 (plans.take 1) free [.embedded]
    run.result = .error (.io (.system .accessDenied (some "b.tsx"))) ∧
    (∀ location, run.disk.node? location = before.disk.node? location) ∧
    run.disk.node? ["a.ts"] =
      some (.file "// m\n// @ts-expect-error TODO: fix error and remove\nx".toUTF8) ∧
    run.disk.node? ["b.tsx"] = disk.node? ["b.tsx"] ∧ (askedOf run.entries).length = 1 ∧
    (eventsOf run.entries).length = 8 ∧ before'.entries = before.entries ∧
    before'.result = before.result := by
  intro config plans free disk run before before'
  have herror : run.result = .error (.io (.system .accessDenied (some "b.tsx"))) := by
    decide +kernel
  have hnode : run.disk.node? ["a.ts"] =
      some (.file "// m\n// @ts-expect-error TODO: fix error and remove\nx".toUTF8) := by
    decide +kernel
  obtain ⟨done, plan, later, own, hplans, hends, -, -, -, hkept, -, hreplay⟩ :=
    (failed_run_effect config Decider.listed disk [.embedded]).1 plans _ herror
  have hdisk := hkept.mpr fun wrong hwrong => by cases hwrong
  -- the fault is at the second file: the first was written, and both did not come to their end
  rcases done with _ | ⟨first, _ | ⟨second, done⟩⟩
  · have hsame : run.disk.node? ["a.ts"] = disk.node? ["a.ts"] := hdisk ["a.ts"]
    exact absurd (hnode.symm.trans hsame) (by decide +kernel)
  · simp only [plans, List.singleton_append, List.cons.injEq] at hplans
    obtain ⟨rfl, rfl, rfl⟩ := hplans
    obtain ⟨hentries, -, hresult, -⟩ := hreplay free (plans.drop 1) ⟨rfl, fun _ _ _ _ => rfl⟩ rfl
      (by decide +kernel)
    exact ⟨herror, hdisk, hnode, by decide +kernel, by decide +kernel, by decide +kernel,
      hentries, hresult⟩
  · simp only [plans, List.cons_append, List.cons.injEq] at hplans
    obtain ⟨rfl, rfl, hlater⟩ := hplans
    rcases done with _ | ⟨third, done⟩
    · simp only [List.nil_append, List.cons.injEq] at hlater
      obtain ⟨rfl, rfl⟩ := hlater
      exact absurd hends (by decide +kernel)
    · simp at hlater

/-- The word of the note holds half of a pair. The run fails at the only file, which had a line and
is left empty. -/
theorem failed_run_empties_file :
    let config : Config := { ({} : Draft).freeze with todo := "\ue000" }
    let disk : Disk :=
      { nodes := [(["a.ts"], .file "x\n".toUTF8)], halves := [⟨0xDCFF, '\ue000'⟩] }
    let run := runPlans config (Decider.fixed .plain) [⟨"a.ts", [⟨1, ["m"]⟩]⟩] disk ()
    run.result = .error (.io (.unencodable ⟨25, 0xDCFF, 1⟩)) ∧
    disk.node? ["a.ts"] = some (.file "x\n".toUTF8) ∧
    run.disk.node? ["a.ts"] = some (.file .empty) ∧
    ¬ ∀ location, run.disk.node? location = disk.node? location := by
  intro config disk run
  have hbefore : disk.node? ["a.ts"] = some (.file "x\n".toUTF8) := by decide +kernel
  have hafter : run.disk.node? ["a.ts"] = some (.file .empty) := by decide +kernel
  refine ⟨by decide +kernel, hbefore, hafter, fun hkept => ?_⟩
  exact absurd (hafter.symm.trans ((hkept ["a.ts"]).trans hbefore)) (by decide +kernel)

end ExpectError
