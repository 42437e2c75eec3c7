import ExpectError.Proofs.ReportEffect

/-!
# One file under several names

A report may name one file in several ways. Each way is a plan of its own, so the file is read,
changed and written once for each of them, and a line number of the report is taken against the file
as the plans before have left it. `placement_by_outcome` says what that comes to: a block ends up
above the line that its number meant before the run exactly if no earlier outcome for the same file
has an edit at that line or above. `spellings_shift_block` is a run in which that is not so.
-/

namespace ExpectError

open LineBuffer (ofText withBlocks)

variable {σ : Type}

/-! ## Lines and rows -/

theorem exists_withEnds_getElem? (ending : List Char) {pieces : List (List Char)} {i : Nat}
    {piece : List Char} (h : pieces[i]? = some piece) :
    ∃ last, (Text.withEnds ending pieces)[i]? = some (piece ++ last) ∧
      (last = [] ∨ last = ending) := by
  rw [Text.getElem?_withEnds, h, Option.map_some]
  exact ⟨_, rfl, by split_ifs <;> simp⟩

theorem exists_itemAt_chunks {text : String} {n : Int} {line : String}
    (h : itemAt (ofText text).lines n = some line) :
    ∃ last, itemAt (Text.chunks text.toList) n = some (line.toList ++ last) ∧
      (last = [] ∨ last = (ofText text).newline.text.toList) := by
  have hlow := (itemAt_bounds h).1
  rw [itemAt, if_neg (by omega)] at h ⊢
  rw [LineBuffer.chunks_eq_withEnds]
  apply exists_withEnds_getElem?
  rw [List.getElem?_map, h, Option.map_some]

theorem infix_of_infix_append {word line last : List Char} (h : word <:+: line ++ last)
    (hlast : ∀ c ∈ last, word.getLast? ≠ some c) : word <:+: line := by
  obtain ⟨s, t, heq⟩ := h
  rcases List.append_eq_append_iff.mp heq with ⟨a, hline, -⟩ | ⟨a, hword, hrest⟩
  · exact ⟨s, a, hline.symm⟩
  · rcases List.eq_nil_or_concat a with rfl | ⟨a, c, rfl⟩
    · exact ⟨s, [], by simpa using hword⟩
    · rcases List.eq_nil_or_concat word with rfl | ⟨body, d, rfl⟩
      · exact List.nil_infix
      · exfalso
        have hcd := congrArg List.getLast? hword
        simp only [List.concat_eq_append, List.getLast?_append, List.getLast?_singleton,
          Option.some_or, Option.some.injEq] at hcd
        exact hlast c (by simp [hrest]) (by simp [hcd])

/-! ## The passes of a run -/

theorem PassesOk.of_append {text : String} {passes more : List (List Edit)}
    (h : PassesOk text (passes ++ more)) : PassesOk text passes := by
  induction passes generalizing text with
  | nil => trivial
  | cons edits passes ih => exact ⟨h.1, ih h.2⟩

theorem passesOk_of_splits {disk : Disk} {location : Location} {outcomes : List FileOutcome}
    {old : String}
    (h : ∀ done outcome rest, outcomes = done ++ outcome :: rest →
      disk.locate outcome.path = .ok location →
        PassOk ((passes disk location done).foldl withBlocks old) outcome.edits) :
    PassesOk old (passes disk location outcomes) := by
  induction outcomes generalizing old with
  | nil => trivial
  | cons outcome outcomes ih =>
    rw [passes_cons]
    by_cases hlead : disk.locate outcome.path = .ok location
    · rw [if_pos hlead]
      refine ⟨h [] outcome outcomes rfl hlead, ih fun done other rest heq hother => ?_⟩
      have hnext := h (outcome :: done) other rest (by rw [heq]; rfl) hother
      rwa [passes_cons, if_pos hlead] at hnext
    · rw [if_neg hlead]
      refine ih fun done other rest heq hother => ?_
      have hnext := h (outcome :: done) other rest (by rw [heq]; rfl) hother
      rwa [passes_cons, if_neg hlead] at hnext

section Effect

variable {config : Config} {plans : List EditPlan} {disk disk' : Disk}
  {outcomes : List FileOutcome} (heffect : RunEffect config plans disk outcomes disk')
  {location : Location} {old : String} (hold : disk.node? location = some (.file old.toUTF8))

include heffect hold

theorem RunEffect.settles_at {done rest : List FileOutcome} {outcome : FileOutcome}
    (hsplit : outcomes = done ++ outcome :: rest)
    (hlead : disk.locate outcome.path = .ok location) :
    ∃ plan ∈ plans, Settles config plan ((passes disk location done).foldl withBlocks old)
      outcome := by
  obtain ⟨plan, hplan, place, text, hopen, hnode, hsettles⟩ :=
    heffect.settles done outcome rest hsplit
  obtain rfl : location = place :=
    Except.ok.inj (hlead.symm.trans (Disk.locate_of_openPath hopen))
  rw [hold, Option.some.injEq, Node.file.injEq] at hnode
  obtain rfl := String.toByteArray_inj.mp hnode
  exact ⟨plan, hplan, hsettles⟩

theorem RunEffect.passesOk : PassesOk old (passes disk location outcomes) :=
  passesOk_of_splits fun _ _ _ hsplit hlead => by
    obtain ⟨plan, -, hsettles⟩ := heffect.settles_at hold hsplit hlead
    exact hsettles.passOk

end Effect

/-- At the end, the line that the block of an edit was put in front of is the line that had the
number of the edit at the start. The edit is one of `own`, which came after the passes `earlier` and
before `later`. -/
def StandsRight (old : String) (earlier : List (List Edit)) (own : List Edit)
    (later : List (List Edit)) (edit : Edit) : Prop :=
  landingThrough old (earlier ++ own :: later) edit.line =
    landingThrough (earlier.foldl withBlocks old) (own :: later) edit.line

theorem standsRight_iff {old : String} {earlier : List (List Edit)} (hok : PassesOk old earlier)
    (own : List Edit) (later : List (List Edit)) (edit : Edit) :
    StandsRight old earlier own later edit ↔ ∀ e ∈ earlier.flatten, edit.line < e.line := by
  rw [StandsRight, landingThrough_append, landingThrough_inj, landingThrough_eq_self_iff hok]

theorem descending_passes {disk : Disk} {location : Location} {outcomes : List FileOutcome}
    (hdesc : ∀ outcome ∈ outcomes, disk.locate outcome.path = .ok location →
      Descending Edit.line outcome.edits)
    (h : ∀ done outcome rest, outcomes = done ++ outcome :: rest →
      disk.locate outcome.path = .ok location → ∀ edit ∈ outcome.edits,
        ∀ e ∈ (passes disk location done).flatten, edit.line < e.line) :
    Descending Edit.line (passes disk location outcomes).flatten := by
  induction outcomes using List.reverseRecOn with
  | nil => exact List.Pairwise.nil
  | append_singleton outcomes last ih =>
    have hinit := ih (fun o ho => hdesc o (List.mem_append_left _ ho))
      fun done outcome rest heq => h done outcome (rest ++ [last]) (by rw [heq]; simp)
    rw [passes_append, passes_cons, List.flatten_append, descending_append]
    by_cases hlead : disk.locate last.path = .ok location
    · rw [if_pos hlead]
      refine ⟨hinit, ?_, ?_⟩
      · simpa [passes] using hdesc last (by simp) hlead
      · intro e he e' he'
        exact h outcomes last [] rfl hlead e' (by simpa [passes] using he') e he
    · rw [if_neg hlead]
      exact ⟨hinit, by simp [passes, Descending], by simp [passes]⟩

theorem Settles.row_above {config : Config} {plan : EditPlan} {old : String}
    {earlier : List (List Edit)} {outcome : FileOutcome}
    (h : Settles config plan (earlier.foldl withBlocks old) outcome) (hok : PassesOk old earlier)
    {n : Int} (hskip : ⟨n, .alreadySuppressed⟩ ∈ outcome.skips)
    (hn : ∀ e ∈ earlier.flatten, n ≤ e.line) :
    ∃ above, itemAt (Text.chunks old.toList) (n - 1) = some above ∧
      config.directive.toList <:+: above := by
  obtain ⟨-, line, hline, hcarries⟩ := h.suppressed n hskip
  rw [h.before] at hline
  obtain ⟨last, hrow, -⟩ := exists_itemAt_chunks hline
  have hkept := itemAt_foldl_withBlocks hok (n := n - 1) fun e he => by
    have := hn e he
    omega
  exact ⟨_, hkept.symm.trans hrow, hcarries.trans (List.prefix_append _ _).isInfix⟩

theorem suppressed_of_row {directive old : String} (hone : OneLine directive) {n : Int}
    (h : ∃ above, itemAt (Text.chunks old.toList) (n - 1) = some above ∧
      directive.toList <:+: above) : Suppressed directive (ofText old).lines n := by
  obtain ⟨above, hrow, hinfix⟩ := h
  obtain ⟨hlow, hhigh⟩ := itemAt_bounds hrow
  rw [LineBuffer.length_chunks] at hhigh
  obtain ⟨line, hline⟩ := exists_itemAt hlow hhigh
  obtain ⟨last, hrow', hlast⟩ := exists_itemAt_chunks hline
  obtain rfl := Option.some.inj (hrow.symm.trans hrow')
  refine ⟨line, hline, infix_of_infix_append hinfix fun c hc => ?_⟩
  have hends : c = '\r' ∨ c = '\n' := by
    rcases hlast with rfl | rfl
    · simp at hc
    · cases hmode : (ofText old).newline <;> simp_all
  rcases hends with rfl | rfl
  · exact hone.2
  · exact fun hend => hone.1 (List.mem_of_getLast? hend)

/-- **Several outcomes for one file.** In a run that comes to its end, for every file and the passes
that the outcomes make over it:

* the lines that it had before the run are all in the new text, at the numbers that `landingThrough`
  gives them;
* an edit has the line number of a diagnostic, and its block ends up above the line that had this
  number before the run exactly if all edits of earlier outcomes were below that line;
* so all blocks stand right exactly if the edits descend over all outcomes, and then the blocks,
  each in front of its line of the old text, are all that is new;
* the line above a site that was passed over as silenced is the one that was above it before the run
  exactly if no earlier edit was above the site, and then it had the directive before the run. -/
theorem placement_by_outcome {config : Config} (hdry : config.dry = false)
    (hsample : config.sample = none) (decide : Decider σ) (generator : Random.Twister)
    {report : Path} {disk : Disk} (state : σ) {result : RunResult}
    (hrun : (runReport config decide generator report disk state).result = .ok result)
    {location : Location} {old : String}
    (hold : disk.node? location = some (.file old.toUTF8)) :
    let all := passes disk location result.outcomes
    let new := all.foldl withBlocks old
    (runReport config decide generator report disk state).disk.node? location =
      some (.file new.toUTF8) ∧
    (∀ n : Int, 1 ≤ n → n ≤ (Text.chunks old.toList).length →
      itemAt (Text.chunks new.toList) (landingThrough old all n) =
        itemAt (Text.chunks old.toList) n) ∧
    ((∀ done outcome rest, result.outcomes = done ++ outcome :: rest →
        disk.locate outcome.path = .ok location → ∀ edit ∈ outcome.edits,
          StandsRight old (passes disk location done) outcome.edits (passes disk location rest)
            edit) ↔
      Descending Edit.line all.flatten) ∧
    (Descending Edit.line all.flatten → Inserts (fun _ => True) all.flatten old new) ∧
    ∀ done outcome rest, result.outcomes = done ++ outcome :: rest →
      disk.locate outcome.path = .ok location →
      (∀ edit ∈ outcome.edits,
        (∃ d ∈ result.diagnostics, d.path = outcome.name ∧ d.line = edit.line) ∧
        (StandsRight old (passes disk location done) outcome.edits (passes disk location rest)
            edit ↔
          ∀ e ∈ (passes disk location done).flatten, edit.line < e.line)) ∧
      ∀ n : Int, ⟨n, .alreadySuppressed⟩ ∈ outcome.skips →
        (landingThrough old (passes disk location done) (n - 1) = n - 1 ↔
          ∀ e ∈ (passes disk location done).flatten, n ≤ e.line) ∧
        ((∀ e ∈ (passes disk location done).flatten, n ≤ e.line) →
          (∃ above, itemAt (Text.chunks old.toList) (n - 1) = some above ∧
            config.directive.toList <:+: above) ∧
          (OneLine config.directive → Suppressed config.directive (ofText old).lines n)) := by
  intro all new
  obtain ⟨text, -, hds, heffect⟩ := runReport_effect hdry hsample (Run.ends_of_result hrun)
  have hok : PassesOk old all := heffect.passesOk hold
  have hearlier : ∀ done outcome rest, result.outcomes = done ++ outcome :: rest →
      PassesOk old (passes disk location done) := by
    intro done outcome rest hsplit
    have hall : all = passes disk location done ++ passes disk location (outcome :: rest) := by
      rw [← passes_append, ← hsplit]
    rw [hall] at hok
    exact hok.of_append
  refine ⟨heffect.rewritten location old hold, fun n => itemAt_landingThrough hok, ⟨?_, ?_⟩,
    inserts_foldl hok, ?_⟩
  · intro hright
    refine descending_passes (fun outcome houtcome hlead => ?_) ?_
    · obtain ⟨done, rest, hsplit⟩ := List.append_of_mem houtcome
      obtain ⟨plan, -, hsettles⟩ := heffect.settles_at hold hsplit hlead
      exact hsettles.descending
    · intro done outcome rest hsplit hlead edit hedit
      exact (standsRight_iff (hearlier done outcome rest hsplit) _ _ _).mp
        (hright done outcome rest hsplit hlead edit hedit)
  · intro hdesc done outcome rest hsplit hlead edit hedit
    rw [standsRight_iff (hearlier done outcome rest hsplit)]
    intro e he
    have hall : all.flatten = (passes disk location done).flatten ++
        (outcome.edits ++ (passes disk location rest).flatten) := by
      show (passes disk location result.outcomes).flatten = _
      rw [hsplit, passes_append, passes_cons, if_pos hlead]
      simp
    rw [hall] at hdesc
    exact (descending_append.mp hdesc).2.2 e he edit (List.mem_append_left _ hedit)
  · intro done outcome rest hsplit hlead
    have hbefore := hearlier done outcome rest hsplit
    obtain ⟨plan, hplan, hsettles⟩ := heffect.settles_at hold hsplit hlead
    refine ⟨fun edit hedit => ⟨?_, standsRight_iff hbefore _ _ _⟩,
      fun n hskip => ⟨?_, fun hn => ?_⟩⟩
    · obtain ⟨-, -, site, hsite, hline, -⟩ := hsettles.edited edit hedit
      obtain ⟨d, hd, hpath, hdline⟩ := EditPlan.exists_diagnostic_of_site hplan hsite
      exact ⟨d, hd, by rw [hpath, hsettles.name], by rw [hdline, hline]⟩
    · rw [landingThrough_eq_self_iff hbefore]
      exact forall₂_congr fun e _ => by omega
    · have hrow := hsettles.row_above hbefore hskip hn
      exact ⟨hrow, fun hone => suppressed_of_row hone hrow⟩

/-- Two names in an order that does no harm: the second outcome is above the first. -/
theorem placement_by_outcome_upwards :
    let disk : Disk :=
      { nodes := [(["a.ts"], .file "x\ny\n".toUTF8),
          (["log"], .file "a.ts(2,1): error TS1: m2\n./a.ts(1,1): error TS1: m1\n".toUTF8)] }
    let run := runReport ({} : Draft).freeze (Decider.fixed .plain) (.ofSeed 0) (Path.ofText "log")
      disk ()
    let edits : List Edit :=
      [⟨2, ["// m2", "// @ts-expect-error TODO: fix error and remove"], "y"⟩,
        ⟨1, ["// m1", "// @ts-expect-error TODO: fix error and remove"], "x"⟩]
    ∃ new, run.disk.node? ["a.ts"] = some (.file new.toUTF8) ∧
      Inserts (fun _ => True) edits "x\ny\n" new := by
  intro disk run edits
  have hpasses : run.result.toOption.map (fun result => passes disk ["a.ts"] result.outcomes) =
      some (edits.map ([·])) := by
    decide +kernel
  obtain ⟨result, hresult, hall⟩ := Option.map_eq_some_iff.mp hpasses
  have hold : disk.node? ["a.ts"] = some (.file "x\ny\n".toUTF8) := rfl
  obtain ⟨hnew, -, -, hinserts, -⟩ := placement_by_outcome rfl rfl (Decider.fixed .plain)
    (.ofSeed 0) () (eq_ok_of_toOption hresult) hold
  have hflat : (passes disk ["a.ts"] result.outcomes).flatten = edits := by
    rw [hall]
    rfl
  have hdesc : Descending Edit.line edits := by simp [Descending, edits]
  refine ⟨_, hnew, ?_⟩
  rw [hflat] at hinserts
  exact hinserts hdesc

/-- **A second name shifts a block.** The edit under the first name moves line 2 down by two, and
the block for line 2 of the report goes into the block above line 1. Line 2 itself gets nothing. -/
theorem spellings_shift_block :
    let disk : Disk :=
      { nodes := [(["a.ts"], .file "x\ny\n".toUTF8),
          (["log"], .file "a.ts(1,1): error TS1: m1\n./a.ts(2,1): error TS1: m2\n".toUTF8)] }
    let run := runReport ({} : Draft).freeze (Decider.fixed .plain) (.ofSeed 0) (Path.ofText "log")
      disk ()
    let first : Edit := ⟨1, ["// m1", "// @ts-expect-error TODO: fix error and remove"], "x"⟩
    let second : Edit := ⟨2, ["// m2", "// @ts-expect-error TODO: fix error and remove"],
      "// @ts-expect-error TODO: fix error and remove"⟩
    run.result.toOption.map (fun result => passes disk ["a.ts"] result.outcomes) =
      some [[first], [second]] ∧
    ¬ StandsRight "x\ny\n" [[first]] [second] [] second ∧
    run.disk.node? ["a.ts"] = some (.file
      ("// m1\n// m2\n// @ts-expect-error TODO: fix error and remove\n" ++
        "// @ts-expect-error TODO: fix error and remove\nx\ny\n").toUTF8) := by
  intro disk run first second
  refine ⟨by decide +kernel, ?_, by decide +kernel⟩
  unfold StandsRight
  decide +kernel

end ExpectError
