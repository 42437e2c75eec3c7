import ExpectError.Proofs.Placement

/-!
# The edits as a journal

A plan may name its lines in any order, one of them twice, and some that are not there. The edits
that come out of it tell all the same what was done: each says where its block went and which line
stood there at that moment. So they can be done over again from the first one on (`replay`) and taken
back from the last one on (`rewind`). `Journal` follows the lines from edit to edit; a site adds one
edit to it or none (`applySite_journal`), whatever sites came before, and all that the edits tell is
read off it (`Journal.retraces`).
-/

namespace ExpectError

variable {σ : Type}

/-! ## One edit -/

namespace Edit

/-- Puts the block in front of the line, which has to be there. -/
def redo? (edit : Edit) (lines : List String) : Option (List String) :=
  (itemAt lines edit.line).map fun _ => insertAt lines (edit.line - 1).toNat edit.block

/-- Takes the block out again, which has to stand where it was put. -/
def undo? (edit : Edit) (lines : List String) : Option (List String) :=
  let start := (edit.line - 1).toNat
  if 1 ≤ edit.line ∧ edit.block <+: lines.drop start then
    some (lines.take start ++ lines.drop (start + edit.block.length))
  else none

end Edit

theorem length_insertAt (lines : List String) (index : Nat) (block : List String) :
    (insertAt lines index block).length = lines.length + block.length := by
  rw [insertAt, List.length_append, List.length_append, List.length_take, List.length_drop]
  omega

theorem sublist_insertAt (lines : List String) (index : Nat) (block : List String) :
    lines.Sublist (insertAt lines index block) := by
  have hfront : (lines.take index).Sublist (lines.take index ++ block) :=
    List.sublist_append_left _ _
  have h := hfront.append (List.Sublist.refl (lines.drop index))
  rwa [List.take_append_drop] at h

section Redo

variable {edit : Edit} {lines : List String} {target : String}
  (h : itemAt lines edit.line = some target)

include h

theorem Edit.redo?_eq :
    edit.redo? lines = some (insertAt lines (edit.line - 1).toNat edit.block) := by
  rw [Edit.redo?, h, Option.map_some]

theorem length_take_before : ((lines.take (edit.line - 1).toNat).length : Int) = edit.line - 1 := by
  have hb := itemAt_bounds h
  rw [List.length_take]
  omega

theorem itemAt_shiftedLine :
    itemAt (insertAt lines (edit.line - 1).toNat edit.block) edit.shiftedLine = some target := by
  have hlen := length_take_before h
  have hrest := drop_eq_cons_of_itemAt h
  have hone : edit.shiftedLine - (lines.take (edit.line - 1).toNat ++ edit.block).length = 1 := by
    rw [Edit.shiftedLine, List.length_append]
    push_cast
    omega
  rw [insertAt, itemAt_append_right (by omega), hone, hrest]
  rfl

theorem Edit.undo?_insertAt :
    edit.undo? (insertAt lines (edit.line - 1).toNat edit.block) = some lines := by
  have hlen := length_take_before h
  have hlow := (itemAt_bounds h).1
  have hstart : (edit.line - 1).toNat = (lines.take (edit.line - 1).toNat).length := by omega
  have hdrop : (insertAt lines (edit.line - 1).toNat edit.block).drop (edit.line - 1).toNat =
      edit.block ++ lines.drop (edit.line - 1).toNat := by
    rw [insertAt, List.append_assoc]
    exact List.drop_left' hstart.symm
  have htake : (insertAt lines (edit.line - 1).toNat edit.block).take (edit.line - 1).toNat =
      lines.take (edit.line - 1).toNat := by
    rw [insertAt, List.append_assoc]
    exact List.take_left' hstart.symm
  have hbehind : (edit.block ++ lines.drop (edit.line - 1).toNat).drop edit.block.length =
      lines.drop (edit.line - 1).toNat := List.drop_left
  rw [Edit.undo?, hdrop, if_pos ⟨hlow, List.prefix_append _ _⟩, htake, ← List.drop_drop, hdrop,
    hbehind, List.take_append_drop]

end Redo

/-! ## All edits -/

/-- Does edits over again, in their order. -/
def replay (edits : List Edit) (lines : List String) : Option (List String) :=
  edits.foldlM (fun lines edit => edit.redo? lines) lines

/-- Takes edits back, the last one first. -/
def rewind (edits : List Edit) (lines : List String) : Option (List String) :=
  edits.foldrM (fun edit lines => edit.undo? lines) lines

/-- What edits tell of the lines before and behind them. -/
structure Retraces (edits : List Edit) (before after : List String) : Prop where
  replay : replay edits before = some after
  rewind : rewind edits after = some before
  /-- The target of an edit is what stands at its line when its turn comes, and right behind the
  block afterwards. -/
  targets : ∀ done edit rest, edits = done ++ edit :: rest → ∃ lines lines',
    ExpectError.replay done before = some lines ∧ itemAt lines edit.line = some edit.target ∧
      edit.redo? lines = some lines' ∧ itemAt lines' edit.shiftedLine = some edit.target ∧
      ExpectError.replay rest lines' = some after
  kept : before.Sublist after
  length : after.length = before.length + (edits.map fun e => e.block.length).sum
  unchanged : edits = [] → after = before

/-- Each edit finds its target at its line, and the next one goes on with the lines it has left. -/
inductive Journal : List Edit → List String → List String → Prop
  | nil (lines : List String) : Journal [] lines lines
  | cons {edit : Edit} {edits : List Edit} {lines after : List String}
      (htarget : itemAt lines edit.line = some edit.target)
      (hrest : Journal edits (insertAt lines (edit.line - 1).toNat edit.block) after) :
      Journal (edit :: edits) lines after

namespace Journal

variable {edits more : List Edit} {before middle after : List String}

theorem append (h : Journal edits before middle) (hmore : Journal more middle after) :
    Journal (edits ++ more) before after := by
  induction h with
  | nil => exact hmore
  | cons htarget _ ih => exact .cons htarget (ih hmore)

theorem split (h : Journal (edits ++ more) before after) :
    ∃ middle, Journal edits before middle ∧ Journal more middle after := by
  induction edits generalizing before with
  | nil => exact ⟨before, .nil before, h⟩
  | cons edit edits ih =>
    cases h with
    | cons htarget hrest =>
      obtain ⟨middle, hfirst, hmore⟩ := ih hrest
      exact ⟨middle, .cons htarget hfirst, hmore⟩

theorem replay_eq (h : Journal edits before after) : replay edits before = some after := by
  induction h with
  | nil => rfl
  | cons htarget _ ih =>
    rw [replay, List.foldlM_cons, Edit.redo?_eq htarget]
    exact ih

theorem rewind_eq (h : Journal edits before after) : rewind edits after = some before := by
  induction h with
  | nil => rfl
  | cons htarget _ ih =>
    rw [rewind] at ih ⊢
    rw [List.foldrM_cons, ih]
    exact Edit.undo?_insertAt htarget

theorem sublist (h : Journal edits before after) : before.Sublist after := by
  induction h with
  | nil => exact List.Sublist.refl _
  | cons _ _ ih => exact (sublist_insertAt _ _ _).trans ih

theorem length_eq (h : Journal edits before after) :
    after.length = before.length + (edits.map fun e => e.block.length).sum := by
  induction h with
  | nil => simp
  | cons _ _ ih =>
    rw [ih, length_insertAt, List.map_cons, List.sum_cons]
    omega

theorem retraces (h : Journal edits before after) : Retraces edits before after where
  replay := h.replay_eq
  rewind := h.rewind_eq
  kept := h.sublist
  length := h.length_eq
  targets done edit rest hsplit := by
    subst hsplit
    obtain ⟨lines, hdone, hrest⟩ := h.split
    cases hrest with
    | cons htarget hrest =>
      exact ⟨lines, _, hdone.replay_eq, htarget, Edit.redo?_eq htarget,
        itemAt_shiftedLine htarget, hrest.replay_eq⟩
  unchanged hnone := by
    subst hnone
    cases h
    rfl

end Journal

/-! ## Sites and plans -/

theorem applySite_journal (rules : SiteRules) (decide : Decider σ) (site : Site)
    (lines : List String) (state : σ) :
    Journal (applySite rules decide site lines state).ending.edit?.toList lines
      (applySite rules decide site lines state).lines := by
  obtain ⟨hends, hlines⟩ := applySite_endsAs rules decide site lines state
  rw [hlines]
  cases hstep : (applySite rules decide site lines state).ending with
  | edited edit =>
    rw [hstep] at hends
    exact .cons hends.of_edited.1 (.nil _)
  | skipped | abandoned => exact .nil lines

namespace Mutation

/-- **The edits of a plan are a journal**, whatever its lines are and in whatever order. -/
theorem apply_journal (rules : SiteRules) (decide : Decider σ) (sites : List Site)
    (lines : List String) (state : σ) :
    Journal (apply rules decide sites lines state).edits lines
      (apply rules decide sites lines state).lines := by
  induction sites generalizing lines state with
  | nil => exact .nil lines
  | cons site sites ih =>
    have hsite := applySite_journal rules decide site lines state
    rcases apply_cons rules decide site sites lines state with ⟨-, hl, hrun⟩ | ⟨-, hl, hrun⟩
    · rw [hl, edits_eq, hrun]
      exact .nil lines
    · rw [hl, edits_cons hrun]
      exact hsite.append (ih _ _)

/-- Applies plans to the same lines, one after the other, each with the number of files that come
after it. The decision source keeps its state from plan to plan; if it gives up, the rest is left. -/
def series (config : Config) (directive : String) (decide : Decider σ) :
    List (EditPlan × Int) → List String → σ → List (Mutation σ)
  | [], _, _ => []
  | (plan, filesRemaining) :: plans, lines, state =>
    let mutation :=
      apply ⟨config, plan.path, directive, filesRemaining⟩ decide plan.sites lines state
    mutation :: if mutation.abandoned then []
      else series config directive decide plans mutation.lines mutation.state

/-- The lines behind mutations that began with some lines. -/
def linesBehind (lines : List String) (mutations : List (Mutation σ)) : List String :=
  mutations.foldl (fun _ mutation => mutation.lines) lines

theorem series_journal (config : Config) (directive : String) (decide : Decider σ)
    (plans : List (EditPlan × Int)) (lines : List String) (state : σ) :
    Journal ((series config directive decide plans lines state).flatMap edits) lines
      (linesBehind lines (series config directive decide plans lines state)) := by
  induction plans generalizing lines state with
  | nil => exact .nil lines
  | cons entry plans ih =>
    obtain ⟨plan, filesRemaining⟩ := entry
    rw [series, List.flatMap_cons]
    refine (apply_journal _ decide plan.sites lines state).append ?_
    rw [linesBehind, List.foldl_cons]
    split_ifs
    · exact .nil _
    · exact ih _ _

end Mutation

/-- **The edits tell it all.** For every plan, with its lines in any order, repeated or out of range:
the edits lead from the first lines to the last ones and back again, each with its target where it
says, so that the first lines are still there in their order, and there are as many more as the
blocks have. The same holds for all edits of a series of plans on the same lines. -/
theorem edits_retrace (config : Config) (directive : String) (decide : Decider σ) :
    (∀ (plan : EditPlan) (filesRemaining : Int) (lines : List String) (state : σ),
      let run :=
        Mutation.apply ⟨config, plan.path, directive, filesRemaining⟩ decide plan.sites lines state
      Retraces run.edits lines run.lines) ∧
    ∀ (plans : List (EditPlan × Int)) (lines : List String) (state : σ),
      let runs := Mutation.series config directive decide plans lines state
      Retraces (runs.flatMap Mutation.edits) lines (Mutation.linesBehind lines runs) := by
  constructor
  · intro plan filesRemaining lines state run
    exact (Mutation.apply_journal _ decide plan.sites lines state).retraces
  · intro plans lines state runs
    exact (Mutation.series_journal config directive decide plans lines state).retraces

/-- Sites that ascend: the second is found in the block of the first, and goes in there. -/
example :
    let run := Mutation.apply ⟨({} : Draft).freeze, "a.ts", "@ts-expect-error", 0⟩
      (Decider.fixed .plain) [⟨1, ["m"]⟩, ⟨2, []⟩, ⟨9, ["n"]⟩] ["x", "y"] ()
    run.lines = ["// m", "// @ts-expect-error TODO: fix error and remove",
        "// @ts-expect-error TODO: fix error and remove", "x", "y"] ∧
      replay run.edits ["x", "y"] = some run.lines ∧
      rewind run.edits run.lines = some ["x", "y"] := by
  decide +kernel

end ExpectError
