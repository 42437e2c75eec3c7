import ExpectError.Proofs.PlanRun
import ExpectError.Proofs.RoundTrip

/-!
# Reports with any line ends

A report is cut at pairs only if it has no single line feed, so some returns come off when the text
is cut and the others when a line is read. Reading takes no notice of returns at the end of a line
(`ofLine?_append`), so either way what is read are the pieces between line feeds
(`ofReport_ofText`). In a text that is written line by line, with any line ends, these are the lines
with a return behind some of them and an empty piece behind the last line end
(`WrittenLines.ofReport_eq`).
-/

namespace ExpectError

open LineBuffer (ofText)

variable {σ : Type}

/-- The texts that have the given lines. Behind each line stands a line end of its own, and the last
line may go without. -/
inductive WrittenLines : List String → String → Prop
  | nil : WrittenLines [] ""
  | last (line : String) : WrittenLines [line] line
  | cons (line : String) (newline : Newline) {lines : List String} {text : String} :
    WrittenLines lines text → WrittenLines (line :: lines) (line ++ newline.text ++ text)

theorem Newline.lead_returns (newline : Newline) : ∀ c ∈ newline.lead, c = '\r' ∨ c = '\n' := by
  cases newline <;> simp [Newline.lead]

namespace Diagnostic

/-- The diagnostics among pieces of a text. -/
def ofPieces (pieces : List (List Char)) : List Diagnostic :=
  pieces.filterMap fun piece => ofLine? (String.ofList piece)

theorem ofPieces_cons (piece : List Char) (pieces : List (List Char)) :
    ofPieces (piece :: pieces) =
      (ofLine? (String.ofList piece)).toList ++ ofPieces pieces := by
  rw [ofPieces, List.filterMap_cons]
  cases ofLine? (String.ofList piece) <;> rfl

theorem ofPieces_map_toList (lines : List String) :
    ofPieces (lines.map String.toList) = ofReport lines := by
  rw [ofPieces, List.filterMap_map]
  simp [ofReport]

theorem ofLine?_append (piece : List Char) {ends : List Char}
    (h : ∀ c ∈ ends, c = '\r' ∨ c = '\n') :
    ofLine? (String.ofList (piece ++ ends)) = ofLine? (String.ofList piece) := by
  rw [ofLine?, ofLine?, String.toList_ofList, String.toList_ofList, dropLineEnd_append piece h]

theorem ofPieces_withEnds {ends : List Char} (h : ∀ c ∈ ends, c = '\r' ∨ c = '\n')
    (pieces : List (List Char)) : ofPieces (Text.withEnds ends pieces) = ofPieces pieces := by
  induction pieces with
  | nil => rfl
  | cons piece pieces ih =>
    cases pieces with
    | nil => rfl
    | cons next more =>
      rw [Text.withEnds, ofPieces_cons, ofPieces_cons, ofLine?_append piece h, ih]

theorem ofReport_ofText (text : String) :
    ofReport (ofText text).lines = ofPieces (Text.splitLf text.toList) := by
  rw [Text.splitLf_eq_splitOn, LineBuffer.splitOn_eq_withEnds,
    ofPieces_withEnds (ofText text).newline.lead_returns, ofPieces_map_toList]

end Diagnostic

theorem WrittenLines.ofReport_eq {lines : List String} {text : String} (h : WrittenLines lines text)
    (hlf : ∀ line ∈ lines, '\n' ∉ line.toList) :
    Diagnostic.ofReport (ofText text).lines = Diagnostic.ofReport lines := by
  rw [Diagnostic.ofReport_ofText, ← Diagnostic.ofPieces_map_toList]
  induction h with
  | nil => decide
  | last line =>
    rw [Text.splitLf_of_not_mem (hlf line List.mem_cons_self)]
    rfl
  | @cons line newline lines text _ ih =>
    have hpiece := Newline.not_mem_append_lead (hlf line List.mem_cons_self) newline
    have htext : (line ++ newline.text ++ text).toList =
        (line.toList ++ newline.lead) ++ '\n' :: text.toList := by
      simp [Newline.toList_text]
    rw [htext, Text.splitLf_append hpiece, Diagnostic.ofPieces_cons,
      Diagnostic.ofLine?_append _ newline.lead_returns,
      ih fun line hline => hlf line (List.mem_cons_of_mem _ hline), List.map_cons,
      Diagnostic.ofPieces_cons]

/-- **The line ends of a report do not matter.** For every list of lines without line feeds, written
with single line feeds, with pairs or with any mixture of both between them, and with or without one
at the end: cutting the text into lines and reading these gives the diagnostics of the given lines
that have one, in their order, whichever line ends were chosen. So a run on a disk where the report
is such a text deals with those diagnostics. -/
theorem line_ends_irrelevant {lines : List String} (hlf : ∀ line ∈ lines, '\n' ∉ line.toList)
    {text text' : String} (h : WrittenLines lines text) (h' : WrittenLines lines text') :
    Diagnostic.ofReport (ofText text).lines = lines.filterMap Diagnostic.ofLine? ∧
    Diagnostic.ofReport (ofText text').lines = Diagnostic.ofReport (ofText text).lines ∧
    ∀ (config : Config) (decide : Decider σ) (generator : Random.Twister) (report : Path)
      (disk : Disk) (state : σ) (location : Location),
      disk.openPath .read report = .ok location →
      disk.node? location = some (.file text.toUTF8) →
      let ds := lines.filterMap Diagnostic.ofLine?
      let rest := runDiagnostics config decide generator ds disk state
      runReport config decide generator report disk state =
        { rest with entries := .read report none :: rest.entries } := by
  refine ⟨h.ofReport_eq hlf, (h'.ofReport_eq hlf).trans (h.ofReport_eq hlf).symm, ?_⟩
  intro config decide generator report disk state location hopen hnode ds rest
  rw [runReport, readBuffer_eq hopen hnode, Run.andThen_of_ok rfl, h.ofReport_eq hlf]
  rfl

/-- Pairs but for one line feed, against line feeds with none at the end; the last line ends in a
return of its own. -/
theorem line_ends_irrelevant_mixed :
    let first := "a.ts(1,1): error TS1: m"
    let last := "b.ts(2,3): error TS2: n\r"
    let text := first ++ "\r\n" ++ ("  more" ++ "\n" ++ (last ++ "\r\n" ++ ""))
    let text' := first ++ "\n" ++ ("  more" ++ "\n" ++ last)
    let found : List Diagnostic := [⟨"a.ts", 1, 1, "TS1", "m"⟩, ⟨"b.ts", 2, 3, "TS2", "n"⟩]
    let disk : Disk := { nodes := [(["log"], .file text.toUTF8)] }
    let config := ({} : Draft).freeze
    (∀ line ∈ [first, "  more", last], '\n' ∉ line.toList) ∧
    WrittenLines [first, "  more", last] text ∧ WrittenLines [first, "  more", last] text' ∧
    Diagnostic.ofReport (ofText text).lines = found ∧
    Diagnostic.ofReport (ofText text').lines = found ∧
    (runReport config (Decider.fixed .plain) (.ofSeed 0) (Path.ofText "log") disk ()).result =
      (runDiagnostics config (Decider.fixed .plain) (.ofSeed 0) found disk ()).result := by
  intro first last text text' found disk config
  have hlf : ∀ line ∈ [first, "  more", last], '\n' ∉ line.toList := by decide +kernel
  have h : WrittenLines [first, "  more", last] text :=
    .cons first .crlf (.cons "  more" .lf (.cons last .crlf .nil))
  have h' : WrittenLines [first, "  more", last] text' :=
    .cons first .lf (.cons "  more" .lf (.last last))
  have hfound : [first, "  more", last].filterMap Diagnostic.ofLine? = found := by decide +kernel
  have hopen : disk.openPath .read (Path.ofText "log") = .ok ["log"] :=
    eq_ok_of_toOption (by decide +kernel)
  obtain ⟨hread, hsame, hrun⟩ := line_ends_irrelevant hlf h h'
  rw [hfound] at hread hrun
  refine ⟨hlf, h, h', hread, hsame.trans hread, ?_⟩
  rw [hrun config (Decider.fixed .plain) (.ofSeed 0) (Path.ofText "log") disk () ["log"] hopen rfl]

end ExpectError
