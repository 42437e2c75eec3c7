import ExpectError.Proofs.ReportEffect

/-!
# Files read and written again

The lines of a buffer are the pieces of the text between line feeds, whichever line end the text
has: where it is the pair, each piece but the last has a return at its end that the buffer leaves out
(`splitOn_eq_withEnds`). So line numbers count line feeds, and the pair is chosen exactly if every
line feed has a return in front of it (`detect_eq_crlf_iff_feedsPaired`). `buffer_round_trip` says so
for texts, and for files on a disk. `mutated_buffer_rereads` is about a buffer with blocks in it:
what is written is read back as the same lines with the same line end.
-/

namespace ExpectError

open LineBuffer (ofText withBlocks)

variable {σ : Type}

/-! ## Line feeds -/

namespace Text

/-- Each line feed of a text has a return right in front of it. -/
def FeedsPaired (cs : List Char) : Prop :=
  ∀ before after, cs = before ++ '\n' :: after → before.getLast? = some '\r'

theorem feedsPaired_pair {rest : List Char} :
    FeedsPaired ('\r' :: '\n' :: rest) ↔ FeedsPaired rest := by
  constructor
  · intro h before after heq
    have hlast := h ('\r' :: '\n' :: before) after (by rw [heq]; rfl)
    rw [List.getLast?_cons_cons] at hlast
    cases before with
    | nil => simp at hlast
    | cons c before => rwa [List.getLast?_cons_cons] at hlast
  · intro h before after heq
    match before with
    | [] => simp at heq
    | [c] =>
      obtain ⟨rfl, -⟩ := List.cons.inj heq
      rfl
    | c :: d :: before =>
      simp only [List.cons_append, List.cons.injEq] at heq
      have hlast := h before after heq.2.2
      simp [List.getLast?_cons, hlast]

theorem feedsPaired_cons {c : Char} {rest : List Char} (hc : c ≠ '\n')
    (hne : ∀ more, c = '\r' → rest = '\n' :: more → False) :
    FeedsPaired (c :: rest) ↔ FeedsPaired rest := by
  constructor
  · intro h before after heq
    have hlast := h (c :: before) after (by rw [heq]; rfl)
    cases before with
    | nil => exact (hne after (Option.some.inj hlast) heq).elim
    | cons d before => rwa [List.getLast?_cons_cons] at hlast
  · intro h before after heq
    cases before with
    | nil => exact absurd (List.cons.inj heq).1 hc
    | cons d before =>
      have hlast := h before after (List.cons.inj heq).2
      simp [List.getLast?_cons, hlast]

theorem countCrLf_eq_countLf_iff (cs : List Char) :
    countCrLf cs = countLf cs ↔ FeedsPaired cs := by
  fun_induction countCrLf cs with
  | case1 => simp [countLf, FeedsPaired]
  | case2 rest ih =>
    have hcount : countLf ('\r' :: '\n' :: rest) = countLf rest + 1 := by
      simp [countLf]
    rw [hcount, feedsPaired_pair, ← ih]
    omega
  | case3 c rest hne ih =>
    by_cases hc : c = '\n'
    · -- a line feed with nothing in front of it
      subst hc
      have hle := countCrLf_le_countLf rest
      rw [countLf, List.count_cons_self, ← countLf]
      refine iff_of_false (by omega) fun h => ?_
      exact absurd (h [] rest rfl) (by simp)
    · rw [feedsPaired_cons hc hne, ← ih, countLf, List.count_cons_of_ne hc, countLf]

theorem splitLf_eq_splitOn (cs : List Char) : splitLf cs = cs.splitOn '\n' := by
  induction cs with
  | nil => rfl
  | cons c rest ih =>
    rw [splitLf, List.splitOn_cons_eq_if_modifyHead, ih]
    simp only [beq_iff_eq]
    split_ifs
    · rfl
    · obtain ⟨piece, pieces, hcons⟩ := List.exists_cons_of_ne_nil (List.splitOn_ne_nil '\n' rest)
      rw [hcons, consFirst, List.modifyHead_cons]

theorem length_splitLf (cs : List Char) : (splitLf cs).length = 1 + cs.count '\n' := by
  induction cs with
  | nil => rfl
  | cons c rest ih =>
    rw [splitLf]
    split_ifs with h
    · rw [List.length_cons, ih, h, List.count_cons_self]
      omega
    · obtain ⟨piece, pieces, hcons⟩ := List.exists_cons_of_ne_nil (splitLf_ne_nil rest)
      rw [hcons] at ih ⊢
      rw [consFirst, List.count_cons_of_ne h, ← ih, List.length_cons, List.length_cons]

end Text

/-! ## Line numbers -/

namespace LineBuffer

theorem detect_eq_crlf_iff_feedsPaired (cs : List Char) :
    Newline.detect cs = .crlf ↔ '\n' ∈ cs ∧ Text.FeedsPaired cs := by
  rw [detect_eq_crlf_iff, Text.countCrLf_eq_countLf_iff, Text.countLf, Ne, List.count_eq_zero,
    not_not]

/-- **The pieces between line feeds** are the lines of the buffer, each but the last with what the
line end has in front of the line feed. -/
theorem splitOn_eq_withEnds (text : String) :
    text.toList.splitOn '\n' =
      Text.withEnds (ofText text).newline.lead ((ofText text).lines.map String.toList) := by
  have hne : (ofText text).lines.map String.toList ≠ [] := by
    simpa using ofText_lines_ne_nil text
  have hchunks : Text.chunks text.toList = Text.withEnds ['\n']
      (Text.withEnds (ofText text).newline.lead ((ofText text).lines.map String.toList)) := by
    rw [chunks_eq_withEnds, Text.withEnds_withEnds, Newline.toList_text]
  rw [← Text.splitLf_eq_splitOn]
  conv_lhs => rw [← Text.flatten_chunks text.toList, hchunks]
  refine Text.splitLf_withEnds (Text.withEnds_ne_nil _ hne) fun p hp => ?_
  obtain ⟨piece, hpiece, heq⟩ := Text.mem_withEnds hp
  obtain ⟨line, hline, rfl⟩ := List.mem_map.mp hpiece
  have hlf := not_mem_ofText_lines text line hline
  rcases heq with rfl | rfl
  · exact hlf
  · exact Newline.not_mem_append_lead hlf _

theorem size_ofText (text : String) : (ofText text).size = 1 + text.toList.count '\n' := by
  have h := congrArg List.length (splitOn_eq_withEnds text)
  rw [Text.length_withEnds, List.length_map, ← Text.splitLf_eq_splitOn, Text.length_splitLf] at h
  exact h.symm

theorem getElem?_splitOn (text : String) (k : Nat) :
    (text.toList.splitOn '\n')[k]? = (ofText text).lines[k]?.map fun line =>
      line.toList ++
        if (ofText text).newline = .crlf ∧ k + 1 < (ofText text).size then ['\r'] else [] := by
  rw [splitOn_eq_withEnds, Text.getElem?_withEnds, List.getElem?_map, Option.map_map,
    List.length_map]
  congr 1
  funext line
  rw [Function.comp_apply, size]
  cases (ofText text).newline <;> simp [Newline.lead]

end LineBuffer

/-! ## On the disk -/

theorem readBuffer_eq {disk : Disk} {path : Path} {location : Location} {text : String}
    (hopen : disk.openPath .read path = .ok location)
    (hnode : disk.node? location = some (.file text.toUTF8)) (state : σ) :
    readBuffer path disk state = ⟨disk, state, [.read path none], .ok (ofText text)⟩ := by
  rw [readBuffer, Disk.readText_eq_ok_iff.mpr ⟨location, hopen, hnode⟩]

theorem writeBuffer_eq {disk : Disk} {path : Path} {location : Location}
    (hopen : disk.openPath .write path = .ok location)
    (hnode : disk.node? location ≠ some .directory) {buffer : LineBuffer}
    (hwhole : Text.Whole disk.halves buffer.toText) (state : σ) :
    writeBuffer path buffer disk state =
      ⟨disk.put location (.file buffer.toText.toUTF8), state, [.wrote path none],
        .ok buffer.toText.utf8ByteSize⟩ := by
  rw [writeBuffer, Disk.writeText_eq_ok_iff.mpr ⟨location, hopen, hnode, hwhole, rfl⟩]

/-- **Lines and texts.** For every text: its buffer is the text again once it is joined; the line
end is the pair exactly if there are line feeds and each has a return in front of it; no line holds
a line feed, there is one more line than there are line feeds, and the pieces of the text between
line feeds are the lines, with a return behind all but the last of them where the line end is the
pair. So a file of well-formed bytes that is read and written to any place is the same bytes there,
as many as are reported, and no other place changes.

What stands for half of a pair is no character of a file, so none is in this one. Where nothing is to
stand for a half, that is so for every file (`Text.whole_of_no_halves`). -/
theorem buffer_round_trip :
    (∀ text : String,
      (ofText text).toText = text ∧
      ((ofText text).newline = .crlf ↔ '\n' ∈ text.toList ∧ Text.FeedsPaired text.toList) ∧
      (∀ line ∈ (ofText text).lines, '\n' ∉ line.toList) ∧
      (ofText text).size = 1 + text.toList.count '\n' ∧
      ∀ k, (text.toList.splitOn '\n')[k]? = (ofText text).lines[k]?.map fun line =>
        line.toList ++
          if (ofText text).newline = .crlf ∧ k + 1 < (ofText text).size then ['\r'] else []) ∧
    ∀ (disk : Disk) (state : σ) (path target : Path) (location place : Location)
      (bytes : ByteArray), bytes.IsValidUTF8 →
      (∀ text : String, bytes = text.toUTF8 → Text.Whole disk.halves text) →
      disk.openPath .read path = .ok location → disk.node? location = some (.file bytes) →
      disk.openPath .write target = .ok place → disk.node? place ≠ some .directory →
      ∃ buffer, readBuffer path disk state = ⟨disk, state, [.read path none], .ok buffer⟩ ∧
        let run := writeBuffer target buffer disk state
        run.result = .ok bytes.size ∧ run.disk.node? place = some (.file bytes) ∧
          ∀ other, other ≠ place → run.disk.node? other = disk.node? other := by
  constructor
  · intro text
    exact ⟨LineBuffer.toText_ofText text, LineBuffer.detect_eq_crlf_iff_feedsPaired text.toList,
      LineBuffer.not_mem_ofText_lines text, LineBuffer.size_ofText text,
      LineBuffer.getElem?_splitOn text⟩
  · intro disk state path target location place bytes hvalid hwhole hread hfile hwrite hplace
    obtain ⟨text, rfl⟩ : ∃ text : String, bytes = text.toUTF8 := ⟨⟨bytes, hvalid⟩, rfl⟩
    refine ⟨ofText text, readBuffer_eq hread hfile state, ?_⟩
    have hbuffer : Text.Whole disk.halves (ofText text).toText := by
      rw [LineBuffer.toText_ofText]
      exact hwhole text rfl
    dsimp only
    rw [writeBuffer_eq hwrite hplace hbuffer, LineBuffer.toText_ofText]
    have hput := Disk.node?_put (Disk.ne_root_of_node?_ne hplace) disk (.file text.toUTF8)
    refine ⟨rfl, ?_, fun other hother => ?_⟩
    · rw [hput, if_pos rfl]
    · rw [hput, if_neg hother]

/-- Returns in a row, and one behind the last pair, in a file that is copied. -/
theorem buffer_round_trip_returns :
    let disk : Disk := { nodes := [(["a.ts"], .file "x\r\r\n\r\né\r".toUTF8)] }
    ((ofText "x\r\r\n\r\né\r").lines = ["x\r", "", "é\r"] ∧
      (ofText "x\r\r\n\r\né\r").newline = .crlf) ∧
    "x\r\r\n\r\né\r".toUTF8.IsValidUTF8 ∧
    disk.openPath .read (Path.ofText "a.ts") = .ok ["a.ts"] ∧
    disk.openPath .write (Path.ofText "b.ts") = .ok ["b.ts"] ∧
    ∃ buffer, (readBuffer (Path.ofText "a.ts") disk ()).result = .ok buffer ∧
      (writeBuffer (Path.ofText "b.ts") buffer disk ()).result = .ok 9 ∧
      (writeBuffer (Path.ofText "b.ts") buffer disk ()).disk.node? ["b.ts"] =
        disk.node? ["a.ts"] := by
  intro disk
  have hvalid : "x\r\r\n\r\né\r".toUTF8.IsValidUTF8 := String.isValidUTF8 _
  have hread : disk.openPath .read (Path.ofText "a.ts") = .ok ["a.ts"] :=
    eq_ok_of_toOption (by decide +kernel)
  have hwrite : disk.openPath .write (Path.ofText "b.ts") = .ok ["b.ts"] :=
    eq_ok_of_toOption (by decide +kernel)
  obtain ⟨buffer, hbuffer, hbytes, hnode, -⟩ := buffer_round_trip.2 disk () (Path.ofText "a.ts")
    (Path.ofText "b.ts") ["a.ts"] ["b.ts"] _ hvalid (fun text _ => Text.whole_of_no_halves text)
    hread rfl hwrite (by decide +kernel)
  refine ⟨by decide +kernel, hvalid, hread, hwrite, buffer, by rw [hbuffer], hbytes, hnode⟩

/-! ## Buffers with blocks in them -/

/-- **What is written is read back.** For every text and every plan for diagnostics of a report, with
no line feed in the directive or in the word of the note: the text of the buffer behind the run gives
its lines and its line end again, which is that of the first text. The written text is the first one
with the blocks in front of their lines and no other character changed, so a return that stood alone
still does, and each line is found again in the file at the number where the run has moved it. -/
theorem mutated_buffer_rereads {config : Config} (hdirective : '\n' ∉ config.directive.toList)
    (htodo : '\n' ∉ config.todo.toList) (directive : String) (filesRemaining : Int)
    (decide : Decider σ) (report : List String) {ds : List Diagnostic}
    (hds : ∀ d ∈ ds, d ∈ Diagnostic.ofReport report) {plan : EditPlan}
    (hplan : plan ∈ EditPlan.ofDiagnostics ds) (text : String) (state : σ) :
    let run := Mutation.apply ⟨config, plan.path, directive, filesRemaining⟩ decide plan.sites
      (ofText text).lines state
    let buffer : LineBuffer := ⟨run.lines, (ofText text).newline⟩
    ofText buffer.toText = buffer ∧
    Inserts (· = (ofText text).newline) run.edits text buffer.toText ∧
    ∀ n : Int, 1 ≤ n → n ≤ (ofText text).size →
      itemAt (ofText buffer.toText).lines (landing (fun e => e.block.length) run.edits n) =
        itemAt (ofText text).lines n := by
  intro run buffer
  have hdesc := (EditPlan.ofDiagnostics_grouped ds).descending plan hplan
  have hplaced : Placed ⟨config, plan.path, directive, filesRemaining⟩ plan.sites (ofText text).lines
      run.edits run.lines := Mutation.placed _ decide hdesc _ state
  have hmessages : ∀ site ∈ plan.sites, ∀ message ∈ site.messages, OneLine message :=
    EditPlan.oneLine_messages (fun d hd => Diagnostic.ofReport_message (hds d hd)) hplan
  have htext : buffer.toText = withBlocks text run.edits := hplaced.toText
  have hagain : ofText buffer.toText = buffer := by
    rw [htext, hplaced.ofText_withBlocks hdirective htodo hmessages]
  refine ⟨hagain, htext ▸ inserts_withBlocks hplaced.passOk, fun n hlow hhigh => ?_⟩
  rw [hagain]
  exact hplaced.itemAt_after hlow hhigh

/-- A file with both line ends and a return behind the last line, and a report whose lines end in
returns. -/
theorem mutated_buffer_rereads_mixed :
    let config := ({} : Draft).freeze
    let report := ["a.ts(1,1): error TS1: n\r", "a.ts(3,9): error TS2: m\r"]
    let plan : EditPlan := ⟨"a.ts", [⟨3, ["m"]⟩, ⟨1, ["n"]⟩]⟩
    let run := Mutation.apply ⟨config, plan.path, config.directive, 0⟩ (Decider.fixed .plain)
      plan.sites (ofText "x\r\ny\nz\r").lines ()
    let written := LineBuffer.toText ⟨run.lines, (ofText "x\r\ny\nz\r").newline⟩
    ('\n' ∉ config.directive.toList ∧ '\n' ∉ config.todo.toList) ∧
    plan ∈ EditPlan.ofDiagnostics (Diagnostic.ofReport report) ∧
    written = "// n\n// @ts-expect-error TODO: fix error and remove\nx\r\ny\n// m\n" ++
      "// @ts-expect-error TODO: fix error and remove\nz\r" ∧
    ofText written = ⟨run.lines, .lf⟩ := by
  intro config report plan run written
  have hdirective : '\n' ∉ config.directive.toList := by decide +kernel
  have htodo : '\n' ∉ config.todo.toList := by decide +kernel
  have hplan : plan ∈ EditPlan.ofDiagnostics (Diagnostic.ofReport report) := by decide +kernel
  obtain ⟨hagain, -⟩ := mutated_buffer_rereads hdirective htodo config.directive 0
    (Decider.fixed .plain) report (fun d hd => hd) hplan "x\r\ny\nz\r" ()
  exact ⟨⟨hdirective, htodo⟩, hplan, by decide +kernel, hagain⟩

end ExpectError
