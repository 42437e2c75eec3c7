import ExpectError.LineBuffer
import ExpectError.Proofs.Placement
import ExpectError.Proofs.ReportLine

/-!
# The text of a file and its lines

A text is cut into lines at one of two line ends. Both ways agree on where the lines are: together
with their ends they are the pieces of the text between line feeds (`chunks_eq_withEnds`), so the
blocks that go between the lines of a buffer go between the lines of the text, and every character
that was there stays (`toText_interleave`). Where each line of the blocks is one line of any file,
the text that results is cut at the same line end again and gives the same lines
(`ofText_toText_interleave`); `IsBlock.oneLine` says when that is so, and `Placed.ofText_withBlocks`
what it comes to for the edits of a plan.
-/

namespace ExpectError

namespace Text

/-! ## Lines with their ends -/

/-- The lines of a text, each with the line feed that ends it. What stands behind the last line feed
is a line of its own. -/
def chunks : List Char → List (List Char)
  | [] => [[]]
  | c :: rest => if c = '\n' then ['\n'] :: chunks rest else consFirst c (chunks rest)

/-- The pieces with an end behind each but the last. -/
def withEnds (ending : List Char) : List (List Char) → List (List Char)
  | [] => []
  | [piece] => [piece]
  | piece :: next :: more => (piece ++ ending) :: withEnds ending (next :: more)

theorem consFirst_ne_nil (c : Char) (pieces : List (List Char)) : consFirst c pieces ≠ [] := by
  cases pieces <;> simp [consFirst]

theorem flatten_consFirst (c : Char) (pieces : List (List Char)) :
    (consFirst c pieces).flatten = c :: pieces.flatten := by
  cases pieces <;> simp [consFirst]

theorem flatten_chunks (cs : List Char) : (chunks cs).flatten = cs := by
  induction cs with
  | nil => rfl
  | cons c rest ih =>
    rw [chunks]
    split_ifs with h
    · rw [List.flatten_cons, ih, h]
      rfl
    · rw [flatten_consFirst, ih]

theorem withEnds_cons (ending piece : List Char) {pieces : List (List Char)} (h : pieces ≠ []) :
    withEnds ending (piece :: pieces) = (piece ++ ending) :: withEnds ending pieces := by
  obtain ⟨next, more, rfl⟩ := List.exists_cons_of_ne_nil h
  rfl

theorem withEnds_append (ending : List Char) (pieces : List (List Char))
    {more : List (List Char)} (h : more ≠ []) :
    withEnds ending (pieces ++ more) = pieces.map (· ++ ending) ++ withEnds ending more := by
  induction pieces with
  | nil => rfl
  | cons piece pieces ih =>
    rw [List.cons_append, withEnds_cons _ _ (List.append_ne_nil_of_right_ne_nil pieces h), ih,
      List.map_cons, List.cons_append]

theorem withEnds_consFirst {ending : List Char} (c : Char) {pieces : List (List Char)}
    (h : pieces ≠ []) :
    withEnds ending (consFirst c pieces) = consFirst c (withEnds ending pieces) := by
  match pieces with
  | [] => exact absurd rfl h
  | [piece] => rfl
  | piece :: next :: more => rfl

theorem flatten_withEnds (ending : List Char) (pieces : List (List Char)) :
    (withEnds ending pieces).flatten = ending.intercalate pieces := by
  induction pieces with
  | nil => rfl
  | cons piece pieces ih =>
    cases pieces with
    | nil => simp [withEnds]
    | cons next more =>
      rw [withEnds, List.flatten_cons, ih, List.intercalate_cons_cons, List.append_assoc]

theorem length_withEnds (ending : List Char) (pieces : List (List Char)) :
    (withEnds ending pieces).length = pieces.length := by
  induction pieces with
  | nil => rfl
  | cons piece pieces ih =>
    cases pieces with
    | nil => rfl
    | cons next more => rw [withEnds, List.length_cons, ih, ← List.length_cons]

theorem withEnds_ne_nil (ending : List Char) {pieces : List (List Char)} (h : pieces ≠ []) :
    withEnds ending pieces ≠ [] := by
  rw [← List.length_pos_iff, length_withEnds]
  exact List.length_pos_iff.mpr h

/-! ## The two ways to cut -/

theorem splitLf_ne_nil (cs : List Char) : splitLf cs ≠ [] := by
  cases cs with
  | nil => simp [splitLf]
  | cons c rest =>
    rw [splitLf]
    split_ifs
    · simp
    · exact consFirst_ne_nil _ _

theorem splitCrLf_ne_nil (cs : List Char) : splitCrLf cs ≠ [] := by
  fun_cases splitCrLf cs
  · simp
  · simp
  · exact consFirst_ne_nil _ _

theorem countCrLf_le_countLf (cs : List Char) : countCrLf cs ≤ countLf cs := by
  fun_induction countCrLf cs with
  | case1 => exact Nat.zero_le _
  | case2 rest ih =>
    simp only [countLf, List.count_cons] at ih ⊢
    simp
    omega
  | case3 c rest _ ih =>
    simp only [countLf, List.count_cons] at ih ⊢
    omega

theorem chunks_eq_withEnds_splitLf (cs : List Char) : chunks cs = withEnds ['\n'] (splitLf cs) := by
  induction cs with
  | nil => rfl
  | cons c rest ih =>
    rw [chunks, splitLf]
    split_ifs with h
    · rw [ih, withEnds_cons _ _ (splitLf_ne_nil rest), List.nil_append]
    · rw [ih, withEnds_consFirst c (splitLf_ne_nil rest)]

theorem countCrLf_eq_cons {c : Char} {rest : List Char}
    (hne : ∀ more, c = '\r' → rest = '\n' :: more → False)
    (h : countCrLf (c :: rest) = countLf (c :: rest)) :
    c ≠ '\n' ∧ countCrLf rest = countLf rest := by
  have hle := countCrLf_le_countLf rest
  have hcount : countCrLf (c :: rest) = countCrLf rest := by
    rw [countCrLf]
    exact hne
  have hc : c ≠ '\n' := by
    rintro rfl
    rw [hcount, countLf, List.count_cons_self] at h
    rw [countLf] at hle
    omega
  refine ⟨hc, ?_⟩
  rw [← hcount, h, countLf, countLf, List.count_cons_of_ne hc]

theorem chunks_eq_withEnds_splitCrLf {cs : List Char} (h : countCrLf cs = countLf cs) :
    chunks cs = withEnds ['\r', '\n'] (splitCrLf cs) := by
  fun_induction splitCrLf cs with
  | case1 => rfl
  | case2 rest ih =>
    have hrest : countCrLf rest = countLf rest := by
      simpa [countCrLf, countLf, List.count_cons] using h
    rw [withEnds_cons _ _ (splitCrLf_ne_nil rest), ← ih hrest]
    simp [chunks, consFirst]
  | case3 c rest hne ih =>
    obtain ⟨hc, hrest⟩ := countCrLf_eq_cons hne h
    rw [chunks, if_neg hc, ih hrest, withEnds_consFirst c (splitCrLf_ne_nil rest)]

theorem withEnds_interleave (ending : List Char) (front : Int → List (List Char)) (first : Int)
    (pieces : List (List Char)) :
    withEnds ending (interleave front first pieces) =
      interleave (fun n => (front n).map (· ++ ending)) first (withEnds ending pieces) := by
  induction pieces generalizing first with
  | nil => rfl
  | cons piece pieces ih =>
    rw [interleave, withEnds_append ending (front first) (List.cons_ne_nil _ _)]
    cases pieces with
    | nil => rfl
    | cons next more =>
      have hne : interleave front (first + 1) (next :: more) ≠ [] :=
        interleave_ne_nil (List.cons_ne_nil next more)
      rw [withEnds_cons _ _ hne, ih, withEnds, interleave]

/-! ## Pieces read back -/

theorem not_mem_of_mem_consFirst {c : Char} (hc : c ≠ '\n') {pieces : List (List Char)}
    (h : ∀ p ∈ pieces, '\n' ∉ p) : ∀ p ∈ consFirst c pieces, '\n' ∉ p := by
  intro p hp
  cases pieces with
  | nil =>
    rw [consFirst, List.mem_singleton] at hp
    simpa [hp] using hc.symm
  | cons piece pieces =>
    rcases List.mem_cons.mp hp with rfl | hp
    · simpa [hc.symm] using h piece List.mem_cons_self
    · exact h p (List.mem_cons_of_mem _ hp)

theorem not_mem_splitLf (cs : List Char) : ∀ p ∈ splitLf cs, '\n' ∉ p := by
  induction cs with
  | nil => simp [splitLf]
  | cons c rest ih =>
    rw [splitLf]
    split_ifs with h
    · intro p hp
      rcases List.mem_cons.mp hp with rfl | hp
      · simp
      · exact ih p hp
    · exact not_mem_of_mem_consFirst h ih

theorem not_mem_splitCrLf {cs : List Char} (h : countCrLf cs = countLf cs) :
    ∀ p ∈ splitCrLf cs, '\n' ∉ p := by
  fun_induction splitCrLf cs with
  | case1 => simp
  | case2 rest ih =>
    have hrest : countCrLf rest = countLf rest := by
      simpa [countCrLf, countLf, List.count_cons] using h
    intro p hp
    rcases List.mem_cons.mp hp with rfl | hp
    · simp
    · exact ih hrest p hp
  | case3 c rest hne ih =>
    obtain ⟨hc, hrest⟩ := countCrLf_eq_cons hne h
    exact not_mem_of_mem_consFirst hc (ih hrest)

theorem splitLf_of_not_mem {piece : List Char} (h : '\n' ∉ piece) : splitLf piece = [piece] := by
  induction piece with
  | nil => rfl
  | cons c piece ih =>
    rw [List.mem_cons, not_or] at h
    rw [splitLf, if_neg (Ne.symm h.1), ih h.2, consFirst]

theorem splitLf_append {piece : List Char} (h : '\n' ∉ piece) (rest : List Char) :
    splitLf (piece ++ '\n' :: rest) = piece :: splitLf rest := by
  induction piece with
  | nil => simp [splitLf]
  | cons c piece ih =>
    rw [List.mem_cons, not_or] at h
    rw [List.cons_append, splitLf, if_neg (Ne.symm h.1), ih h.2, consFirst]

theorem splitCrLf_of_not_mem {piece : List Char} (h : '\n' ∉ piece) :
    splitCrLf piece = [piece] := by
  induction piece with
  | nil => rfl
  | cons c piece ih =>
    rw [List.mem_cons, not_or] at h
    rw [splitCrLf, ih h.2, consFirst]
    rintro rest rfl rfl
    simp at h

theorem splitCrLf_append {piece : List Char} (h : '\n' ∉ piece) (rest : List Char) :
    splitCrLf (piece ++ '\r' :: '\n' :: rest) = piece :: splitCrLf rest := by
  induction piece with
  | nil => simp [splitCrLf]
  | cons c piece ih =>
    rw [List.mem_cons, not_or] at h
    rw [List.cons_append, splitCrLf, ih h.2, consFirst]
    -- behind a return of the piece comes another of its characters, or the return of the pair
    intro more _ hmore
    cases piece with
    | nil => simp at hmore
    | cons d piece =>
      simp only [List.cons_append, List.cons.injEq] at hmore
      simp [hmore.1] at h

theorem splitLf_withEnds {pieces : List (List Char)} (hne : pieces ≠ [])
    (h : ∀ p ∈ pieces, '\n' ∉ p) : splitLf (withEnds ['\n'] pieces).flatten = pieces := by
  induction pieces with
  | nil => exact absurd rfl hne
  | cons piece pieces ih =>
    have hpiece := h piece List.mem_cons_self
    cases pieces with
    | nil => simpa [withEnds] using splitLf_of_not_mem hpiece
    | cons next more =>
      have hi := ih (List.cons_ne_nil _ _) fun p hp => h p (List.mem_cons_of_mem _ hp)
      rw [withEnds, List.flatten_cons, List.append_assoc, List.singleton_append,
        splitLf_append hpiece, hi]

theorem splitCrLf_withEnds {pieces : List (List Char)} (hne : pieces ≠ [])
    (h : ∀ p ∈ pieces, '\n' ∉ p) :
    splitCrLf (withEnds ['\r', '\n'] pieces).flatten = pieces := by
  induction pieces with
  | nil => exact absurd rfl hne
  | cons piece pieces ih =>
    have hpiece := h piece List.mem_cons_self
    cases pieces with
    | nil => simpa [withEnds] using splitCrLf_of_not_mem hpiece
    | cons next more =>
      have hi := ih (List.cons_ne_nil _ _) fun p hp => h p (List.mem_cons_of_mem _ hp)
      rw [withEnds, List.flatten_cons, List.append_assoc, List.cons_append, List.singleton_append,
        splitCrLf_append hpiece, hi]

/-! ## Line feeds and pairs -/

theorem countLf_append {piece : List Char} (h : '\n' ∉ piece) (rest : List Char) :
    countLf (piece ++ '\n' :: rest) = countLf rest + 1 := by
  rw [countLf, List.count_append, List.count_eq_zero.mpr h, List.count_cons_self, countLf]
  omega

theorem countCrLf_append {piece : List Char} (h : '\n' ∉ piece) (rest : List Char) :
    countCrLf (piece ++ '\n' :: rest) =
      countCrLf rest + if piece.getLast? = some '\r' then 1 else 0 := by
  induction piece with
  | nil => simp [countCrLf]
  | cons c piece ih =>
    rw [List.mem_cons, not_or] at h
    cases piece with
    | nil =>
      by_cases hc : c = '\r'
      · simp [countCrLf, hc]
      · simp [countCrLf, hc]
    | cons d piece =>
      have hd : '\n' ≠ d := fun hd => h.2 (hd ▸ List.mem_cons_self)
      rw [List.getLast?_cons_cons, ← ih h.2, List.cons_append, countCrLf]
      intro more _ hmore
      simp only [List.cons_append, List.cons.injEq] at hmore
      exact hd hmore.1.symm

theorem counts_withEnds {pieces : List (List Char)} (hne : pieces ≠ [])
    (h : ∀ p ∈ pieces, '\n' ∉ p) :
    countLf (withEnds ['\n'] pieces).flatten = pieces.dropLast.length ∧
      countCrLf (withEnds ['\n'] pieces).flatten =
        pieces.dropLast.countP fun p => p.getLast? = some '\r' := by
  induction pieces with
  | nil => exact absurd rfl hne
  | cons piece pieces ih =>
    have hpiece := h piece List.mem_cons_self
    cases pieces with
    | nil =>
      have hzero : countLf piece = 0 := List.count_eq_zero.mpr hpiece
      have hle := countCrLf_le_countLf piece
      simp only [withEnds, List.flatten_cons, List.flatten_nil, List.append_nil,
        List.dropLast_singleton, List.length_nil, List.countP_nil]
      omega
    | cons next more =>
      obtain ⟨hlf, hcrlf⟩ := ih (List.cons_ne_nil _ _) fun p hp => h p (List.mem_cons_of_mem _ hp)
      rw [withEnds, List.flatten_cons, List.append_assoc, List.singleton_append,
        countLf_append hpiece, countCrLf_append hpiece, hlf, hcrlf]
      simp only [List.dropLast_cons_cons, List.length_cons, List.countP_cons, decide_eq_true_eq,
        and_self]

theorem withEnds_withEnds (a b : List Char) (pieces : List (List Char)) :
    withEnds b (withEnds a pieces) = withEnds (a ++ b) pieces := by
  induction pieces with
  | nil => rfl
  | cons piece pieces ih =>
    cases pieces with
    | nil => rfl
    | cons next more =>
      have hne := withEnds_ne_nil a (List.cons_ne_nil next more)
      rw [withEnds, withEnds_cons _ _ hne, ih, withEnds, List.append_assoc]

theorem dropLast_withEnds (ending : List Char) (pieces : List (List Char)) :
    (withEnds ending pieces).dropLast = pieces.dropLast.map (· ++ ending) := by
  induction pieces with
  | nil => rfl
  | cons piece pieces ih =>
    cases pieces with
    | nil => rfl
    | cons next more =>
      have hne := withEnds_ne_nil ending (List.cons_ne_nil next more)
      rw [withEnds, List.dropLast_cons_of_ne_nil hne, ih, List.dropLast_cons_cons (x := piece),
        List.map_cons]

theorem getElem?_withEnds (ending : List Char) (pieces : List (List Char)) (k : Nat) :
    (withEnds ending pieces)[k]? =
      pieces[k]?.map fun piece => piece ++ if k + 1 < pieces.length then ending else [] := by
  induction pieces generalizing k with
  | nil => rfl
  | cons piece pieces ih =>
    cases pieces with
    | nil => cases k <;> simp [withEnds]
    | cons next more =>
      cases k with
      | zero => simp [withEnds]
      | succ k =>
        rw [withEnds, List.getElem?_cons_succ, ih, List.getElem?_cons_succ]
        simp only [List.length_cons, Nat.add_lt_add_iff_right]

theorem mem_withEnds {ending : List Char} {pieces : List (List Char)} {p : List Char}
    (h : p ∈ withEnds ending pieces) : ∃ piece ∈ pieces, p = piece ∨ p = piece ++ ending := by
  induction pieces with
  | nil => simp [withEnds] at h
  | cons piece pieces ih =>
    cases pieces with
    | nil => exact ⟨piece, by simp, Or.inl (List.mem_singleton.mp h)⟩
    | cons next more =>
      rw [withEnds] at h
      rcases List.mem_cons.mp h with rfl | h
      · exact ⟨piece, by simp, Or.inr rfl⟩
      · obtain ⟨other, hother, heq⟩ := ih h
        exact ⟨other, List.mem_cons_of_mem _ hother, heq⟩

end Text

/-! ## Buffers -/

@[simp] theorem Newline.lf_toList : Newline.lf.text.toList = ['\n'] := by decide

@[simp] theorem Newline.crlf_toList : Newline.crlf.text.toList = ['\r', '\n'] := by decide

namespace LineBuffer

theorem detect_eq_crlf_iff {cs : List Char} :
    Newline.detect cs = .crlf ↔ Text.countLf cs ≠ 0 ∧ Text.countCrLf cs = Text.countLf cs := by
  unfold Newline.detect
  dsimp only
  split_ifs with h
  · simp only [true_iff]
    omega
  · simp only [false_iff]
    omega

theorem ofText_newline (text : String) : (ofText text).newline = Newline.detect text.toList := rfl

theorem ofText_lines (text : String) :
    (ofText text).lines.map String.toList = (ofText text).newline.split text.toList := by
  simp only [ofText, List.map_map]
  exact List.map_id'' (fun cs => by simp) _

theorem chunks_eq_withEnds (text : String) :
    Text.chunks text.toList =
      Text.withEnds (ofText text).newline.text.toList
        ((ofText text).lines.map String.toList) := by
  rw [ofText_lines]
  cases h : (ofText text).newline with
  | lf => exact Text.chunks_eq_withEnds_splitLf _
  | crlf =>
    exact Text.chunks_eq_withEnds_splitCrLf (detect_eq_crlf_iff.mp h).2

theorem length_chunks (text : String) :
    (Text.chunks text.toList).length = (ofText text).lines.length := by
  rw [chunks_eq_withEnds, Text.length_withEnds, List.length_map]

theorem toText_eq (buffer : LineBuffer) :
    buffer.toText = String.ofList
      (Text.withEnds buffer.newline.text.toList (buffer.lines.map String.toList)).flatten := by
  rw [toText, Text.join, Text.flatten_withEnds]

theorem toText_ofText (text : String) : (ofText text).toText = text := by
  rw [toText_eq, ← chunks_eq_withEnds, Text.flatten_chunks, String.ofList_toList]

theorem ofText_lines_ne_nil (text : String) : (ofText text).lines ≠ [] := by
  intro hnil
  have hsplit := ofText_lines text
  rw [hnil, List.map_nil] at hsplit
  cases h : (ofText text).newline with
  | lf => exact Text.splitLf_ne_nil text.toList (by rw [h] at hsplit; exact hsplit.symm)
  | crlf => exact Text.splitCrLf_ne_nil text.toList (by rw [h] at hsplit; exact hsplit.symm)

theorem not_mem_ofText_lines (text : String) :
    ∀ line ∈ (ofText text).lines, '\n' ∉ line.toList := by
  intro line hline
  have hmem := List.mem_map_of_mem (f := String.toList) hline
  rw [ofText_lines] at hmem
  cases h : (ofText text).newline with
  | lf => exact Text.not_mem_splitLf _ _ (by rw [h] at hmem; exact hmem)
  | crlf =>
    exact Text.not_mem_splitCrLf (detect_eq_crlf_iff.mp h).2 _ (by rw [h] at hmem; exact hmem)

/-- The lines of a text between line feeds show its line end: the pair stands for itself, and the
single line feed shows in a line that does not end in a return, or there is one line only. -/
def Shows (lines : List String) : Newline → Prop
  | .crlf => 2 ≤ lines.length
  | .lf => lines.length = 1 ∨ ∃ line ∈ lines.dropLast, line.toList.getLast? ≠ some '\r'

theorem detect_withEnds_lf_iff {pieces : List (List Char)} (hne : pieces ≠ [])
    (h : ∀ p ∈ pieces, '\n' ∉ p) :
    Newline.detect (Text.withEnds ['\n'] pieces).flatten = .crlf ↔
      2 ≤ pieces.length ∧ ∀ p ∈ pieces.dropLast, p.getLast? = some '\r' := by
  obtain ⟨hlf, hcrlf⟩ := Text.counts_withEnds hne h
  have hlen : pieces.dropLast.length ≠ 0 ↔ 2 ≤ pieces.length := by
    rw [List.length_dropLast]
    omega
  rw [detect_eq_crlf_iff, hlf, hcrlf, hlen, List.countP_eq_length]
  simp only [decide_eq_true_eq]

theorem detect_withEnds_crlf {pieces : List (List Char)} (hlen : 2 ≤ pieces.length)
    (h : ∀ p ∈ pieces, '\n' ∉ p) :
    Newline.detect (Text.withEnds ['\r', '\n'] pieces).flatten = .crlf := by
  have hsame := Text.withEnds_withEnds ['\r'] ['\n'] pieces
  have hlast := Text.dropLast_withEnds ['\r'] pieces
  have hlength := Text.length_withEnds ['\r'] pieces
  have hne : Text.withEnds ['\r'] pieces ≠ [] :=
    Text.withEnds_ne_nil _ (List.length_pos_iff.mp (by omega))
  rw [List.singleton_append] at hsame
  rw [← hsame, detect_withEnds_lf_iff hne]
  · refine ⟨by omega, ?_⟩
    rw [hlast]
    intro p hp
    obtain ⟨piece, -, rfl⟩ := List.mem_map.mp hp
    simp
  · intro p hp
    obtain ⟨piece, hpiece, rfl | rfl⟩ := Text.mem_withEnds hp
    · exact h _ hpiece
    · simpa using h _ hpiece

theorem ofText_toText {lines : List String} {newline : Newline} (hne : lines ≠ [])
    (hlf : ∀ line ∈ lines, '\n' ∉ line.toList) (hshows : Shows lines newline) :
    ofText (toText ⟨lines, newline⟩) = ⟨lines, newline⟩ := by
  have hpieces : ∀ p ∈ lines.map String.toList, '\n' ∉ p := by
    intro p hp
    obtain ⟨line, hline, rfl⟩ := List.mem_map.mp hp
    exact hlf line hline
  have hne' : lines.map String.toList ≠ [] := by simpa using hne
  have hdetect : Newline.detect (toText ⟨lines, newline⟩).toList = newline := by
    rw [toText_eq, String.toList_ofList]
    cases newline with
    | crlf =>
      rw [Newline.crlf_toList]
      exact detect_withEnds_crlf (by rw [List.length_map]; exact hshows) hpieces
    | lf =>
      rw [Newline.lf_toList]
      rcases hmode : Newline.detect
        (Text.withEnds ['\n'] (lines.map String.toList)).flatten with _ | _
      · rfl
      · obtain ⟨hlen, hall⟩ := (detect_withEnds_lf_iff hne' hpieces).mp hmode
        rcases hshows with hone | ⟨line, hline, hbare⟩
        · rw [List.length_map] at hlen
          omega
        · rw [← List.map_dropLast] at hall
          exact absurd (hall _ (List.mem_map_of_mem hline)) hbare
  have hlines : (ofText (toText ⟨lines, newline⟩)).lines.map String.toList =
      lines.map String.toList := by
    rw [ofText_lines, ofText_newline, hdetect, toText_eq, String.toList_ofList]
    cases newline with
    | crlf =>
      rw [Newline.crlf_toList]
      exact Text.splitCrLf_withEnds hne' hpieces
    | lf =>
      rw [Newline.lf_toList]
      exact Text.splitLf_withEnds hne' hpieces
  have hinj : Function.Injective (List.map String.toList) :=
    List.map_injective_iff.mpr fun a b hab => String.toList_inj.mp hab
  have hfirst := hinj hlines
  have hsecond : (ofText (toText ⟨lines, newline⟩)).newline = newline := hdetect
  cases hb : ofText (toText ⟨lines, newline⟩)
  rw [hb] at hfirst hsecond
  rw [← hfirst, ← hsecond]

theorem ofText_shows (text : String) : Shows (ofText text).lines (ofText text).newline := by
  have hne := ofText_lines_ne_nil text
  have hne' : (ofText text).lines.map String.toList ≠ [] := by simpa using hne
  have hlf : ∀ p ∈ (ofText text).lines.map String.toList, '\n' ∉ p := by
    intro p hp
    obtain ⟨line, hline, rfl⟩ := List.mem_map.mp hp
    exact not_mem_ofText_lines text line hline
  have hpos : 0 < (ofText text).lines.length := List.length_pos_iff.mpr hne
  have htext := Text.flatten_chunks text.toList
  rw [chunks_eq_withEnds] at htext
  cases hmode : (ofText text).newline with
  | crlf =>
    show 2 ≤ (ofText text).lines.length
    by_contra hlen
    obtain ⟨line, hline⟩ := List.length_eq_one_iff.mp
      (show (ofText text).lines.length = 1 by omega)
    rw [hline] at hlf htext
    have hcount := (detect_eq_crlf_iff.mp hmode).1
    rw [← htext] at hcount
    exact hcount (List.count_eq_zero.mpr (by simpa [Text.withEnds] using hlf))
  | lf =>
    show _ ∨ _
    by_contra hall
    rw [not_or] at hall
    have hdetect := (detect_withEnds_lf_iff hne' hlf).mpr ⟨by rw [List.length_map]; omega, ?_⟩
    · rw [hmode, Newline.lf_toList] at htext
      rw [htext] at hdetect
      exact absurd (hmode.symm.trans hdetect) (by decide)
    · intro p hp
      rw [← List.map_dropLast] at hp
      obtain ⟨line, hline, rfl⟩ := List.mem_map.mp hp
      by_contra hbare
      exact hall.2 ⟨line, hline, hbare⟩

/-- A block as it stands in a text: every line with its end. -/
def blockChunks (newline : Newline) (edit : Edit) : List (List Char) :=
  edit.block.map fun line => line.toList ++ newline.text.toList

/-- The text with blocks in front of its lines: right before the first character of the line of each
edit stand the lines of its block, each with the line end that the text has. -/
def withBlocks (text : String) (edits : List Edit) : String :=
  String.ofList (interleave (frontAt (blockChunks (ofText text).newline) edits) 1
    (Text.chunks text.toList)).flatten

theorem withBlocks_nil (text : String) : withBlocks text [] = text := by
  rw [withBlocks, interleave_eq_self fun n _ _ => frontAt_nil n, Text.flatten_chunks,
    String.ofList_toList]

theorem toText_interleave (text : String) (edits : List Edit) :
    toText ⟨interleave (frontAt Edit.block edits) 1 (ofText text).lines, (ofText text).newline⟩ =
      withBlocks text edits := by
  rw [toText_eq, withBlocks, chunks_eq_withEnds, map_interleave, Text.withEnds_interleave]
  simp only [map_frontAt, List.map_map]
  rfl

/-! ## Blocks read back -/

theorem Shows.interleave {lines : List String} {newline : Newline} (h : Shows lines newline)
    {front : Int → List String}
    (hfront : ∀ n, ∀ line ∈ front n, line.toList.getLast? ≠ some '\r') :
    Shows (interleave front 1 lines) newline := by
  cases newline with
  | crlf => exact le_trans h (le_length_interleave front 1 lines)
  | lf =>
    rcases h with hone | ⟨line, hline, hbare⟩
    · obtain ⟨line, rfl⟩ := List.length_eq_one_iff.mp hone
      rcases hblock : front 1 with _ | ⟨first, rest⟩
      · left
        simp [ExpectError.interleave, hblock]
      · right
        refine ⟨first, ?_, hfront 1 first (by simp [hblock])⟩
        simp only [ExpectError.interleave, hblock, List.cons_append]
        rw [List.dropLast_cons_of_ne_nil (by simp)]
        exact List.mem_cons_self
    · right
      exact ⟨line, mem_dropLast_interleave hline, hbare⟩

/-- **Written lines are read back.** The text of a buffer with blocks between its lines gives the
same lines and the same line end again. -/
theorem ofText_toText_interleave (text : String) {edits : List Edit}
    (hblocks : ∀ edit ∈ edits, ∀ line ∈ edit.block, OneLine line) :
    ofText (withBlocks text edits) =
      ⟨interleave (frontAt Edit.block edits) 1 (ofText text).lines, (ofText text).newline⟩ := by
  have hfront : ∀ n, ∀ line ∈ frontAt Edit.block edits n, OneLine line := by
    intro n line hline
    obtain ⟨edit, hedit, hmem⟩ := mem_frontAt hline
    exact hblocks edit hedit line hmem
  have hne := ofText_lines_ne_nil text
  rw [← toText_interleave]
  refine ofText_toText (interleave_ne_nil hne) (fun line hline => ?_)
    ((ofText_shows text).interleave fun n line hline => (hfront n line hline).2)
  rcases mem_interleave hline with hline | ⟨n, hline⟩
  · exact not_mem_ofText_lines text line hline
  · exact (hfront n line hline).1

end LineBuffer

/-! ## Blocks of one-line texts -/

theorem oneLine_note {config : Config} (hdirective : '\n' ∉ config.directive.toList)
    (htodo : '\n' ∉ config.todo.toList) : OneLine config.note := by
  have hnote : config.note.toList = config.directive.toList ++ ' ' :: config.todo.toList ++
      ": fix error and remove".toList := by
    simp [Config.note]
  unfold OneLine
  rw [hnote]
  constructor
  · simp [hdirective, htodo]
  · simp [List.getLast?_append, List.getLast?_cons]

theorem oneLine_commentLine {style : CommentStyle} (h : style ≠ .skip) (target : String)
    {text : String} (htext : OneLine text) : OneLine (commentLine style target text) := by
  have hline : (commentLine style target text).toList =
      List.replicate (Markup.leadingSpaces target) ' ' ++ style.form.opening.toList ++
        text.toList ++ style.form.closing.toList := by
    simp [commentLine]
  unfold OneLine
  rw [hline]
  cases style with
  | skip => exact absurd rfl h
  | plain =>
    constructor
    · simp [CommentStyle.form, htext.1]
    · -- the last character is that of the text, or else the space in front of it
      have hlast := htext.2
      rcases htail : text.toList.getLast? with _ | c
      · simp [CommentStyle.form, List.getLast?_append, List.getLast?_cons, htail]
      · rw [htail] at hlast
        simpa [CommentStyle.form, List.getLast?_append, List.getLast?_cons, htail] using hlast
  | embedded =>
    constructor
    · simp [CommentStyle.form, htext.1]
    · simp [CommentStyle.form, List.getLast?_append, List.getLast?_cons]

theorem IsBlock.oneLine {config : Config} (hdirective : '\n' ∉ config.directive.toList)
    (htodo : '\n' ∉ config.todo.toList) {messages : List String}
    (hmessages : ∀ message ∈ messages, OneLine message) {target : String} {block : List String}
    (h : IsBlock config messages target block) : ∀ line ∈ block, OneLine line := by
  obtain ⟨style, hstyle, rfl⟩ := h.comments
  intro line hline
  obtain ⟨text, htext, rfl⟩ := List.mem_map.mp hline
  apply oneLine_commentLine hstyle
  rcases List.mem_append.mp htext with htext | htext
  · exact hmessages text htext
  · rw [List.mem_singleton.mp htext]
    exact oneLine_note hdirective htodo

section Placed

variable {rules : SiteRules} {sites : List Site} {text : String} {edits : List Edit}
  {after : List String} (h : Placed rules sites (LineBuffer.ofText text).lines edits after)

include h

theorem Placed.toText :
    LineBuffer.toText ⟨after, (LineBuffer.ofText text).newline⟩ =
      LineBuffer.withBlocks text edits := by
  rw [h.after, LineBuffer.toText_interleave]

theorem Placed.ofText_withBlocks (hdirective : '\n' ∉ rules.config.directive.toList)
    (htodo : '\n' ∉ rules.config.todo.toList)
    (hmessages : ∀ site ∈ sites, ∀ message ∈ site.messages, OneLine message) :
    LineBuffer.ofText (LineBuffer.withBlocks text edits) =
      ⟨after, (LineBuffer.ofText text).newline⟩ := by
  rw [LineBuffer.ofText_toText_interleave text, h.after]
  intro edit hedit
  obtain ⟨site, hsite, hends⟩ := h.ends edit hedit
  exact hends.of_edited.2.2.2.oneLine hdirective htodo (hmessages site hsite)

end Placed

end ExpectError
