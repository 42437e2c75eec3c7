import ExpectError.Proofs.FileLines

/-!
# Several passes over one text

A text that gets blocks, is read again and gets more blocks. The lines that it began with are all
still there, at numbers that can be told from the edits (`landingThrough`, `itemAt_landingThrough`),
and a line keeps its number exactly if every edit was below it (`landingThrough_eq_self_iff`). If
each pass stays above all edits of the passes before, the passes are as good as one: every block
goes in front of the line that had its number at the start (`chunks_foldl_withBlocks`,
`inserts_foldl`).

Blocks are counted in rows here, which are what stands between line feeds. A block line that holds a
line feed makes several rows.
-/

namespace ExpectError

open LineBuffer (ofText withBlocks blockChunks)

/-! ## The rows of a block -/

/-- What stands in front of the line feed of a line end. -/
def Newline.lead : Newline → List Char
  | .lf => []
  | .crlf => ['\r']

theorem Newline.toList_text (newline : Newline) : newline.text.toList = newline.lead ++ ['\n'] := by
  cases newline <;> decide

theorem Newline.not_mem_append_lead {piece : List Char} (h : '\n' ∉ piece) (newline : Newline) :
    '\n' ∉ piece ++ newline.lead := by
  rw [List.mem_append, not_or]
  exact ⟨h, by cases newline <;> decide⟩

/-- The rows of a block, without their line feeds. -/
def blockPieces (newline : Newline) (edit : Edit) : List (List Char) :=
  edit.block.flatMap fun line => Text.splitLf (line.toList ++ newline.lead)

def blockRows (newline : Newline) (edit : Edit) : List (List Char) :=
  (blockPieces newline edit).map (· ++ ['\n'])

theorem flatten_map_splitLf (cs : List Char) :
    ((Text.splitLf cs).map (· ++ ['\n'])).flatten = cs ++ ['\n'] := by
  induction cs with
  | nil => rfl
  | cons c rest ih =>
    rw [Text.splitLf]
    split_ifs with h
    · rw [List.map_cons, List.flatten_cons, ih, h]
      rfl
    · obtain ⟨piece, more, hpieces⟩ := List.exists_cons_of_ne_nil (Text.splitLf_ne_nil rest)
      rw [hpieces] at ih ⊢
      simp only [Text.consFirst, List.map_cons, List.flatten_cons, List.cons_append] at ih ⊢
      rw [ih]

theorem flatten_blockRows (newline : Newline) (edit : Edit) :
    (blockRows newline edit).flatten = (blockChunks newline edit).flatten := by
  unfold blockRows blockPieces blockChunks
  induction edit.block with
  | nil => rfl
  | cons line lines ih =>
    rw [List.flatMap_cons, List.map_append, List.flatten_append, ih, flatten_map_splitLf,
      List.map_cons, List.flatten_cons, Newline.toList_text]
    simp only [List.append_assoc]

theorem blockRows_ne_nil (newline : Newline) {edit : Edit} (h : edit.block ≠ []) :
    blockRows newline edit ≠ [] := by
  obtain ⟨line, lines, hblock⟩ := List.exists_cons_of_ne_nil h
  unfold blockRows blockPieces
  rw [hblock, List.flatMap_cons]
  simp [Text.splitLf_ne_nil]

theorem chunks_withEnds {pieces : List (List Char)} (hne : pieces ≠ [])
    (h : ∀ p ∈ pieces, '\n' ∉ p) :
    Text.chunks (Text.withEnds ['\n'] pieces).flatten = Text.withEnds ['\n'] pieces := by
  rw [Text.chunks_eq_withEnds_splitLf, Text.splitLf_withEnds hne h]

theorem flatten_interleave_congr {front front' : Int → List (List Char)} (first : Int)
    (items : List (List Char)) (h : ∀ n, (front n).flatten = (front' n).flatten) :
    (interleave front first items).flatten = (interleave front' first items).flatten := by
  induction items generalizing first with
  | nil => rfl
  | cons item items ih =>
    rw [interleave, interleave, List.flatten_append, List.flatten_append, List.flatten_cons,
      List.flatten_cons, ih, h]

/-- **The rows of a text with blocks** are its rows, with the rows of the blocks between them. -/
theorem chunks_withBlocks (text : String) (edits : List Edit) :
    Text.chunks (withBlocks text edits).toList =
      interleave (frontAt (blockRows (ofText text).newline) edits) 1 (Text.chunks text.toList) := by
  have hrows : interleave (frontAt (blockRows (ofText text).newline) edits) 1
      (Text.chunks text.toList) = Text.withEnds ['\n'] (interleave
        (frontAt (blockPieces (ofText text).newline) edits) 1 (Text.splitLf text.toList)) := by
    rw [Text.withEnds_interleave, Text.chunks_eq_withEnds_splitLf]
    simp only [map_frontAt]
    rfl
  have hflat : (withBlocks text edits).toList = (interleave
      (frontAt (blockRows (ofText text).newline) edits) 1 (Text.chunks text.toList)).flatten := by
    rw [withBlocks, String.toList_ofList]
    refine flatten_interleave_congr 1 _ fun n => ?_
    unfold frontAt
    split
    · exact (flatten_blockRows _ _).symm
    · rfl
  rw [hflat, hrows, chunks_withEnds (interleave_ne_nil (Text.splitLf_ne_nil _))]
  intro p hp
  rcases mem_interleave hp with hp | ⟨n, hp⟩
  · exact Text.not_mem_splitLf _ p hp
  · obtain ⟨edit, -, hp⟩ := mem_frontAt hp
    obtain ⟨line, -, hp⟩ := List.mem_flatMap.mp hp
    exact Text.not_mem_splitLf _ p hp

/-! ## Where the lines go -/

/-- Edits that one pass may make to a text. -/
structure PassOk (text : String) (edits : List Edit) : Prop where
  descending : Descending Edit.line edits
  bounds : ∀ e ∈ edits, 1 ≤ e.line ∧ e.line ≤ (Text.chunks text.toList).length
  blocks : ∀ e ∈ edits, e.block ≠ []

theorem Placed.passOk {rules : SiteRules} {sites : List Site} {text : String} {edits : List Edit}
    {after : List String} (h : Placed rules sites (ofText text).lines edits after) :
    PassOk text edits where
  descending := h.descending
  bounds edit hedit := by
    rw [LineBuffer.length_chunks]
    exact itemAt_bounds (h.target hedit)
  blocks edit hedit := by
    obtain ⟨site, -, hends⟩ := h.ends edit hedit
    have hlength := hends.of_edited.2.2.2.length
    exact List.length_pos_iff.mp (by omega)

/-- Edits that passes may make, each to the text that the one before has left. -/
def PassesOk : String → List (List Edit) → Prop
  | _, [] => True
  | text, edits :: more => PassOk text edits ∧ PassesOk (withBlocks text edits) more

/-- The number that a line of a text has after some passes. -/
def landingThrough : String → List (List Edit) → Int → Int
  | _, [], n => n
  | text, edits :: more, n =>
    landingThrough (withBlocks text edits) more
      (landing (fun e => (blockRows (ofText text).newline e).length) edits n)

theorem landingThrough_append (text : String) (passes more : List (List Edit)) (n : Int) :
    landingThrough text (passes ++ more) n =
      landingThrough (passes.foldl withBlocks text) more (landingThrough text passes n) := by
  induction passes generalizing text n with
  | nil => rfl
  | cons edits passes ih => exact ih _ _

theorem landingThrough_lt {text : String} {passes : List (List Edit)} {n m : Int} (h : n < m) :
    landingThrough text passes n < landingThrough text passes m := by
  induction passes generalizing text n m with
  | nil => exact h
  | cons edits passes ih => exact ih (landing_lt_landing _ edits h)

theorem landingThrough_inj {text : String} {passes : List (List Edit)} {n m : Int} :
    landingThrough text passes n = landingThrough text passes m ↔ n = m := by
  refine ⟨fun h => ?_, fun h => by rw [h]⟩
  rcases lt_trichotomy n m with hlt | heq | hgt
  · exact absurd h (landingThrough_lt hlt).ne
  · exact heq
  · exact absurd h.symm (landingThrough_lt hgt).ne

theorem le_landingThrough (text : String) (passes : List (List Edit)) (n : Int) :
    n ≤ landingThrough text passes n := by
  induction passes generalizing text n with
  | nil => exact le_refl n
  | cons edits passes ih => exact le_trans (le_landing _ edits n) (ih _ _)

theorem landingThrough_eq_self_iff {text : String} {passes : List (List Edit)}
    (hok : PassesOk text passes) {n : Int} :
    landingThrough text passes n = n ↔ ∀ e ∈ passes.flatten, n < e.line := by
  induction passes generalizing text with
  | nil => simp [landingThrough]
  | cons edits passes ih =>
    obtain ⟨hfirst, hrest⟩ := hok
    have hself := @landing_eq_self_iff (fun e => (blockRows (ofText text).newline e).length) edits
      (fun e he => List.length_pos_iff.mpr (blockRows_ne_nil _ (hfirst.blocks e he))) n
    simp only [List.flatten_cons, List.forall_mem_append]
    rw [← hself, ← ih hrest, landingThrough]
    constructor
    · intro h
      have hlow := le_landing (fun e => (blockRows (ofText text).newline e).length) edits n
      have hhigh := le_landingThrough (withBlocks text edits) passes
        (landing (fun e => (blockRows (ofText text).newline e).length) edits n)
      have heq : landing (fun e => (blockRows (ofText text).newline e).length) edits n = n := by
        omega
      exact ⟨heq, by rw [heq] at h; exact h⟩
    · rintro ⟨heq, h⟩
      rw [heq, h]

theorem itemAt_landingThrough {text : String} {passes : List (List Edit)}
    (hok : PassesOk text passes) {n : Int} (hlow : 1 ≤ n)
    (hhigh : n ≤ (Text.chunks text.toList).length) :
    itemAt (Text.chunks (passes.foldl withBlocks text).toList) (landingThrough text passes n) =
      itemAt (Text.chunks text.toList) n := by
  induction passes generalizing text n with
  | nil => rfl
  | cons edits passes ih =>
    obtain ⟨hfirst, hrest⟩ := hok
    have hline := itemAt_interleave (blockRows (ofText text).newline) hfirst.descending
      (fun e he => (hfirst.bounds e he).1) hlow hhigh
    rw [← chunks_withBlocks] at hline
    obtain ⟨item, hitem⟩ := exists_itemAt hlow hhigh
    obtain ⟨hlow', hhigh'⟩ := itemAt_bounds (hline.trans hitem)
    rw [List.foldl_cons, landingThrough, ih hrest hlow' hhigh', hline]

theorem itemAt_withBlocks {text : String} {edits : List Edit} (hok : PassOk text edits) {n : Int}
    (hn : ∀ e ∈ edits, n < e.line) :
    itemAt (Text.chunks (withBlocks text edits).toList) n = itemAt (Text.chunks text.toList) n := by
  rcases edits with _ | ⟨edit, edits⟩
  · rw [LineBuffer.withBlocks_nil]
  · have hhigh := (hok.bounds edit List.mem_cons_self).2
    have hlt := hn edit List.mem_cons_self
    by_cases hlow : n < 1
    · rw [itemAt, itemAt, if_pos hlow, if_pos hlow]
    · have hline := itemAt_interleave (blockRows (ofText text).newline) hok.descending
        (fun e he => (hok.bounds e he).1) (show 1 ≤ n by omega)
        (show n ≤ (Text.chunks text.toList).length by omega)
      rw [landing_eq_self hn, ← chunks_withBlocks] at hline
      exact hline

theorem itemAt_foldl_withBlocks {text : String} {passes : List (List Edit)}
    (hok : PassesOk text passes) {n : Int} (hn : ∀ e ∈ passes.flatten, n < e.line) :
    itemAt (Text.chunks (passes.foldl withBlocks text).toList) n =
      itemAt (Text.chunks text.toList) n := by
  induction passes generalizing text with
  | nil => rfl
  | cons edits passes ih =>
    rw [List.flatten_cons, List.forall_mem_append] at hn
    rw [List.foldl_cons, ih hok.2 hn.2, itemAt_withBlocks hok.1 hn.1]

/-! ## Passes in order -/

/-- What passes put in front of a line, if none of them disturbs another. -/
def frontThrough : String → List (List Edit) → Int → List (List Char)
  | _, [], _ => []
  | text, edits :: more, n =>
    frontThrough (withBlocks text edits) more n ++
      frontAt (blockRows (ofText text).newline) edits n

theorem frontThrough_eq_nil {text : String} {passes : List (List Edit)} {n : Int}
    (h : ∀ e ∈ passes.flatten, e.line ≠ n) : frontThrough text passes n = [] := by
  induction passes generalizing text with
  | nil => rfl
  | cons edits passes ih =>
    rw [List.flatten_cons, List.forall_mem_append] at h
    rw [frontThrough, ih h.2, frontAt_eq_nil h.1, List.append_nil]

theorem frontThrough_line (text : String) {passes : List (List Edit)}
    (hdesc : Descending Edit.line passes.flatten) {edit : Edit} (hedit : edit ∈ passes.flatten) :
    ∃ newline, frontThrough text passes edit.line = blockRows newline edit := by
  induction passes generalizing text with
  | nil => simp at hedit
  | cons edits passes ih =>
    rw [List.flatten_cons] at hdesc hedit
    obtain ⟨hfirst, hrest, hcross⟩ := descending_append.mp hdesc
    rw [frontThrough]
    rcases List.mem_append.mp hedit with hedit | hedit
    · refine ⟨(ofText text).newline, ?_⟩
      rw [frontThrough_eq_nil fun e he => (hcross edit hedit e he).ne, frontAt_line hfirst hedit,
        List.nil_append]
    · rw [frontAt_eq_nil fun e he => (hcross e he edit hedit).ne', List.append_nil]
      exact ih _ hrest hedit

theorem chunks_foldl_withBlocks {text : String} {passes : List (List Edit)}
    (hdesc : Descending Edit.line passes.flatten) :
    Text.chunks (passes.foldl withBlocks text).toList =
      interleave (frontThrough text passes) 1 (Text.chunks text.toList) := by
  induction passes generalizing text with
  | nil => exact (interleave_eq_self fun n _ _ => rfl).symm
  | cons edits passes ih =>
    rw [List.flatten_cons] at hdesc
    obtain ⟨-, hrest, hcross⟩ := descending_append.mp hdesc
    rw [List.foldl_cons, ih hrest, chunks_withBlocks, interleave_interleave]
    · rfl
    · intro n hne k hk
      obtain ⟨e, he, hline⟩ : ∃ e ∈ passes.flatten, e.line = n := by
        by_contra hnone
        exact hne (frontThrough_eq_nil fun e he hline => hnone ⟨e, he, hline⟩)
      refine frontAt_eq_nil fun e' he' => ?_
      have := hcross e' he' e he
      omega

theorem bounds_of_descending {text : String} {passes : List (List Edit)}
    (hok : PassesOk text passes) (hdesc : Descending Edit.line passes.flatten) :
    ∀ e ∈ passes.flatten, 1 ≤ e.line ∧ e.line ≤ (Text.chunks text.toList).length := by
  induction passes generalizing text with
  | nil => simp
  | cons edits passes ih =>
    rw [List.flatten_cons] at hdesc ⊢
    obtain ⟨-, hrest, hcross⟩ := descending_append.mp hdesc
    refine List.forall_mem_append.mpr ⟨hok.1.bounds, fun e he => ?_⟩
    have hlater := ih hok.2 hrest e he
    rcases edits with _ | ⟨edit, edits⟩
    · rwa [LineBuffer.withBlocks_nil] at hlater
    · have hlt := hcross edit List.mem_cons_self e he
      have hbound := (hok.1.bounds edit List.mem_cons_self).2
      exact ⟨hlater.1, by omega⟩

/-! ## Characters -/

/-- The new text is the old one with the blocks of edits in front of lines, with line ends that are
allowed. It comes in pieces, one for each line of the old text, end included: what is new, then the
line. Without what is new, the pieces are the old text. -/
def Inserts (allowed : Newline → Prop) (edits : List Edit) (old new : String) : Prop :=
  ∃ pieces : List (List Char × List Char),
    pieces.map Prod.snd = Text.chunks old.toList ∧
    (pieces.flatMap Prod.snd) = old.toList ∧
    (pieces.flatMap fun piece => piece.1 ++ piece.2) = new.toList ∧
    (∀ edit ∈ edits, ∃ newline line, allowed newline ∧
      itemAt pieces edit.line = some ((blockChunks newline edit).flatten, line)) ∧
    ∀ n piece, itemAt pieces n = some piece → (∀ edit ∈ edits, edit.line ≠ n) → piece.1 = []

theorem flatten_interleave (front : Int → List (List Char)) (first : Int)
    (items : List (List Char)) :
    (interleave front first items).flatten =
      (items.mapIdx fun i item => ((front (first + i)).flatten, item)).flatMap
        fun piece => piece.1 ++ piece.2 := by
  induction items generalizing first with
  | nil => rfl
  | cons item items ih =>
    have hshift : ∀ i : Nat, first + 1 + i = first + (i + 1 : Nat) := by
      intro i
      push_cast
      ring
    rw [interleave, List.flatten_append, List.flatten_cons, ih, List.mapIdx_cons, List.flatMap_cons]
    simp [hshift]

theorem inserts_of_interleave {allowed : Newline → Prop} {edits : List Edit} {old new : String}
    (front : Int → List (List Char))
    (hnew : new.toList = (interleave front 1 (Text.chunks old.toList)).flatten)
    (hbounds : ∀ e ∈ edits, 1 ≤ e.line ∧ e.line ≤ (Text.chunks old.toList).length)
    (hline : ∀ e ∈ edits, ∃ newline, allowed newline ∧
      (front e.line).flatten = (blockChunks newline e).flatten)
    (hfree : ∀ n, (∀ e ∈ edits, e.line ≠ n) → front n = []) : Inserts allowed edits old new := by
  have hnumber : ∀ n : Int, 1 ≤ n → 1 + ((n - 1).toNat : Int) = n := by omega
  have hsnd : ((Text.chunks old.toList).mapIdx fun i line =>
      ((front (1 + i)).flatten, line)).map Prod.snd = Text.chunks old.toList :=
    List.ext_getElem (by simp) fun i _ _ => by simp
  refine ⟨_, hsnd, ?_, ?_, ?_, ?_⟩
  · rw [List.flatMap_def, hsnd, Text.flatten_chunks]
  · rw [← flatten_interleave, hnew]
  · intro edit hedit
    obtain ⟨hlow, hhigh⟩ := hbounds edit hedit
    obtain ⟨line, hitem⟩ := exists_itemAt hlow hhigh
    obtain ⟨newline, hallowed, hblock⟩ := hline edit hedit
    refine ⟨newline, line, hallowed, ?_⟩
    rw [itemAt_mapIdx, hitem, Option.map_some, hnumber _ hlow, hblock]
  · intro n piece hpiece hnone
    rw [itemAt_mapIdx, Option.map_eq_some_iff] at hpiece
    obtain ⟨line, hitem, rfl⟩ := hpiece
    show List.flatten _ = []
    rw [hnumber _ (itemAt_bounds hitem).1, hfree n hnone, List.flatten_nil]

theorem inserts_withBlocks {text : String} {edits : List Edit} (hok : PassOk text edits) :
    Inserts (· = (ofText text).newline) edits text (withBlocks text edits) := by
  refine inserts_of_interleave (frontAt (blockChunks (ofText text).newline) edits) ?_
    hok.bounds (fun e he => ⟨_, rfl, ?_⟩) fun n hnone => frontAt_eq_nil hnone
  · rw [withBlocks, String.toList_ofList]
  · rw [frontAt_line hok.descending he]

theorem inserts_foldl {text : String} {passes : List (List Edit)} (hok : PassesOk text passes)
    (hdesc : Descending Edit.line passes.flatten) :
    Inserts (fun _ => True) passes.flatten text (passes.foldl withBlocks text) := by
  refine inserts_of_interleave (frontThrough text passes) ?_
    (bounds_of_descending hok hdesc) (fun e he => ?_) fun n hnone => frontThrough_eq_nil hnone
  · rw [← chunks_foldl_withBlocks hdesc, Text.flatten_chunks]
  · obtain ⟨newline, hfront⟩ := frontThrough_line text hdesc he
    exact ⟨newline, trivial, by rw [hfront, flatten_blockRows]⟩

end ExpectError
