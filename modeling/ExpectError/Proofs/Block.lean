import ExpectError.Proofs.Interleave

/-!
# The block in front of a line

What a block is made of, said without the way it is put together: one comment for each message, in
their order, and one more that holds the directive, all as far in as the line below them
(`IsBlock`). `block_isBlock` says that every block that is not empty is of this form, and
`block_eq_nil_iff` that only a declined site has an empty one. The second half says when a line
counts as silenced.
-/

namespace ExpectError

open Markup (leadingSpaces)

/-! ## Words in lines -/

/-- The line holds the word. -/
def Carries (word line : String) : Prop :=
  word.toList <:+: line.toList

theorem occursIn_iff {word text : List Char} : Text.occursIn word text = true ↔ word <:+: text := by
  induction text with
  | nil => simp [Text.occursIn]
  | cons c rest ih =>
    rw [Text.occursIn, Bool.or_eq_true, List.isPrefixOf_iff_prefix, ih, List.infix_cons_iff]

/-- The line above a number holds the directive. The first line has none above it. -/
def Suppressed (directive : String) (lines : List String) (n : Int) : Prop :=
  ∃ above, itemAt lines (n - 1) = some above ∧ Carries directive above

theorem isSuppressed_iff {directive : String} {lines : List String} {n : Int} {target : String}
    (h : itemAt lines n = some target) :
    isSuppressed directive lines (n - 1).toNat = true ↔ Suppressed directive lines n := by
  have hb := itemAt_bounds h
  unfold Suppressed
  rcases hindex : (n - 1).toNat with _ | above
  · have hnone : itemAt lines (n - 1) = none := itemAt_eq_none_iff.mpr (by omega)
    simp [isSuppressed, hnone]
  · have hlt : above < lines.length := by omega
    have hsome : itemAt lines (n - 1) = some lines[above] := by
      rw [itemAt, if_neg (by omega), show (n - 1 - 1).toNat = above by omega,
        List.getElem?_eq_getElem hlt]
    simp only [isSuppressed, occursIn_iff, List.getElem?_eq_getElem hlt, Option.getD_some, hsome,
      Option.some.injEq, exists_eq_left', Carries]

theorem Suppressed.congr (directive : String) {lines lines' : List String} {n : Int}
    (h : itemAt lines (n - 1) = itemAt lines' (n - 1)) :
    Suppressed directive lines n ↔ Suppressed directive lines' n := by
  unfold Suppressed
  rw [h]

/-! ## Comments -/

/-- The line that holds a text as a comment: it starts as far in as the target. -/
def commentLine (style : CommentStyle) (target text : String) : String :=
  String.ofList (List.replicate (leadingSpaces target) ' ') ++
    (style.form.opening ++ text ++ style.form.closing)

theorem CommentStyle.render_eq {style : CommentStyle} (h : style ≠ .skip) (text : String) :
    style.render text = some (style.form.opening ++ text ++ style.form.closing) := by
  cases style with
  | plain => rfl
  | embedded => rfl
  | skip => exact absurd rfl h

theorem carries_commentLine (style : CommentStyle) (target text : String) :
    Carries text (commentLine style target text) := by
  refine ⟨List.replicate (leadingSpaces target) ' ' ++ style.form.opening.toList,
    style.form.closing.toList, ?_⟩
  simp [commentLine]

theorem leadingSpaces_commentLine {style : CommentStyle} (h : style ≠ .skip)
    (target text : String) :
    leadingSpaces (commentLine style target text) = leadingSpaces target := by
  have hspaces : ∀ (n : Nat) (rest : List Char), rest.takeWhile (· = ' ') = [] →
      ((List.replicate n ' ' ++ rest).takeWhile (· = ' ')).length = n := by
    intro n rest hrest
    rw [List.takeWhile_append]
    simp [hrest]
  have htext : (commentLine style target text).toList =
      List.replicate (leadingSpaces target) ' ' ++
        (style.form.opening.toList ++ (text.toList ++ style.form.closing.toList)) := by
    simp [commentLine]
  rw [leadingSpaces, htext]
  apply hspaces
  cases style with
  | plain => rfl
  | embedded => rfl
  | skip => exact absurd rfl h

/-! ## Blocks -/

/-- The lines of a block for some messages in front of a line. -/
structure IsBlock (config : Config) (messages : List String) (target : String)
    (block : List String) : Prop where
  /-- There is one comment for each message, in their order, and one for the note. -/
  comments : ∃ style : CommentStyle, style ≠ .skip ∧
    block = (messages ++ [config.note]).map (commentLine style target)
  /-- The last line holds the directive. -/
  directive : ∃ body last, block = body ++ [last] ∧ body.length = messages.length ∧
    Carries config.directive last
  /-- Every line starts as far in as the target. -/
  indented : ∀ line ∈ block, leadingSpaces line = leadingSpaces target

theorem carries_note (config : Config) : Carries config.directive config.note := by
  refine ⟨[], (" " ++ config.todo ++ ": fix error and remove").toList, ?_⟩
  simp [Config.note]

theorem block_eq_map {style : CommentStyle} (h : style ≠ .skip) (config : Config)
    (messages : List String) (target : String) :
    config.block messages style (leadingSpaces target) =
      (messages ++ [config.note]).map (commentLine style target) := by
  unfold Config.block
  rw [← List.filterMap_eq_map]
  congr 1
  funext text
  simp [CommentStyle.render_eq h, commentLine]

theorem block_eq_nil_iff {config : Config} {messages : List String} {style : CommentStyle}
    {target : String} :
    config.block messages style (leadingSpaces target) = [] ↔ style = .skip := by
  constructor
  · intro hnil
    by_contra h
    rw [block_eq_map h] at hnil
    simp at hnil
  · rintro rfl
    simp [Config.block, CommentStyle.render, CommentStyle.form, CommentForm.render]

theorem block_isBlock {style : CommentStyle} (h : style ≠ .skip) (config : Config)
    (messages : List String) (target : String) :
    IsBlock config messages target (config.block messages style (leadingSpaces target)) := by
  rw [block_eq_map h]
  refine ⟨⟨style, h, rfl⟩, ?_, ?_⟩
  · refine ⟨messages.map (commentLine style target), commentLine style target config.note,
      by simp, by simp, ?_⟩
    exact (carries_note config).trans (carries_commentLine style target config.note)
  · intro line hline
    obtain ⟨text, _, rfl⟩ := List.mem_map.mp hline
    exact leadingSpaces_commentLine h target text

theorem IsBlock.length {config : Config} {messages : List String} {target : String}
    {block : List String} (h : IsBlock config messages target block) :
    block.length = messages.length + 1 := by
  obtain ⟨body, last, rfl, hlen, _⟩ := h.directive
  simp [hlen]

end ExpectError
