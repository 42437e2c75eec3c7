import ExpectError.Proofs.SiteEntries

/-!
# Comments that hold what is put into them

A comment that is written around a text should end where its form says that it ends. A line comment
goes on to the end of the line, so the text must not end the line; a comment in braces goes on to
the first `*/`, so the text must not hold one either (`completeComment_iff`). A message of a report
holds no line feed, but it may hold the other characters that end a line of source, and `*/`.
`comments_complete_iff` says for every block of a run when it is made of complete comments, and
`message_ends_comment` shows blocks that are not.
-/

namespace ExpectError

open LineBuffer (ofText)

variable {σ : Type}

/-! ## The first occurrence of a word -/

/-- What stands behind the first occurrence of a word that is not empty. -/
def behindFirst? (word : List Char) : List Char → Option (List Char)
  | [] => none
  | c :: text =>
    if word.isPrefixOf (c :: text) then some ((c :: text).drop word.length)
    else behindFirst? word text

theorem prefix_of_prefix_append {word more : List Char} (text : List Char) {c : Char}
    (hc : c ∉ word) (h : word <+: text ++ c :: more) : word <+: text := by
  rcases List.prefix_or_prefix_of_prefix h (List.prefix_append text (c :: more)) with
    hword | ⟨tail, rfl⟩
  · exact hword
  · rw [List.prefix_append_right_inj] at h
    cases tail with
    | nil => simp
    | cons d tail =>
      obtain ⟨rfl, -⟩ := List.cons_prefix_cons.mp h
      simp at hc

theorem infix_append_cons_iff {word text more : List Char} {c : Char} (hc : c ∉ word)
    (hword : word ≠ []) : word <:+: text ++ c :: more ↔ word <:+: text ∨ word <:+: more := by
  induction text with
  | nil =>
    have hnot : ¬ word <+: c :: more := fun h =>
      hword (List.prefix_nil.mp (prefix_of_prefix_append [] hc h))
    simp [List.infix_cons_iff, hnot, hword]
  | cons d text ih =>
    have hprefix : word <+: d :: (text ++ c :: more) ↔ word <+: d :: text :=
      ⟨fun h => prefix_of_prefix_append (d :: text) hc h,
        fun h => h.trans (List.prefix_append (d :: text) (c :: more))⟩
    rw [List.cons_append, List.infix_cons_iff, ih, hprefix, List.infix_cons_iff, or_assoc]

theorem behindFirst?_of_infix {word text : List Char} (hword : word ≠ []) (h : word <:+: text)
    (more : List Char) : ∃ rest, behindFirst? word (text ++ more) = some (rest ++ more) := by
  induction text with
  | nil => exact absurd (List.infix_nil.mp h) hword
  | cons c text ih =>
    rw [List.cons_append, behindFirst?]
    split_ifs with hprefix
    · refine ⟨(c :: text).drop word.length, ?_⟩
      rw [← List.cons_append, List.drop_append_of_le_length h.length_le]
    · rw [List.isPrefixOf_iff_prefix] at hprefix
      rcases List.infix_cons_iff.mp h with hhead | htail
      · exact absurd (hhead.trans (List.prefix_append (c :: text) more)) hprefix
      · exact ih htail

theorem behindFirst?_of_not_infix {word text rest : List Char} {c : Char} (hc : c ∉ word)
    (hword : word ≠ []) (h : ¬ word <:+: text) :
    behindFirst? word (text ++ c :: (word ++ rest)) = some rest := by
  induction text with
  | nil =>
    have hnot : ¬ word <+: c :: (word ++ rest) := fun h =>
      hword (List.prefix_nil.mp (prefix_of_prefix_append [] hc h))
    rw [List.nil_append, behindFirst?, if_neg (by rwa [List.isPrefixOf_iff_prefix])]
    obtain ⟨d, tail, rfl⟩ := List.exists_cons_of_ne_nil hword
    have hprefix : d :: tail <+: d :: (tail ++ rest) := List.prefix_append (d :: tail) rest
    rw [List.cons_append, behindFirst?, if_pos (by rwa [List.isPrefixOf_iff_prefix])]
    simp
  | cons d text ih =>
    rw [List.infix_cons_iff, not_or] at h
    have hnot : ¬ word <+: d :: (text ++ c :: (word ++ rest)) := fun hprefix =>
      h.1 (prefix_of_prefix_append (d :: text) hc hprefix)
    rw [List.cons_append, behindFirst?, if_neg (by rwa [List.isPrefixOf_iff_prefix])]
    exact ih h.2

/-! ## One comment -/

/-- The characters that end a line of source. -/
def lineTerminators : List Char :=
  ['\n', '\r', '\u2028', '\u2029']

theorem forall_lineTerminators {p : Char → Prop} :
    (∀ c ∈ lineTerminators, p c) ↔ p '\n' ∧ p '\r' ∧ p '\u2028' ∧ p '\u2029' := by
  simp [lineTerminators]

/-- The characters that end a comment in braces. -/
def commentEnd : List Char :=
  ['*', '/']

/-- A line without its indentation is a comment of a style, from its first character to its last:
the first end of a comment in braces is the one that its form puts there. -/
def IsComment : CommentStyle → List Char → Prop
  | .plain, line => ∃ text, line = "// ".toList ++ text
  | .embedded, line => ∃ text, line = "\x7b/* ".toList ++ (text ++ " */\x7d".toList) ∧
      behindFirst? commentEnd (text ++ " */\x7d".toList) = some ['\x7d']
  | .skip, _ => False

/-- The line is one line of source, and is one comment behind its indentation. -/
structure CompleteComment (style : CommentStyle) (line : String) : Prop where
  oneLine : ∀ c ∈ lineTerminators, c ∉ line.toList
  comment : IsComment style (line.toList.dropWhile (· = ' '))

/-- A text that a comment of a style can hold. -/
structure FitsComment (style : CommentStyle) (text : String) : Prop where
  oneLine : ∀ c ∈ lineTerminators, c ∉ text.toList
  closes : style = .embedded → ¬ commentEnd <:+: text.toList

theorem commentLine_toList (style : CommentStyle) (target text : String) :
    (commentLine style target text).toList =
      List.replicate (Markup.leadingSpaces target) ' ' ++
        (style.form.opening.toList ++ (text.toList ++ style.form.closing.toList)) := by
  simp [commentLine]

theorem dropWhile_commentLine {style : CommentStyle} (h : style ≠ .skip) (target text : String) :
    (commentLine style target text).toList.dropWhile (· = ' ') =
      style.form.opening.toList ++ (text.toList ++ style.form.closing.toList) := by
  have hspaces : ∀ (n : Nat) (rest : List Char), rest.dropWhile (· = ' ') = rest →
      (List.replicate n ' ' ++ rest).dropWhile (· = ' ') = rest := by
    intro n rest hrest
    rw [List.dropWhile_append]
    simp [hrest]
  rw [commentLine_toList]
  apply hspaces
  cases style with
  | plain => rfl
  | embedded => rfl
  | skip => exact absurd rfl h

theorem isComment_embedded_iff (text : List Char) :
    IsComment .embedded ("\x7b/* ".toList ++ (text ++ " */\x7d".toList)) ↔
      ¬ commentEnd <:+: text := by
  have hword : commentEnd ≠ [] := by decide
  constructor
  · rintro ⟨text', heq, hfirst⟩ hinfix
    rw [← List.append_cancel_left heq] at hfirst
    obtain ⟨rest, hrest⟩ := behindFirst?_of_infix hword hinfix " */\x7d".toList
    rw [hrest, Option.some.injEq] at hfirst
    have hlength := congrArg List.length hfirst
    simp at hlength
  · intro h
    exact ⟨text, rfl, behindFirst?_of_not_infix (by decide) hword h⟩

theorem completeComment_iff {style : CommentStyle} (h : style ≠ .skip) (target text : String) :
    CompleteComment style (commentLine style target text) ↔ FitsComment style text := by
  -- the indentation and the marks hold no line terminator, so the line has those of its text
  have hclean : ∀ c ∈ lineTerminators,
      c ∉ List.replicate (Markup.leadingSpaces target) ' ' ∧ c ∉ style.form.opening.toList ∧
        c ∉ style.form.closing.toList := by
    intro c hc
    refine ⟨fun hmem => ?_, ?_⟩
    · rw [List.eq_of_mem_replicate hmem] at hc
      exact absurd hc (by decide)
    · revert c
      rw [forall_lineTerminators]
      cases style <;> decide
  have hline : (∀ c ∈ lineTerminators, c ∉ (commentLine style target text).toList) ↔
      ∀ c ∈ lineTerminators, c ∉ text.toList := by
    refine forall₂_congr fun c hc => ?_
    obtain ⟨hspaces, hopening, hclosing⟩ := hclean c hc
    simp only [commentLine_toList, List.mem_append, hspaces, hopening, hclosing, false_or, or_false]
  have hcomment : IsComment style ((commentLine style target text).toList.dropWhile (· = ' ')) ↔
      (style = .embedded → ¬ commentEnd <:+: text.toList) := by
    rw [dropWhile_commentLine h]
    cases style with
    | plain => exact iff_of_true ⟨_, rfl⟩ (by simp)
    | embedded => exact (isComment_embedded_iff text.toList).trans (by simp)
    | skip => exact absurd rfl h
  exact ⟨fun hcomplete => ⟨hline.mp hcomplete.oneLine, hcomment.mp hcomplete.comment⟩,
    fun hfits => ⟨hline.mpr hfits.oneLine, hcomment.mpr hfits.closes⟩⟩

theorem fitsComment_note {config : Config} (hdirective : FitsComment .embedded config.directive)
    (htodo : FitsComment .embedded config.todo) (style : CommentStyle) :
    FitsComment style config.note := by
  have hnote : config.note.toList = config.directive.toList ++ ' ' :: (config.todo.toList ++
      ':' :: " fix error and remove".toList) := by
    simp [Config.note]
  have hword : commentEnd ≠ [] := by decide
  refine ⟨fun c hc => ?_, fun _ => ?_⟩
  · have hrest : c ∉ ' ' :: ':' :: " fix error and remove".toList := by
      revert c
      rw [forall_lineTerminators]
      decide
    have := hdirective.oneLine c hc
    have := htodo.oneLine c hc
    rw [hnote]
    simp_all
  · rw [hnote, infix_append_cons_iff (by decide) hword, infix_append_cons_iff (by decide) hword]
    have hrest : ¬ commentEnd <:+: " fix error and remove".toList := by decide
    exact not_or.mpr ⟨hdirective.closes rfl, not_or.mpr ⟨htodo.closes rfl, hrest⟩⟩

/-! ## The blocks of a run -/

theorem runReport_isBlock {config : Config} {decide : Decider σ} {generator : Random.Twister}
    {report : Path} {disk : Disk} {state : σ} {name : String} {edit : Edit}
    (h : (name, edit) ∈ (eventsOf (runReport config decide generator report disk state).entries
      ).filterMap Event.edit?) :
    ∃ text selected, disk.readText report = .ok text ∧
      (select config generator (Diagnostic.ofReport (ofText text).lines) disk state).result =
        .ok selected ∧
      IsBlock config ((selected.filter fun d => d.path = name ∧ d.line = edit.line).map
        Diagnostic.message) edit.target edit.block := by
  obtain ⟨preview, record, hentry, hending⟩ := exists_record_of_edit h
  obtain ⟨text, selected, plan, remaining, disk', state', content, htext, hselect, hreached, rfl, -,
    hrecord⟩ := runReport_record hentry
  have hplan := hreached.mem
  have hedit : edit ∈
      (plan.mutation config decide remaining (ofText content).lines state').edits :=
    Mutation.mem_edits_iff.mpr (List.mem_map.mpr ⟨record, hrecord, hending⟩)
  obtain ⟨site, hsite, hends⟩ := Mutation.edits_endsAs _ _
    ((EditPlan.ofDiagnostics_grouped selected).descending plan hplan) _ _ hedit
  obtain ⟨-, -, hline, hblock⟩ := hends.of_edited
  rw [EditPlan.site_messages hplan hsite, hline] at hblock
  exact ⟨text, selected, htext, hselect, hblock⟩

/-- **When a block is made of complete comments.** The directive and the word in front of the note
are such that a comment can hold them. Then each line of a block that a run over a report makes, for
a message or for the note, is a comment of one style around it and one line of the file. The one for
the note is complete. The one for a message is complete exactly if the message holds no character
that ends a line of source and, for a comment in braces, no `*/`; so a block is made of complete
comments exactly if this holds of all messages that the report has for its line. -/
theorem comments_complete_iff {config : Config}
    (hdirective : FitsComment .embedded config.directive)
    (htodo : FitsComment .embedded config.todo) (decide : Decider σ) (generator : Random.Twister)
    (report : Path) (disk : Disk) (state : σ) {name : String} {edit : Edit}
    (hedit : (name, edit) ∈ (eventsOf (runReport config decide generator report disk state).entries
      ).filterMap Event.edit?) :
    ∃ text selected style, disk.readText report = .ok text ∧
      (select config generator (Diagnostic.ofReport (ofText text).lines) disk state).result =
        .ok selected ∧
      let messages := (selected.filter fun d => d.path = name ∧ d.line = edit.line).map
        Diagnostic.message
      style ≠ .skip ∧
      edit.block = (messages ++ [config.note]).map (commentLine style edit.target) ∧
      (∀ line ∈ edit.block, OneLine line) ∧
      CompleteComment style (commentLine style edit.target config.note) ∧
      (∀ message ∈ messages, CompleteComment style (commentLine style edit.target message) ↔
        FitsComment style message) ∧
      ((∀ line ∈ edit.block, CompleteComment style line) ↔
        ∀ message ∈ messages, FitsComment style message) := by
  obtain ⟨text, selected, htext, hselect, hblock⟩ := runReport_isBlock hedit
  obtain ⟨style, hstyle, hlines⟩ := hblock.comments
  refine ⟨text, selected, style, htext, hselect, ?_⟩
  intro messages
  have hmessages : ∀ message ∈ messages, OneLine message := by
    intro message hmessage
    obtain ⟨d, hd, rfl⟩ := List.mem_map.mp hmessage
    exact Diagnostic.ofReport_message (select_mem hselect d (List.mem_filter.mp hd).1)
  have hnote : CompleteComment style (commentLine style edit.target config.note) :=
    (completeComment_iff hstyle _ _).mpr (fitsComment_note hdirective htodo style)
  refine ⟨hstyle, hlines, ?_, hnote, fun message _ => completeComment_iff hstyle _ _, ?_⟩
  · exact hblock.oneLine (hdirective.oneLine '\n' (by decide)) (htodo.oneLine '\n' (by decide))
      hmessages
  · rw [hlines, List.forall_mem_map, List.forall_mem_append, List.forall_mem_singleton]
    simp only [hnote, and_true, completeComment_iff hstyle]
    rfl

/-- A block in braces, with a star and a slash in its message that do not meet. -/
theorem comments_complete_iff_apart :
    let config := ({} : Draft).freeze
    let disk : Disk :=
      { nodes := [(["a.tsx"], .file "<b>\n  \x7bn\x7d\n</b>\n".toUTF8),
          (["log"], .file "a.tsx(2,4): error TS2322: Type '* /' is no number.\n".toUTF8)] }
    let edit : Edit :=
      ⟨2, ["  \x7b/* Type '* /' is no number. */\x7d",
        "  \x7b/* @ts-expect-error TODO: fix error and remove */\x7d"], "  \x7bn\x7d"⟩
    ("a.tsx", edit) ∈ (eventsOf (runReport config (Decider.fixed .embedded) (.ofSeed 0)
      (Path.ofText "log") disk ()).entries).filterMap Event.edit? ∧
    ∃ style, ∀ line ∈ edit.block, CompleteComment style line := by
  intro config disk edit
  have hfits : ∀ text, text ∈ [config.directive, config.todo, "Type '* /' is no number."] →
      ∀ style, FitsComment style text := by
    intro text htext style
    refine ⟨?_, fun _ => ?_⟩
    · rw [forall_lineTerminators]
      revert text
      decide +kernel
    · revert text
      decide +kernel
  have hedit : ("a.tsx", edit) ∈ (eventsOf (runReport config (Decider.fixed .embedded) (.ofSeed 0)
      (Path.ofText "log") disk ()).entries).filterMap Event.edit? := by
    decide +kernel
  have hreport : disk.readText (Path.ofText "log") =
      .ok "a.tsx(2,4): error TS2322: Type '* /' is no number.\n" :=
    eq_ok_of_toOption (by decide +kernel)
  obtain ⟨text, selected, style, htext, hselect, -, -, -, -, -, hall⟩ :=
    comments_complete_iff (hfits _ (by simp) _) (hfits _ (by simp) _) _ _ _ _ _ hedit
  obtain rfl := Except.ok.inj (hreport.symm.trans htext)
  obtain rfl := Except.ok.inj hselect
  refine ⟨hedit, style, hall.mpr fun message hmessage => hfits message ?_ style⟩
  revert message
  decide +kernel

/-- **A message that ends its comment.** One holds `*/` and stands in braces, so that the rest of it
is outside the comment; the other holds a return and stands behind two slashes, so that the rest of
it is a line of source. -/
theorem message_ends_comment :
    let config := ({} : Draft).freeze
    let braces : Disk :=
      { nodes := [(["a.tsx"], .file "<b>\n  \x7bn\x7d\n</b>\n".toUTF8),
          (["log"], .file "a.tsx(2,4): error TS2322: Type '\"*/\"' is no number.\n".toUTF8)] }
    let slashes : Disk :=
      { nodes := [(["a.ts"], .file "x\n".toUTF8),
          (["log"], .file "a.ts(1,1): error TS1: m\rn\n".toUTF8)] }
    FitsComment .embedded config.directive ∧ FitsComment .embedded config.todo ∧
    (∃ edit, ("a.tsx", edit) ∈ (eventsOf (runReport config (Decider.fixed .embedded) (.ofSeed 0)
        (Path.ofText "log") braces ()).entries).filterMap Event.edit? ∧
      ∃ line ∈ edit.block, ∀ style, ¬ CompleteComment style line) ∧
    ∃ edit, ("a.ts", edit) ∈ (eventsOf (runReport config (Decider.fixed .plain) (.ofSeed 0)
        (Path.ofText "log") slashes ()).entries).filterMap Event.edit? ∧
      ∃ line ∈ edit.block, ∀ style, ¬ CompleteComment style line := by
  intro config braces slashes
  refine ⟨⟨forall_lineTerminators.mpr (by decide +kernel), fun _ => by decide +kernel⟩,
    ⟨forall_lineTerminators.mpr (by decide +kernel), fun _ => by decide +kernel⟩, ?_, ?_⟩
  · let message := "Type '\"*/\"' is no number."
    refine ⟨⟨2, [message, config.note].map (commentLine .embedded "  \x7bn\x7d"), "  \x7bn\x7d"⟩,
      by decide +kernel, commentLine .embedded "  \x7bn\x7d" message, by simp, ?_⟩
    intro style hcomplete
    cases style with
    | skip => exact hcomplete.comment
    | plain =>
      obtain ⟨text, htext⟩ := hcomplete.comment
      rw [dropWhile_commentLine (by decide)] at htext
      have hhead := congrArg List.head? htext
      simp [CommentStyle.form] at hhead
    | embedded =>
      have hfits := (completeComment_iff (by decide) _ _).mp hcomplete
      exact hfits.closes rfl (by decide +kernel)
  · refine ⟨⟨1, ["// m\rn", "// @ts-expect-error TODO: fix error and remove"], "x"⟩,
      by decide +kernel, "// m\rn", by simp, ?_⟩
    intro style hcomplete
    exact hcomplete.oneLine '\r' (by decide) (by decide +kernel)

end ExpectError
