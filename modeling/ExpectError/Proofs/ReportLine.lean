import ExpectError.Diagnostic
import Mathlib.Data.List.TakeWhile
import Mathlib.Tactic

/-!
# The form of a report line

A text in report form has its parts in one way only: the path ends at the first parenthesis, each
number where its digits end, and each blank is one character. So the form is given by its parts
(`Form`, `Form.text`), and taking a line apart finds them exactly where there are any
(`Parts.ofLine?_eq_some_iff`). A line is read once the returns and line feeds at its end are off and
if its numbers can be read (`ofLine?_eq_some_iff`); `report_form_exact` puts this together.

The message is what stands behind the last blank, so it is one line wherever it is put, whichever
line end is used there (`ofLine?_message`).
-/

namespace ExpectError

/-- A text that is one line of any file: it holds no line feed, and no line feed behind it makes a
pair with its end. -/
def OneLine (text : String) : Prop :=
  '\n' ∉ text.toList ∧ text.toList.getLast? ≠ some '\r'

namespace Diagnostic

/-! ## The front of a text -/

theorem span_eq_iff {α : Type} {p : α → Bool} {text front rest : List α} :
    text.span p = (front, rest) ↔
      text = front ++ rest ∧ (∀ c ∈ front, p c = true) ∧ ∀ c ∈ rest.head?, p c = false := by
  rw [List.span_eq_takeWhile_dropWhile, Prod.mk.injEq]
  constructor
  · rintro ⟨rfl, rfl⟩
    refine ⟨(List.takeWhile_append_dropWhile ..).symm, fun c => List.mem_takeWhile_imp, ?_⟩
    intro c hc
    have hnot := List.head?_dropWhile_not p text
    rwa [hc] at hnot
  · rintro ⟨rfl, hfront, hrest⟩
    rw [List.takeWhile_append_of_pos hfront, List.dropWhile_append_of_pos hfront]
    cases rest with
    | nil => simp
    | cons c rest => simp [hrest c rfl]

theorem after?_eq_some_iff {word text rest : List Char} :
    after? word text = some rest ↔ text = word ++ rest := by
  fun_induction after? word text with
  | case1 text => simp
  | case2 => simp
  | case3 c word text ih => simp [ih]
  | case4 c word d text hne => simp [Ne.symm hne]

theorem afterBlank?_eq_some_iff {text rest : List Char} :
    afterBlank? text = some rest ↔
      ∃ blank, Text.isBlank blank = true ∧ text = blank :: rest := by
  cases text with
  | nil => simp [afterBlank?]
  | cons c text =>
    rw [afterBlank?, Option.ite_none_right_eq_some, Option.some.injEq]
    constructor
    · rintro ⟨hblank, rfl⟩
      exact ⟨c, hblank, rfl⟩
    · rintro ⟨blank, hblank, heq⟩
      obtain ⟨rfl, rfl⟩ := List.cons.inj heq
      exact ⟨hblank, rfl⟩

def IsNumeral (cs : List Char) : Prop :=
  cs ≠ [] ∧ ∀ c ∈ cs, Text.isDigit c = true

instance (cs : List Char) : Decidable (IsNumeral cs) :=
  -- over the characters of the list, not over all characters
  letI := List.decidableBAll (fun c => Text.isDigit c = true) cs
  inferInstanceAs (Decidable (_ ∧ _))

theorem digits?_eq_some_iff {text digits rest : List Char} :
    digits? text = some (digits, rest) ↔
      text = digits ++ rest ∧ IsNumeral digits ∧ ∀ c ∈ rest.head?, Text.isDigit c = false := by
  have hspan := @span_eq_iff Char Text.isDigit text
  unfold digits?
  split
  · rename_i rest' heq
    simp only [reduceCtorEq, false_iff]
    rintro ⟨htext, ⟨hne, hdigits⟩, hrest⟩
    have := hspan.mpr ⟨htext, hdigits, hrest⟩
    rw [heq] at this
    exact hne (Prod.mk.inj this).1.symm
  · rename_i parts hne
    rw [Option.some.injEq, hspan, IsNumeral]
    constructor
    · intro h
      refine ⟨h.1, ⟨?_, h.2.1⟩, h.2.2⟩
      rintro rfl
      exact hne rest (hspan.mpr h)
    · exact fun ⟨htext, ⟨_, hdigits⟩, hrest⟩ => ⟨htext, hdigits, hrest⟩

theorem digits?_append {digits : List Char} (h : IsNumeral digits) {c : Char}
    (hc : Text.isDigit c = false) (rest : List Char) :
    digits? (digits ++ c :: rest) = some (digits, c :: rest) :=
  digits?_eq_some_iff.mpr ⟨rfl, h, by simpa using hc⟩

/-! ## The form -/

/-- The parts of a text in report form, with the blanks between them. -/
structure Form extends Parts where
  errorBlank : Char
  codeBlank : Char
  messageBlank : Char
  path_ne_nil : path ≠ []
  path_free : '(' ∉ path
  line_numeral : IsNumeral line
  column_numeral : IsNumeral column
  number_numeral : IsNumeral number
  errorBlank_isBlank : Text.isBlank errorBlank = true
  codeBlank_isBlank : Text.isBlank codeBlank = true
  messageBlank_isBlank : Text.isBlank messageBlank = true
  message_free : '\n' ∉ message

namespace Form

def text (form : Form) : List Char :=
  form.path ++ ['('] ++ form.line ++ [','] ++ form.column ++ [')', ':'] ++ [form.errorBlank] ++
    ['e', 'r', 'r', 'o', 'r'] ++ [form.codeBlank] ++ ['T', 'S'] ++ form.number ++ [':'] ++
    [form.messageBlank] ++ form.message

/-- The numbers of a form can be read: they are not too long, and lines count from one. -/
structure Readable (form : Form) : Prop where
  line_length : form.line.length ≤ digitLimit
  column_length : form.column.length ≤ digitLimit
  line_pos : 1 ≤ Text.digitsValue form.line

def diagnostic (form : Form) : Diagnostic where
  path := String.ofList form.path
  line := Text.digitsValue form.line
  column := Text.digitsValue form.column
  code := String.ofList ('T' :: 'S' :: form.number)
  message := String.ofList form.message

theorem getLast?_text (form : Form) :
    form.text.getLast? = some (form.message.getLast?.getD form.messageBlank) := by
  rw [text, List.getLast?_append, List.getLast?_append, List.getLast?_singleton]
  cases form.message.getLast? <;> rfl

end Form

theorem Parts.exists_form {text : List Char} {parts : Parts} (h : Parts.ofLine? text = some parts) :
    ∃ form : Form, form.text = text ∧ form.toParts = parts := by
  obtain ⟨⟨path, rest⟩, hspan⟩ : ∃ halves, text.span (· ≠ '(') = halves := ⟨_, rfl⟩
  rw [Parts.ofLine?, hspan] at h
  simp only [Option.bind_eq_bind, Option.bind_eq_some_iff, Option.pure_def, Option.some.injEq,
    Prod.exists, after?_eq_some_iff, afterBlank?_eq_some_iff, digits?_eq_some_iff] at h
  obtain ⟨_, hne, t₁, rfl, line, t₂, ⟨rfl, hline, -⟩, t₃, rfl, column, t₄, ⟨rfl, hcolumn, -⟩,
    t₅, rfl, t₆, ⟨a, ha, rfl⟩, t₇, rfl, t₈, ⟨b, hb, rfl⟩, t₉, rfl, number, t₁₀,
    ⟨rfl, hnumber, -⟩, t₁₁, rfl, message, ⟨c, hc, rfl⟩, _, hmessage, rfl⟩ := h
  obtain ⟨rfl, hpath, -⟩ := span_eq_iff.mp hspan
  refine ⟨⟨⟨path, line, column, number, message⟩, a, b, c, by simpa [guard] using hne,
    fun hmem => by simpa using hpath _ hmem, hline, hcolumn, hnumber, ha, hb, hc,
    by simpa [guard] using hmessage⟩, ?_, rfl⟩
  simp [Form.text]

theorem Form.span_text (form : Form) :
    form.text.span (· ≠ '(') = (form.path, form.text.drop form.path.length) := by
  refine span_eq_iff.mpr ⟨?_, fun c hc => ?_, ?_⟩
  · simp [Form.text]
  · simpa using ne_of_mem_of_not_mem hc form.path_free
  · simp [Form.text]

theorem Form.ofLine?_text (form : Form) : Parts.ofLine? form.text = some form.toParts := by
  -- each number ends where a character follows that is no digit
  have hline := @digits?_append _ form.line_numeral ',' (by decide)
  have hcolumn := @digits?_append _ form.column_numeral ')' (by decide)
  have hnumber := @digits?_append _ form.number_numeral ':' (by decide)
  rw [Parts.ofLine?, form.span_text]
  simp [Form.text, after?, afterBlank?, hline, hcolumn, hnumber, form.path_ne_nil,
    form.errorBlank_isBlank, form.codeBlank_isBlank, form.messageBlank_isBlank, form.message_free]

theorem Parts.ofLine?_eq_some_iff {text : List Char} {parts : Parts} :
    Parts.ofLine? text = some parts ↔ ∃ form : Form, form.text = text ∧ form.toParts = parts := by
  refine ⟨Parts.exists_form, ?_⟩
  rintro ⟨form, rfl, rfl⟩
  exact form.ofLine?_text

theorem Form.text_injective : Function.Injective Form.text := by
  intro form form' heq
  have hparts : form.toParts = form'.toParts := by
    have h := form.ofLine?_text
    rw [heq, form'.ofLine?_text] at h
    exact (Option.some.inj h).symm
  -- with equal parts around them the blanks stand at the same places
  obtain ⟨parts, a, b, c, _⟩ := form
  obtain ⟨parts', a', b', c', _⟩ := form'
  obtain rfl : parts = parts' := hparts
  simp only [Form.text, List.append_assoc, List.append_cancel_left_eq, List.cons_append,
    List.nil_append, List.cons.injEq, true_and] at heq
  obtain ⟨rfl, rfl, rfl, -⟩ := heq
  rfl

/-! ## The end of a line -/

theorem dropLineEnd_append (text : List Char) {ends : List Char}
    (h : ∀ c ∈ ends, c = '\r' ∨ c = '\n') : dropLineEnd (text ++ ends) = dropLineEnd text := by
  rw [dropLineEnd, List.reverse_append, List.dropWhile_append_of_pos, dropLineEnd]
  intro c hc
  simpa using h c (List.mem_reverse.mp hc)

theorem exists_lineEnd (text : List Char) :
    ∃ ends, text = dropLineEnd text ++ ends ∧ ∀ c ∈ ends, c = '\r' ∨ c = '\n' := by
  refine ⟨(text.reverse.takeWhile fun c => c = '\r' || c = '\n').reverse, ?_, fun c hc => ?_⟩
  · rw [dropLineEnd, ← List.reverse_append, List.takeWhile_append_dropWhile, List.reverse_reverse]
  · simpa using List.mem_takeWhile_imp (List.mem_reverse.mp hc)

theorem getLast?_dropLineEnd (text : List Char) {c : Char}
    (h : (dropLineEnd text).getLast? = some c) : c ≠ '\r' ∧ c ≠ '\n' := by
  rw [dropLineEnd, List.getLast?_reverse] at h
  have hnot := List.head?_dropWhile_not (fun c : Char => c = '\r' || c = '\n') text.reverse
  rw [h] at hnot
  simpa using hnot

theorem dropLineEnd_eq_self {text : List Char}
    (h : ∀ c ∈ text.getLast?, c ≠ '\r' ∧ c ≠ '\n') : dropLineEnd text = text := by
  rw [← List.head?_reverse] at h
  rw [dropLineEnd, List.reverse_eq_iff]
  cases hrev : text.reverse with
  | nil => rfl
  | cons c rest =>
    rw [hrev] at h
    rw [List.dropWhile_cons_of_neg]
    simpa using h c rfl

/-! ## Reading a line -/

theorem ofLine?_eq_some_iff {line : String} {d : Diagnostic} :
    ofLine? line = some d ↔ ∃ form : Form,
      form.text = dropLineEnd line.toList ∧ form.Readable ∧ form.diagnostic = d := by
  unfold ofLine?
  simp only [Option.bind_eq_bind, Option.bind_eq_some_iff, Option.pure_def, Option.some.injEq,
    Parts.ofLine?_eq_some_iff]
  constructor
  · rintro ⟨_, ⟨form, htext, rfl⟩, _, hlength, _, hpos, rfl⟩
    have hlength : form.line.length ≤ digitLimit ∧ form.column.length ≤ digitLimit := by
      simpa [guard] using hlength
    have hpos : 1 ≤ Text.digitsValue form.line := by
      simpa [guard, Nat.one_le_iff_ne_zero] using hpos
    exact ⟨form, htext, ⟨hlength.1, hlength.2, hpos⟩, rfl⟩
  · rintro ⟨form, htext, ⟨hline, hcolumn, hpos⟩, rfl⟩
    exact ⟨_, ⟨form, htext, rfl⟩, (), by simp [guard, hline, hcolumn], (),
      by simp [guard, hpos], rfl⟩

/-- **The reader accepts exactly the report form.** For every line, with the returns and line feeds
at its end off: it gives a diagnostic exactly if the rest has a form whose numbers can be read, that
form is the only one it has, and the diagnostic is what the form says. -/
theorem report_form_exact (line : String) :
    let body := dropLineEnd line.toList
    ((∃ ends, line.toList = body ++ ends ∧ ∀ c ∈ ends, c = '\r' ∨ c = '\n') ∧
      ∀ c ∈ body.getLast?, c ≠ '\r' ∧ c ≠ '\n') ∧
    ((∃ d, ofLine? line = some d) ↔ ∃ form : Form, form.text = body ∧ form.Readable) ∧
    (∀ form : Form, form.text = body → form.Readable → ofLine? line = some form.diagnostic) ∧
    ∀ form form' : Form, form.text = body → form'.text = body → form = form' := by
  intro body
  refine ⟨⟨exists_lineEnd line.toList, fun c => getLast?_dropLineEnd line.toList⟩, ⟨?_, ?_⟩,
    ?_, ?_⟩
  · rintro ⟨d, hd⟩
    obtain ⟨form, htext, hreadable, -⟩ := ofLine?_eq_some_iff.mp hd
    exact ⟨form, htext, hreadable⟩
  · rintro ⟨form, htext, hreadable⟩
    exact ⟨form.diagnostic, ofLine?_eq_some_iff.mpr ⟨form, htext, hreadable, rfl⟩⟩
  · intro form htext hreadable
    exact ofLine?_eq_some_iff.mpr ⟨form, htext, hreadable, rfl⟩
  · intro form form' htext htext'
    exact Form.text_injective (htext.trans htext'.symm)

/-- A path with a closing parenthesis and a line feed, digits of two scripts, three kinds of blanks,
and a second form inside the message. -/
theorem report_form_exact_scripts :
    let line := "a)\nb(٣0,0):\u0085error\tTS७:\u3000m\r(1,1): error TS1: n\r\n\r"
    let form : Form :=
      { path := "a)\nb".toList, line := "٣0".toList, column := "0".toList, number := "७".toList,
        message := "m\r(1,1): error TS1: n".toList, errorBlank := '\u0085', codeBlank := '\t',
        messageBlank := '\u3000', path_ne_nil := by decide, path_free := by decide,
        line_numeral := by decide, column_numeral := by decide, number_numeral := by decide,
        errorBlank_isBlank := by decide, codeBlank_isBlank := by decide,
        messageBlank_isBlank := by decide, message_free := by decide }
    form.text = dropLineEnd line.toList ∧ form.Readable ∧
    ofLine? line = some ⟨"a)\nb", 30, 0, "TS७", "m\r(1,1): error TS1: n"⟩ := by
  intro line form
  have htext : form.text = dropLineEnd line.toList := by decide +kernel
  have hreadable : form.Readable := ⟨by decide +kernel, by decide +kernel, by decide +kernel⟩
  have hread := (report_form_exact line).2.2.1 form htext hreadable
  exact ⟨htext, hreadable, hread.trans (by decide +kernel)⟩

/-! ## Messages -/

theorem ofLine?_message {line : String} {d : Diagnostic} (h : ofLine? line = some d) :
    OneLine d.message := by
  obtain ⟨form, htext, -, rfl⟩ := ofLine?_eq_some_iff.mp h
  rw [OneLine, Form.diagnostic, String.toList_ofList]
  refine ⟨form.message_free, fun hlast => ?_⟩
  have hend := form.getLast?_text
  rw [hlast, htext] at hend
  exact (getLast?_dropLineEnd _ hend).1 rfl

theorem ofReport_message {lines : List String} {d : Diagnostic} (h : d ∈ ofReport lines) :
    OneLine d.message := by
  obtain ⟨line, -, hline⟩ := List.mem_filterMap.mp h
  exact ofLine?_message hline

end Diagnostic

end ExpectError
