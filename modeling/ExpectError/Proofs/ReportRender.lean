import ExpectError.Proofs.ReportLine

/-!
# Diagnostics written and read again

Numbers are written with the digits of one script and read in any, so a number that is written
reads back as itself (`digitsValue_toDigits`), and it is short enough for the reader exactly if it is
below the power of ten with `digitLimit` zeros. A diagnostic is `Reportable` where no field can be
taken for a part of the form that stands next to it. What is read is reportable
(`ofLine?_reportable`), what is reportable has a form once it is written (`Reportable.form`), and so
it is exactly the reportable diagnostics that come back from their written form
(`render_round_trip`).
-/

namespace ExpectError

namespace Text

/-! ## Numbers -/

theorem digitValue?_of_isDigit {c : Char} (h : c.isDigit = true) :
    digitValue? c = some (c.toNat - 48) := by
  have hbounds : 48 ≤ c.toNat ∧ c.toNat ≤ 57 := by
    simpa [Char.isDigit, UInt32.le_iff_toNat_le] using h
  rw [digitValue?, zeros, List.find?_cons_of_pos, Option.map_some]
  simp only [Bool.and_eq_true, decide_eq_true_eq]
  omega

theorem digitValue?_of_mem_toDigits {n : Nat} {c : Char} (h : c ∈ Nat.toDigits 10 n) :
    digitValue? c = some (c.toNat - 48) :=
  digitValue?_of_isDigit (Nat.isDigit_of_mem_toDigits (by decide) (by decide) h)

theorem digitValue_lt (c : Char) : digitValue c < 10 := by
  rw [digitValue, digitValue?]
  cases h : zeros.find? fun z => z ≤ c.toNat && c.toNat < z + 10 with
  | none => simp
  | some z =>
    have hz := List.find?_some h
    simp only [Bool.and_eq_true, decide_eq_true_eq] at hz
    simp only [Option.map_some, Option.getD_some]
    omega

theorem digitsValue_append_singleton (cs : List Char) (c : Char) :
    digitsValue (cs ++ [c]) = 10 * digitsValue cs + digitValue c := by
  simp [digitsValue]

theorem digitsValue_lt (cs : List Char) : digitsValue cs < 10 ^ cs.length := by
  induction cs using List.reverseRecOn with
  | nil => simp [digitsValue]
  | append_singleton cs c ih =>
    have hc := digitValue_lt c
    rw [digitsValue_append_singleton, List.length_append, List.length_singleton, pow_succ]
    omega

theorem digitsValue_toDigits (n : Nat) : digitsValue (Nat.toDigits 10 n) = n := by
  conv_rhs => rw [← Nat.ofDigitChars_ten_toDigits (n := n)]
  rw [digitsValue, Nat.ofDigitChars_eq_foldl]
  refine List.foldl_ext _ _ _ fun m c hc => ?_
  rw [digitValue, digitValue?_of_mem_toDigits hc]
  rfl

end Text

namespace Diagnostic

theorem isNumeral_toDigits (n : Nat) : IsNumeral (Nat.toDigits 10 n) := by
  refine ⟨Nat.toDigits_ne_nil, fun c hc => ?_⟩
  rw [Text.isDigit, Text.digitValue?_of_mem_toDigits hc]
  rfl

/-! ## What can be written -/

/-- No field runs over into what stands next to it in the written form. -/
structure Reportable (d : Diagnostic) : Prop where
  path_ne_empty : d.path ≠ ""
  path_free : '(' ∉ d.path.toList
  line_pos : 1 ≤ d.line
  column_nonneg : 0 ≤ d.column
  code : ∃ number, IsNumeral number ∧ d.code.toList = 'T' :: 'S' :: number
  message : OneLine d.message

theorem toList_toString {n : Int} (h : 0 ≤ n) :
    (toString n).toList = Nat.toDigits 10 n.toNat := by
  obtain ⟨m, rfl⟩ := Int.eq_ofNat_of_zero_le h
  exact Nat.toList_repr

theorem ofLine?_reportable {line : String} {d : Diagnostic} (h : ofLine? line = some d) :
    d.Reportable ∧ d.line.natAbs < 10 ^ digitLimit ∧ d.column.natAbs < 10 ^ digitLimit := by
  have hmessage := ofLine?_message h
  obtain ⟨form, -, hreadable, rfl⟩ := ofLine?_eq_some_iff.mp h
  have hbound {digits : List Char} (hlength : digits.length ≤ digitLimit) :
      Text.digitsValue digits < 10 ^ digitLimit :=
    (Text.digitsValue_lt digits).trans_le (Nat.pow_le_pow_right (by decide) hlength)
  refine ⟨⟨?_, ?_, ?_, ?_, ⟨form.number, form.number_numeral, ?_⟩, hmessage⟩, ?_, ?_⟩
  · simpa [Form.diagnostic] using form.path_ne_nil
  · simpa [Form.diagnostic] using form.path_free
  · exact Int.ofNat_le.mpr hreadable.line_pos
  · exact Int.natCast_nonneg _
  · exact String.toList_ofList
  · exact hbound hreadable.line_length
  · exact hbound hreadable.column_length

namespace Reportable

variable {d : Diagnostic} (h : d.Reportable)

include h

theorem code_eq : IsNumeral (d.code.toList.drop 2) ∧
    d.code.toList = 'T' :: 'S' :: d.code.toList.drop 2 := by
  obtain ⟨number, hnumber, hcode⟩ := h.code
  rw [hcode]
  exact ⟨hnumber, rfl⟩

/-- The form that a diagnostic has once it is written. -/
def form : Form where
  path := d.path.toList
  line := Nat.toDigits 10 d.line.toNat
  column := Nat.toDigits 10 d.column.toNat
  number := d.code.toList.drop 2
  message := d.message.toList
  errorBlank := ' '
  codeBlank := ' '
  messageBlank := ' '
  path_ne_nil := by simpa using h.path_ne_empty
  path_free := h.path_free
  line_numeral := isNumeral_toDigits _
  column_numeral := isNumeral_toDigits _
  number_numeral := h.code_eq.1
  errorBlank_isBlank := by decide
  codeBlank_isBlank := by decide
  messageBlank_isBlank := by decide
  message_free := h.message.1

theorem line_nonneg : 0 ≤ d.line :=
  Int.le_of_lt h.line_pos

theorem form_text : h.form.text = d.render.toList := by
  simp only [render, String.toList_append, toList_toString h.line_nonneg,
    toList_toString h.column_nonneg]
  rw [h.code_eq.2]
  simp [Form.text, form]

theorem form_diagnostic : h.form.diagnostic = d := by
  have hline := Int.toNat_of_nonneg h.line_nonneg
  have hcolumn := Int.toNat_of_nonneg h.column_nonneg
  have hcode : String.ofList ('T' :: 'S' :: d.code.toList.drop 2) = d.code := by
    rw [← h.code_eq.2, String.ofList_toList]
  simp only [Form.diagnostic, form, Text.digitsValue_toDigits, String.ofList_toList, hcode, hline,
    hcolumn]

theorem form_readable (hline : d.line.natAbs < 10 ^ digitLimit)
    (hcolumn : d.column.natAbs < 10 ^ digitLimit) : h.form.Readable := by
  have hlength {n : Int} (hn : n.natAbs < 10 ^ digitLimit) :
      (Nat.toDigits 10 n.toNat).length ≤ digitLimit := by
    rw [Nat.length_toDigits_le_iff (by decide) (by decide)]
    exact lt_of_le_of_lt (by omega) hn
  refine ⟨hlength hline, hlength hcolumn, ?_⟩
  have hpos := h.line_pos
  rw [form, Text.digitsValue_toDigits]
  omega

theorem ofLine?_render (hline : d.line.natAbs < 10 ^ digitLimit)
    (hcolumn : d.column.natAbs < 10 ^ digitLimit) : ofLine? d.render = some d := by
  have hend : dropLineEnd d.render.toList = d.render.toList := by
    refine dropLineEnd_eq_self fun c hc => ?_
    rw [← h.form_text, Form.getLast?_text, Option.mem_some_iff] at hc
    obtain ⟨hfree, hreturn⟩ := h.message
    -- the last character is that of the message, or the blank in front of an empty one
    cases hlast : d.message.toList.getLast? with
    | none =>
      obtain rfl : ' ' = c := by simpa [form, hlast] using hc
      decide
    | some last =>
      obtain rfl : last = c := by simpa [form, hlast] using hc
      refine ⟨fun heq => hreturn (heq ▸ hlast), fun heq => hfree ?_⟩
      exact heq ▸ List.mem_of_getLast? hlast
  refine ofLine?_eq_some_iff.mpr ⟨h.form, ?_, h.form_readable hline hcolumn, h.form_diagnostic⟩
  rw [hend, h.form_text]

end Reportable

/-- **Which diagnostics come back from their written form.** For every diagnostic whose numbers are
below the limit of the reader: what is read from its written form is the diagnostic exactly if the
path is not empty and holds no opening parenthesis, the line is at least one and the column at least
zero, the code is `TS` and digits, and the message is one line. Whatever is read is such a
diagnostic, with such numbers, so to write it and to read it again changes nothing. -/
theorem render_round_trip :
    (∀ d : Diagnostic, d.line.natAbs < 10 ^ digitLimit → d.column.natAbs < 10 ^ digitLimit →
      (ofLine? d.render = some d ↔ d.Reportable)) ∧
    ∀ line d, ofLine? line = some d →
      (d.Reportable ∧ d.line.natAbs < 10 ^ digitLimit ∧ d.column.natAbs < 10 ^ digitLimit) ∧
        ofLine? d.render = some d := by
  constructor
  · intro d hline hcolumn
    exact ⟨fun h => (ofLine?_reportable h).1, fun h => h.ofLine?_render hline hcolumn⟩
  · intro line d h
    obtain ⟨hreportable, hline, hcolumn⟩ := ofLine?_reportable h
    exact ⟨⟨hreportable, hline, hcolumn⟩, hreportable.ofLine?_render hline hcolumn⟩

/-- A directory in parentheses is lost, an empty message with the column zero is not, and digits of
another script are written in the usual ones. -/
theorem render_round_trip_parenthesis :
    let lost : Diagnostic := ⟨"(a)/b.ts", 1, 1, "TS1", "m"⟩
    let kept : Diagnostic := ⟨"b.ts", 12, 0, "TS٣", ""⟩
    let read : Diagnostic := ⟨"b.ts", 3, 7, "TS٣", "m"⟩
    (lost.line.natAbs < 10 ^ digitLimit ∧ lost.column.natAbs < 10 ^ digitLimit) ∧
    (kept.line.natAbs < 10 ^ digitLimit ∧ kept.column.natAbs < 10 ^ digitLimit) ∧
    ofLine? lost.render ≠ some lost ∧ ofLine? kept.render = some kept ∧
    ofLine? "b.ts(٣,07):\terror TS٣: m\r" = some read ∧ ofLine? read.render = some read := by
  intro lost kept read
  have hlost : lost.line.natAbs < 10 ^ digitLimit ∧ lost.column.natAbs < 10 ^ digitLimit := by
    decide +kernel
  have hkept : kept.line.natAbs < 10 ^ digitLimit ∧ kept.column.natAbs < 10 ^ digitLimit := by
    decide +kernel
  have hread : ofLine? "b.ts(٣,07):\terror TS٣: m\r" = some read := by decide +kernel
  refine ⟨hlost, hkept, fun h => ?_, ?_, hread, (render_round_trip.2 _ read hread).2⟩
  · exact ((render_round_trip.1 lost hlost.1 hlost.2).mp h).path_free (by decide +kernel)
  · refine (render_round_trip.1 kept hkept.1 hkept.2).mpr ?_
    exact ⟨by decide, by decide +kernel, by decide, by decide,
      ⟨['٣'], by decide, by decide +kernel⟩, by decide +kernel, by decide +kernel⟩

end Diagnostic

end ExpectError
