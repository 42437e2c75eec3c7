import ExpectError.Style.Paint
import Mathlib.Data.List.Basic

/-!
# What painted text shows

A text may hold sequences that select a look. It *shows* what is left without them (`Shows`), and
taking all sequences out of it finds just that (`Shows.strip`). Painting puts looks in front of the
text and behind it, and around what would end them inside: other looks, resets and line ends. It
does so only where a sequence or a character begins, never inside a sequence, so whatever is painted
goes on to show what it showed (`Shows.applyChars`).
-/

namespace ExpectError.Style

variable {text plain front rest : List Char}

/-! ## Looks -/

theorem isDigit_of_mem_toDigits {n : Nat} {c : Char} (h : c ∈ Nat.toDigits 10 n) :
    c.isDigit = true :=
  Nat.isDigit_of_mem_toDigits (by decide) (by decide) h

theorem exists_look_eq (n : Nat) :
    ∃ tail, look n = escape :: tail ∧ ∀ c ∈ tail, c ≠ escape ∧ c ≠ '\r' ∧ c ≠ '\n' := by
  refine ⟨'[' :: (Nat.toDigits 10 n ++ ['m']), rfl, fun c hc => ?_⟩
  simp only [List.mem_cons, List.mem_append, List.not_mem_nil, or_false] at hc
  rcases hc with rfl | hc | rfl
  · decide
  · have hdigit := isDigit_of_mem_toDigits hc
    refine ⟨?_, ?_, ?_⟩ <;> rintro rfl <;> exact absurd hdigit (by decide)
  · decide

theorem toDigits_injective {m n : Nat} (h : Nat.toDigits 10 m = Nat.toDigits 10 n) : m = n := by
  rw [← Nat.ofDigitChars_ten_toDigits (n := m), h, Nat.ofDigitChars_ten_toDigits]

theorem look_prefix_iff {m n : Nat} : look m <+: look n ++ text ↔ m = n := by
  constructor
  · rintro ⟨rest, hrest⟩
    have hdigits : ∀ (k : Nat) (after : List Char),
        (Nat.toDigits 10 k ++ 'm' :: after).takeWhile Char.isDigit = Nat.toDigits 10 k := by
      intro k after
      rw [List.takeWhile_append_of_pos fun c hc => isDigit_of_mem_toDigits hc]
      simp
    have htails : Nat.toDigits 10 m ++ 'm' :: rest = Nat.toDigits 10 n ++ 'm' :: text := by
      simpa [look] using hrest
    apply toDigits_injective
    rw [← hdigits m rest, htails, hdigits]
  · rintro rfl
    exact List.prefix_append _ _

theorem isPrefixOf_look_of_ne {c : Char} (n : Nat) (hc : c ≠ escape) :
    (look n).isPrefixOf (c :: text) = false := by
  obtain ⟨_, hlook, -⟩ := exists_look_eq n
  rw [hlook, List.isPrefixOf, beq_eq_false_iff_ne.mpr (Ne.symm hc), Bool.false_and]

/-! ## Texts with looks in them -/

/-- A text that is made of characters and looks shows its characters. -/
inductive Shows : List Char → List Char → Prop
  | nil : Shows [] []
  | char {c : Char} {text plain : List Char} (hc : c ≠ escape) (h : Shows text plain) :
    Shows (c :: text) (c :: plain)
  | look (n : Nat) {text plain : List Char} (h : Shows text plain) : Shows (look n ++ text) plain

namespace Shows

theorem append {more shown : List Char} (h : Shows text plain) (h' : Shows more shown) :
    Shows (text ++ more) (plain ++ shown) := by
  induction h with
  | nil => exact h'
  | char hc _ ih => exact .char hc ih
  | look n _ ih =>
    rw [List.append_assoc]
    exact .look n ih

theorem refl (h : escape ∉ text) : Shows text text := by
  induction text with
  | nil => exact .nil
  | cons c text ih =>
    rw [List.mem_cons, not_or] at h
    exact .char (Ne.symm h.1) (ih h.2)

theorem looks {numbers : List Nat} : Shows (numbers.flatMap Style.look) [] := by
  induction numbers with
  | nil => exact .nil
  | cons n numbers ih => exact .look n ih

theorem of_char {c : Char} (h : Shows (c :: text) plain) (hc : c ≠ escape) :
    ∃ shown, plain = c :: shown ∧ Shows text shown := by
  generalize htext : c :: text = whole at h
  cases h with
  | nil => cases htext
  | char _ h =>
    obtain ⟨rfl, rfl⟩ := List.cons.inj htext
    exact ⟨_, rfl, h⟩
  | look n _ =>
    obtain ⟨tail, hlook, -⟩ := exists_look_eq n
    rw [hlook] at htext
    exact absurd (List.cons.inj htext).1 hc

theorem of_look {n : Nat} (h : Shows (Style.look n ++ text) plain) : Shows text plain := by
  generalize htext : Style.look n ++ text = whole at h
  cases h with
  | nil => cases htext
  | char hc _ => exact absurd (List.cons.inj htext).1 (Ne.symm hc)
  | look m h =>
    obtain rfl : n = m := look_prefix_iff.mp ⟨text, htext⟩
    exact List.append_cancel_left htext ▸ h

theorem split (h : Shows (front ++ escape :: rest) plain) :
    ∃ shown more, plain = shown ++ more ∧ Shows front shown ∧ Shows (escape :: rest) more := by
  generalize htext : front ++ escape :: rest = whole at h
  induction h generalizing front with
  | nil => cases front <;> cases htext
  | char hc h ih =>
    rcases front with _ | ⟨c, front⟩
    · exact absurd (List.cons.inj htext).1 (Ne.symm hc)
    · obtain ⟨rfl, htail⟩ := List.cons.inj htext
      obtain ⟨shown, more, rfl, hfront, hrest⟩ := ih htail
      exact ⟨c :: shown, more, rfl, .char hc hfront, hrest⟩
  | @look n text shown h ih =>
    rcases front with _ | ⟨c, front⟩
    · rw [List.nil_append] at htext
      exact ⟨[], shown, rfl, .nil, htext ▸ .look n h⟩
    · -- the escape character is not the first one of the look, so it lies behind it
      obtain ⟨tail, hlook, hfree⟩ := exists_look_eq n
      rw [hlook, List.cons_append, List.cons_append] at htext
      obtain ⟨rfl, hbehind⟩ := List.cons.inj htext
      obtain ⟨part, rfl, hpart⟩ : ∃ part, front = tail ++ part ∧ text = part ++ escape :: rest := by
        rcases List.append_eq_append_iff.mp hbehind with ⟨part, rfl, hrest⟩ | ⟨part, hfront, htail⟩
        · rcases part with _ | ⟨c, part⟩
          · exact ⟨[], by simp, hrest.symm⟩
          · have hin : escape ∈ front ++ c :: part := by simp [(List.cons.inj hrest).1]
            exact absurd rfl (hfree escape hin).1
        · exact ⟨part, hfront, htail⟩
      obtain ⟨shown, more, rfl, hshown, hmore⟩ := ih hpart.symm
      refine ⟨shown, more, rfl, ?_, hmore⟩
      rw [← List.cons_append, ← hlook]
      exact .look n hshown

theorem strip (h : Shows text plain) : stripFrom 0 text = plain := by
  have hskip : ∀ front rest : List Char,
      stripFrom front.length (front ++ rest) = stripFrom 0 rest := by
    intro front rest
    induction front with
    | nil => rfl
    | cons c front ih => exact ih
  induction h with
  | nil => rfl
  | char hc _ ih => rw [stripFrom, if_neg hc, ih]
  | @look n text _ _ ih =>
    have hdigits : ∀ c ∈ Nat.toDigits 10 n, isParameter c = true := by
      intro c hc
      have hdigit := isDigit_of_mem_toDigits hc
      simp only [Char.isDigit, isParameter, Bool.and_eq_true, decide_eq_true_eq] at hdigit ⊢
      exact ⟨hdigit.1, Char.le_trans hdigit.2 (by decide)⟩
    have hlength : sequenceLength? ('[' :: (Nat.toDigits 10 n ++ 'm' :: text)) =
        some ('[' :: (Nat.toDigits 10 n ++ ['m'])).length := by
      have hm : isParameter 'm' = false ∧ isIntermediate 'm' = false ∧ isFinal 'm' = true := by
        decide
      simp [sequenceLength?, List.takeWhile_append_of_pos hdigits,
        List.dropWhile_append_of_pos hdigits, hm]
    have hlook : Style.look n ++ text = escape :: '[' :: (Nat.toDigits 10 n ++ 'm' :: text) := by
      simp [Style.look]
    have hsplit : '[' :: (Nat.toDigits 10 n ++ 'm' :: text) =
        '[' :: (Nat.toDigits 10 n ++ ['m']) ++ text := by simp
    rw [hlook, stripFrom, if_pos rfl, hlength]
    dsimp only
    rw [hsplit, hskip, ih]

theorem count_newline (h : Shows text plain) : text.count '\n' = plain.count '\n' := by
  induction h with
  | nil => rfl
  | char _ _ ih => rw [List.count_cons, List.count_cons, ih]
  | look n _ ih =>
    obtain ⟨tail, hlook, hfree⟩ := exists_look_eq n
    have hnone : (Style.look n).count '\n' = 0 := by
      rw [List.count_eq_zero, hlook]
      rintro (_ | ⟨_, hin⟩)
      exact (hfree _ hin).2.2 rfl
    rw [List.count_append, hnone, ih, Nat.zero_add]

end Shows

/-! ## Painting -/

namespace Paint

theorem shows_on (paint : Paint) : Shows paint.on [] := by
  have hon : paint.on = (paint.map Look.on).flatMap look := (List.flatMap_map ..).symm
  exact hon ▸ .looks

theorem shows_off (paint : Paint) : Shows paint.off [] := by
  have hoff : paint.off = (paint.map Look.off).flatMap look := (List.flatMap_map ..).symm
  exact hoff ▸ .looks

theorem shows_between (paint : Paint) {text plain rest more : List Char} (h : Shows text plain)
    (hrest : Shows rest more) : Shows (paint.off ++ text ++ (paint.on ++ rest)) (plain ++ more) :=
  ((paint.shows_off.append h).append (paint.shows_on.append hrest))

/-! ### Looks that end -/

theorem replaceFrom_length (word new front rest : List Char) :
    replaceFrom word new front.length (front ++ rest) = replaceFrom word new 0 rest := by
  induction front with
  | nil => rfl
  | cons c front ih => exact ih

theorem replaceFrom_look (off n : Nat) (new : List Char) :
    replaceFrom (look off) new 0 (look n ++ text) =
      (if n = off then new else look n) ++ replaceFrom (look off) new 0 text := by
  obtain ⟨tail, hlook, hfree⟩ := exists_look_eq n
  have hfollow : replaceFrom (look off) new 0 (tail ++ text) =
      tail ++ replaceFrom (look off) new 0 text := by
    clear hlook
    induction tail with
    | nil => rfl
    | cons c tail ih =>
      rw [List.forall_mem_cons] at hfree
      rw [List.cons_append, replaceFrom, isPrefixOf_look_of_ne off hfree.1.1,
        if_neg Bool.false_ne_true, ih hfree.2, List.cons_append]
  have hbegins : (look off).isPrefixOf (escape :: (tail ++ text)) = true ↔ off = n := by
    rw [List.isPrefixOf_iff_prefix, ← List.cons_append, ← hlook, look_prefix_iff]
  rw [hlook, List.cons_append, replaceFrom]
  by_cases h : off = n
  · have hlength : (look off).length - 1 = tail.length := by
      rw [h, hlook, List.length_cons, Nat.add_sub_cancel]
    rw [if_pos (hbegins.mpr h), if_pos h.symm, hlength, replaceFrom_length]
  · rw [if_neg (mt hbegins.mp h), if_neg (Ne.symm h), hfollow, List.cons_append]

theorem shows_replaceFrom (h : Shows text plain) (off on : Nat) :
    Shows (replaceFrom (look off) (look off ++ look on) 0 text) plain := by
  induction h with
  | nil => exact .nil
  | char hc _ ih =>
    rw [replaceFrom, isPrefixOf_look_of_ne off hc, if_neg Bool.false_ne_true]
    exact .char hc ih
  | look n _ ih =>
    rw [replaceFrom_look]
    split_ifs
    · rw [List.append_assoc]
      exact .look off (.look on ih)
    · exact .look n ih

theorem shows_reopen (paint : Paint) (h : Shows text plain) : Shows (paint.reopen text) plain := by
  unfold reopen
  induction paint generalizing text with
  | nil => exact h
  | cons l paint ih => exact ih (shows_replaceFrom h l.off l.on)

/-! ### Resets -/

theorem guardResets_free (paint : Paint) (hfree : escape ∉ front) :
    paint.guardResets 0 (front ++ text) = front ++ paint.guardResets 0 text := by
  induction front with
  | nil => rfl
  | cons c front ih =>
    rw [List.mem_cons, not_or] at hfree
    have hnone : resetSpan? (c :: (front ++ text)) = none := by
      rw [resetSpan?, reset, isPrefixOf_look_of_ne 0 (Ne.symm hfree.1),
        if_neg Bool.false_ne_true]
    rw [List.cons_append, guardResets, hnone, List.cons_append]
    dsimp only
    rw [ih hfree.2]

theorem guardResets_copied (paint : Paint) (hfront : front ≠ []) :
    paint.guardResets front.length (front ++ rest) =
      front ++ (paint.on ++ paint.guardResets 0 rest) := by
  induction front with
  | nil => exact absurd rfl hfront
  | cons c front ih =>
    rcases front with _ | ⟨d, front⟩
    · rfl
    · exact congrArg (c :: ·) (ih (List.cons_ne_nil d front))

theorem inner_eq_some {length : Nat} (h : resetSpan?.inner text = some length) :
    ∃ body rest, text = body ++ (reset ++ rest) ∧ body.length = length := by
  induction text generalizing length with
  | nil => cases h
  | cons c text ih =>
    rw [resetSpan?.inner] at h
    split_ifs at h with hreset hline
    · obtain rfl := Option.some.inj h
      obtain ⟨rest, hrest⟩ := List.isPrefixOf_iff_prefix.mp hreset
      exact ⟨[], rest, hrest.symm, rfl⟩
    · obtain ⟨length, hinner, rfl⟩ := Option.map_eq_some_iff.mp h
      obtain ⟨body, rest, rfl, rfl⟩ := ih hinner
      exact ⟨c :: body, rest, rfl, rfl⟩

theorem resetSpan?_eq_some {length : Nat} (h : resetSpan? text = some length) :
    ∃ body rest, text = reset ++ (body ++ (reset ++ rest)) ∧
      length = (reset ++ (body ++ reset)).length := by
  unfold resetSpan? at h
  split_ifs at h with hreset
  obtain ⟨inside, hinside⟩ := List.isPrefixOf_iff_prefix.mp hreset
  rw [← hinside, List.drop_left] at h
  obtain ⟨length, hinner, rfl⟩ := Option.map_eq_some_iff.mp h
  obtain ⟨body, rest, rfl, rfl⟩ := inner_eq_some hinner
  refine ⟨body, rest, hinside.symm, ?_⟩
  simp only [List.length_append]
  omega

theorem exists_piece {length : Nat} (h : Shows text plain) (hspan : resetSpan? text = some length) :
    ∃ c piece rest shown more, text = c :: piece ++ rest ∧ plain = shown ++ more ∧ piece ≠ [] ∧
      length = (c :: piece).length ∧ Shows (c :: piece) shown ∧ Shows rest more := by
  obtain ⟨body, rest, rfl, rfl⟩ := resetSpan?_eq_some hspan
  obtain ⟨shown, more, rfl, hbody, hrest⟩ := h.of_look.split
  have hpiece : Shows (reset ++ (body ++ reset)) (shown ++ []) :=
    .look 0 (hbody.append (.look 0 .nil))
  rw [List.append_nil] at hpiece
  exact ⟨escape, reset.tail ++ (body ++ reset), rest, shown, more, by simp [reset, look], rfl,
    by simp [reset, look], rfl, hpiece, hrest.of_look⟩

theorem shows_guardResets (paint : Paint) (h : Shows text plain) :
    Shows (paint.guardResets 0 text) plain := by
  induction hlength : text.length using Nat.strongRecOn generalizing text plain with
  | _ size ih =>
  subst hlength
  rcases hspan : resetSpan? text with _ | length
  · cases h with
    | nil => exact .nil
    | @char c text shown hc h =>
      have hfree : escape ∉ [c] := by simpa using Ne.symm hc
      rw [← List.singleton_append, guardResets_free paint hfree]
      exact .char hc (ih _ (by simp) h rfl)
    | @look n text _ h =>
      obtain ⟨tail, hlook, hfree⟩ := exists_look_eq n
      have hpast : paint.guardResets 0 (look n ++ text) = look n ++ paint.guardResets 0 text := by
        rw [hlook, List.cons_append] at hspan ⊢
        rw [guardResets, hspan]
        dsimp only
        rw [guardResets_free paint fun hin => (hfree _ hin).1 rfl, List.cons_append]
      rw [hpast]
      refine .look n (ih _ ?_ h rfl)
      rw [hlook, List.length_append, List.length_cons]
      omega
  · obtain ⟨c, piece, rest, shown, more, rfl, rfl, hpiece, rfl, hshown, hmore⟩ :=
      exists_piece h hspan
    have hguard : paint.guardResets 0 (c :: piece ++ rest) =
        paint.off ++ (c :: piece) ++ (paint.on ++ paint.guardResets 0 rest) := by
      rw [List.cons_append] at hspan ⊢
      rw [guardResets, hspan]
      dsimp only
      rw [List.length_cons, Nat.add_sub_cancel, guardResets_copied paint hpiece]
      simp
    rw [hguard]
    refine paint.shows_between hshown (ih _ ?_ hmore rfl)
    rw [List.length_append, List.length_cons]
    omega

/-! ### Line ends -/

theorem guardNewlines_cons (paint : Paint) {c : Char} (hfeed : c ≠ '\n')
    (hpair : c = '\r' → ∀ rest, text ≠ '\n' :: rest) :
    paint.guardNewlines (c :: text) = c :: paint.guardNewlines text :=
  guardNewlines.eq_4 paint c text (fun rest hc htext => hpair hc rest htext) hfeed

theorem guardNewlines_free (paint : Paint) (hfree : ∀ c ∈ front, c ≠ '\r' ∧ c ≠ '\n') :
    paint.guardNewlines (front ++ text) = front ++ paint.guardNewlines text := by
  induction front with
  | nil => rfl
  | cons c front ih =>
    rw [List.forall_mem_cons] at hfree
    rw [List.cons_append, guardNewlines_cons paint hfree.1.2 fun hc => absurd hc hfree.1.1,
      ih hfree.2, List.cons_append]

theorem shows_guardNewlines (paint : Paint) (h : Shows text plain) :
    Shows (paint.guardNewlines text) plain := by
  induction hlength : text.length using Nat.strongRecOn generalizing text plain with
  | _ size ih =>
  subst hlength
  cases h with
  | nil => exact .nil
  | @char c text shown hc h =>
    by_cases hpair : c = '\r' → ∀ rest, text ≠ '\n' :: rest
    case neg =>
      push Not at hpair
      obtain ⟨rfl, rest, rfl⟩ := hpair
      obtain ⟨more, rfl, hrest⟩ := h.of_char (by decide)
      have hend : Shows ['\r', '\n'] ['\r', '\n'] := .refl (by decide)
      have hsize : rest.length < ('\r' :: '\n' :: rest).length := by
        rw [List.length_cons, List.length_cons]
        omega
      have hguarded := paint.shows_between hend (ih _ hsize hrest rfl)
      rw [← List.append_assoc] at hguarded
      exact hguarded
    by_cases hfeed : c = '\n'
    · subst hfeed
      have hend : Shows ['\n'] ['\n'] := .refl (by decide)
      have hguarded := paint.shows_between hend (ih _ (by simp) h rfl)
      rw [← List.append_assoc] at hguarded
      exact hguarded
    · rw [guardNewlines_cons paint hfeed hpair]
      exact .char hc (ih _ (by simp) h rfl)
  | @look n text _ h =>
    obtain ⟨tail, hlook, hfree⟩ := exists_look_eq n
    have hline : ∀ c ∈ look n, c ≠ '\r' ∧ c ≠ '\n' := by
      rw [hlook, List.forall_mem_cons]
      exact ⟨by decide, fun c hc => (hfree c hc).2⟩
    rw [guardNewlines_free paint hline]
    refine .look n (ih _ ?_ h rfl)
    rw [hlook, List.length_append, List.length_cons]
    omega

end Paint

/-- **Painted text** shows what it showed. -/
theorem Shows.applyChars (h : Shows text plain) (paint : Paint) :
    Shows (paint.applyChars text) plain := by
  have hreopened : Shows (if text.contains escape then paint.reopen text else text) plain := by
    split_ifs
    · exact paint.shows_reopen h
    · exact h
  have hwhole := (paint.shows_on.append
    (paint.shows_guardNewlines (paint.shows_guardResets hreopened))).append paint.shows_off
  rwa [List.nil_append, List.append_nil] at hwhole

theorem Shows.apply {text : String} (h : Shows text.toList plain) (paint : Paint) (colors : Bool) :
    Shows (paint.apply colors text).toList plain := by
  unfold Paint.apply
  split_ifs
  · rw [String.toList_ofList]
    exact h.applyChars paint
  · exact h

end ExpectError.Style
