import ExpectError.Proofs.ConfigLayers
import ExpectError.Proofs.DiskFrame
import Mathlib.Data.List.Nodup
import Mathlib.Data.List.Perm.Basic

/-!
# Entries that are refused

An entry of a table is refused if its value makes no sense under its key. Each setting looks only at
its own key (`ofTable_draft`), so an entry that is refused might as well not be there
(`ofTable_filter`), and the warnings of a table are those that its entries give when they stand
alone: one for an entry that is refused (`ofTable_refused`), none for any other
(`ofTable_accepted`), and they add up (`ofTable_warnings_perm`).
-/

namespace ExpectError.Config

open Toml (Value Table)
open scoped List

/-! ## Values that make sense -/

/-- All keys, in the order in which a table is read. -/
def Key.all : List Key :=
  [.todo, .directive, .context, .markupExtensions, .ambiguous, .sample, .seed]

/-- Whether a value makes sense under a key. An entry without a value is as good as none. -/
def Key.accepts : Key → Value → Bool
  | _, .nothing => true
  | .todo, .text _ => true
  | .directive, .text _ => true
  | .context, .integer n => 0 ≤ n
  | .markupExtensions, .array items => items.all fun item => item.text?.isSome
  | .ambiguous, .text s =>
    AmbiguousPolicy.all.any fun policy => policy.name = Text.lower (Text.trim s)
  | .sample, .integer n => 0 ≤ n
  | .seed, .integer _ => true
  | _, _ => false

/-- Whether an entry has the key of a setting with a value that makes no sense there. -/
def refused (entry : String × Value) : Bool :=
  Key.all.any fun key => key.text = entry.1 && !key.accepts entry.2

theorem refused_text (key : Key) (value : Value) :
    refused (key.text, value) = !key.accepts value := by
  cases key <;> simp [refused, Key.all, Key.text]

/-! ## One value -/

section Warnings

variable (place : String)

/-- The warning that a value gives under a key, if any. -/
def Key.warning? (key : Key) (value : Option Value) : Option LogRecord :=
  match key with
  | .todo | .directive => (textSetting place value).warning?
  | .context | .sample => (sizeSetting place value).warning?
  | .markupExtensions => (textListSetting place value).warning?
  | .ambiguous => (policySetting place value).warning?
  | .seed => (intSetting place value).warning?

theorem sizeSetting_integer (n : Int) :
    ((sizeSetting place (some (.integer n))).warning?).isSome = !decide (0 ≤ n) := by
  by_cases hn : n < 0
  · have hnot : ¬ 0 ≤ n := by omega
    simp [sizeSetting, intSetting, Setting.warning?, hn, hnot]
  · have hle : 0 ≤ n := by omega
    simp [sizeSetting, intSetting, Setting.warning?, hn, hle]

theorem textListSetting_array (items : List Value) :
    ((textListSetting place (some (.array items))).warning?).isSome =
      !items.all fun item => item.text?.isSome := by
  have hitems : (textItems items).isOk = items.all fun item => item.text?.isSome := by
    induction items with
    | nil => rfl
    | cons item items ih =>
      cases item with
      | text s =>
        rw [List.all_cons, ← ih, textItems]
        rcases textItems items with other | texts <;> rfl
      | _ => rfl
  rw [← hitems, textListSetting]
  rcases textItems items with item | texts <;> rfl

theorem policySetting_text (s : String) :
    ((policySetting place (some (.text s))).warning?).isSome =
      !AmbiguousPolicy.all.any fun policy => policy.name = Text.lower (Text.trim s) := by
  have hnamed : (AmbiguousPolicy.ofName? (Text.lower (Text.trim s))).isSome =
      AmbiguousPolicy.all.any fun policy => policy.name = Text.lower (Text.trim s) := by
    rw [AmbiguousPolicy.ofName?, Bool.eq_iff_iff, List.find?_isSome, List.any_eq_true]
  rw [← hnamed]
  simp only [policySetting, textSetting]
  cases AmbiguousPolicy.ofName? (Text.lower (Text.trim s)) <;> rfl

theorem Key.warning?_isSome (key : Key) (value : Value) :
    (key.warning? place (some value)).isSome = !key.accepts value := by
  cases key with
  | todo | directive | seed => cases value <;> rfl
  | context | sample =>
    cases value with
    | integer n => exact sizeSetting_integer place n
    | _ => rfl
  | markupExtensions =>
    cases value with
    | array items => exact textListSetting_array place items
    | _ => rfl
  | ambiguous =>
    cases value with
    | text s => exact policySetting_text place s
    | _ => rfl

/-- If the setting is refused, the warning names the place. -/
def Setting.Names {α : Type} (setting : Setting α) : Prop :=
  ∀ warning, setting = .refused warning → ∃ before after, warning = before ++ place ++ after

theorem Setting.Names.unset {α : Type} : (.unset : Setting α).Names place := by
  intro warning h
  cases h

theorem Setting.Names.set {α : Type} (a : α) : (.set a : Setting α).Names place := by
  intro warning h
  cases h

theorem Setting.Names.of_refused {α : Type} {before after warning : String}
    (h : warning = before ++ place ++ after) : (refused warning : Setting α).Names place := by
  intro warning' heq
  obtain rfl := Setting.refused.inj heq
  exact ⟨before, after, h⟩

theorem mistyped_names {α : Type} (wanted : String) (value : Value) :
    (Setting.refused (mistyped wanted place value) : Setting α).Names place :=
  .of_refused place (by simp only [mistyped, String.append_assoc] : _ =
    ("Expected " ++ wanted ++ " in ") ++ place ++ (", got " ++ value.kind ++ ": " ++ value.display))

theorem textSetting_names (value : Option Value) : (textSetting place value).Names place := by
  rcases value with _ | value
  · exact .unset place
  cases value with
  | nothing => exact .unset place
  | text s => exact .set place s
  | _ => exact mistyped_names place _ _

theorem intSetting_names (value : Option Value) : (intSetting place value).Names place := by
  rcases value with _ | value
  · exact .unset place
  cases value with
  | nothing => exact .unset place
  | integer n => exact .set place n
  | _ => exact mistyped_names place _ _

theorem sizeSetting_names (value : Option Value) : (sizeSetting place value).Names place := by
  have h := intSetting_names place value
  rw [sizeSetting]
  rcases hint : intSetting place value with _ | n | warning
  · exact .unset place
  · dsimp only
    split_ifs
    · exact .of_refused place (String.append_assoc ..)
    · exact .set place n
  · exact fun warning' heq => h warning' (hint.trans heq)

theorem textListSetting_names (value : Option Value) :
    (textListSetting place value).Names place := by
  rcases value with _ | value
  · exact .unset place
  cases value with
  | nothing => exact .unset place
  | array items =>
    rw [textListSetting]
    rcases textItems items with item | texts
    · exact .of_refused place (String.append_assoc ..)
    · exact .set place texts
  | _ => exact mistyped_names place _ _

theorem policySetting_names (value : Option Value) : (policySetting place value).Names place := by
  have h := textSetting_names place value
  rw [policySetting]
  rcases htext : textSetting place value with _ | text | warning
  · exact .unset place
  · dsimp only
    rcases AmbiguousPolicy.ofName? (Text.lower (Text.trim text)) with _ | policy
    · exact .of_refused place (by simp only [String.append_assoc]; rfl)
    · exact .set place policy
  · exact fun warning' heq => h warning' (htext.trans (congrArg _ (Setting.refused.inj heq)))

theorem Setting.Names.warning? {α : Type} {setting : Setting α} (h : setting.Names place)
    {record : LogRecord} (hrecord : setting.warning? = some record) :
    ∃ before after, record = .warning (before ++ place ++ after) := by
  cases setting with
  | unset => cases hrecord
  | set => cases hrecord
  | refused warning =>
    obtain rfl := Option.some.inj hrecord
    obtain ⟨before, after, rfl⟩ := h warning rfl
    exact ⟨before, after, rfl⟩

theorem Key.warning?_names {key : Key} {value : Option Value} {record : LogRecord}
    (h : key.warning? place value = some record) :
    ∃ before after, record = .warning (before ++ place ++ after) := by
  cases key with
  | todo | directive => exact (textSetting_names place value).warning? place h
  | context | sample => exact (sizeSetting_names place value).warning? place h
  | markupExtensions => exact (textListSetting_names place value).warning? place h
  | ambiguous => exact (policySetting_names place value).warning? place h
  | seed => exact (intSetting_names place value).warning? place h

end Warnings

/-! ## A table -/

theorem get?_cons (entry : String × Value) (rest : Table) (key : String) :
    Table.get? (entry :: rest) key =
      if key = entry.1 then some entry.2 else Table.get? rest key :=
  lookup_cons_ite entry rest key

theorem get?_eq_none {table : Table} {key : String} (h : key ∉ table.map Prod.fst) :
    table.get? key = none := by
  rw [Table.get?, List.lookup_eq_none_iff]
  intro entry hentry
  simpa using fun heq : key = entry.1 => h (heq ▸ List.mem_map_of_mem hentry)

section Tables

variable (origin : String)

theorem ofTable_warnings (table : Table) :
    (Draft.ofTable origin table).2 =
      Key.all.filterMap fun key => key.warning? (key.place origin) (table.get? key.text) := rfl

theorem Key.warning?_none (key : Key) (place : String) : key.warning? place none = none := by
  cases key <;> rfl

theorem ofTable_key (key : Key) (value : Value) :
    (Draft.ofTable origin [(key.text, value)]).2 =
      (key.warning? (key.place origin) (some value)).toList := by
  have hlookup : ∀ other : Key, Table.get? [(key.text, value)] other.text =
      if other = key then some value else none := by
    intro other
    cases key <;> cases other <;> rfl
  simp only [ofTable_warnings, hlookup]
  rcases hwarning : key.warning? (key.place origin) (some value) with _ | record
  all_goals cases key <;> simp [Key.all, Key.warning?_none, hwarning]

theorem ofTable_other {entry : String × Value} (h : ∀ key : Key, key.text ≠ entry.1) :
    (Draft.ofTable origin [entry]).2 = [] := by
  rw [ofTable_warnings, List.filterMap_eq_nil_iff]
  intro key _
  rw [get?_cons, if_neg (h key)]
  exact key.warning?_none _

theorem ofTable_refused {entry : String × Value} (h : refused entry = true) :
    ∃ before after, (Draft.ofTable origin [entry]).2 =
      [.warning (before ++ (origin ++ "." ++ entry.1) ++ after)] := by
  obtain ⟨name, value⟩ := entry
  obtain ⟨key, -, hkey⟩ := List.any_eq_true.mp h
  obtain ⟨rfl, hrefused⟩ : key.text = name ∧ (!key.accepts value) = true := by simpa using hkey
  rw [← Key.warning?_isSome (key.place origin), Option.isSome_iff_exists] at hrefused
  obtain ⟨record, hrecord⟩ := hrefused
  obtain ⟨before, after, rfl⟩ := Key.warning?_names _ hrecord
  exact ⟨before, after, by rw [ofTable_key, hrecord]; rfl⟩

theorem ofTable_accepted {entry : String × Value} (h : refused entry = false) :
    (Draft.ofTable origin [entry]).2 = [] := by
  by_cases hkey : ∃ key : Key, key.text = entry.1
  · obtain ⟨name, value⟩ := entry
    obtain ⟨key, rfl⟩ := hkey
    rw [refused_text, ← Key.warning?_isSome (key.place origin), Option.isSome_eq_false_iff,
      Option.isNone_iff_eq_none] at h
    rw [ofTable_key, h]
    rfl
  · push Not at hkey
    exact ofTable_other origin hkey

theorem filterMap_or_perm {α β : Type} {f g : α → Option β} (h : ∀ a, f a = none ∨ g a = none)
    (items : List α) :
    (items.filterMap fun a => (f a).or (g a)) ~ items.filterMap f ++ items.filterMap g := by
  induction items with
  | nil => exact .refl _
  | cons a items ih =>
    rcases h a with hf | hg
    · rcases hg : g a with _ | b
      · simpa [List.filterMap_cons, hf, hg] using ih
      · simp only [List.filterMap_cons, hf, hg, Option.none_or]
        exact (ih.cons b).trans List.perm_middle.symm
    · rcases hf : f a with _ | b
      · simpa [List.filterMap_cons, hf, hg] using ih
      · simpa [List.filterMap_cons, hf, hg] using ih

variable {table : Table} (hkeys : (table.map Prod.fst).Nodup)

include hkeys

theorem ofTable_warnings_perm :
    (Draft.ofTable origin table).2 ~
      table.flatMap fun entry => (Draft.ofTable origin [entry]).2 := by
  induction table with
  | nil => exact .refl _
  | cons entry rest ih =>
    rw [List.map_cons, List.nodup_cons] at hkeys
    have hnone : ∀ key : Key, key.text = entry.1 →
        key.warning? (key.place origin) (Table.get? rest key.text) = none := by
      intro key hkey
      have habsent : Table.get? rest key.text = none := get?_eq_none (hkey ▸ hkeys.1)
      rw [habsent, Key.warning?_none]
    -- at each key, either the first entry or the rest has nothing to say
    have hone : ∀ key : Key, key.warning? (key.place origin) (Table.get? [entry] key.text) = none ∨
        key.warning? (key.place origin) (Table.get? rest key.text) = none := by
      intro key
      by_cases hkey : key.text = entry.1
      · exact Or.inr (hnone key hkey)
      · rw [get?_cons, if_neg hkey]
        exact Or.inl (key.warning?_none _)
    have hsplit : ∀ key : Key,
        key.warning? (key.place origin) (Table.get? (entry :: rest) key.text) =
          (key.warning? (key.place origin) (Table.get? [entry] key.text)).or
            (key.warning? (key.place origin) (Table.get? rest key.text)) := by
      intro key
      have hempty : Table.get? [] key.text = none := rfl
      rw [get?_cons, get?_cons]
      split_ifs with hkey
      · rw [hnone key hkey, Option.or_none]
      · rw [hempty, Key.warning?_none, Option.none_or]
    rw [List.flatMap_cons, ofTable_warnings]
    simp only [hsplit]
    exact (filterMap_or_perm hone Key.all).trans ((ih hkeys.2).append_left _)

theorem ofTable_warnings_length :
    (Draft.ofTable origin table).2.length = table.countP refused := by
  rw [(ofTable_warnings_perm origin hkeys).length_eq]
  clear hkeys
  induction table with
  | nil => rfl
  | cons entry rest ih =>
    rw [List.flatMap_cons, List.length_append, ih, List.countP_cons, Nat.add_comm]
    cases hrefused : refused entry with
    | true =>
      obtain ⟨before, after, hone⟩ := ofTable_refused origin hrefused
      rw [hone]
      rfl
    | false => rw [ofTable_accepted origin hrefused]; rfl

theorem get?_filter (keep : String × Value → Bool) (key : String) :
    Table.get? (table.filter keep) key =
      (table.get? key).filter fun value => keep (key, value) := by
  induction table with
  | nil => rfl
  | cons entry rest ih =>
    rw [List.map_cons, List.nodup_cons] at hkeys
    specialize ih hkeys.2
    rw [get?_cons, List.filter_cons]
    by_cases hkey : key = entry.1
    · subst hkey
      rw [get?_eq_none hkeys.1] at ih
      rw [if_pos rfl, Option.filter_some]
      split_ifs with hkeep
      · rw [get?_cons, if_pos rfl]
      · exact ih
    · rw [if_neg hkey]
      split_ifs
      · rw [get?_cons, if_neg hkey, ih]
      · exact ih

theorem get?_filter_refused {α : Type} {key : Key} {read : Option Value → Setting α}
    {valid? : Value → Option α} (hvalue : ∀ value, (read value).value? = value.bind valid?)
    (hwarning : ∀ value, key.warning? origin value = (read value).warning?) :
    (Table.get? (table.filter fun entry => !refused entry) key.text).bind valid? =
      (table.get? key.text).bind valid? := by
  rw [get?_filter hkeys]
  rcases table.get? key.text with _ | value
  · rfl
  rw [Option.filter_some, refused_text, Bool.not_not]
  cases haccepts : key.accepts value with
  | true => rfl
  | false =>
    -- what is refused gives a warning, and so no value
    have hwarns := Key.warning?_isSome origin key value
    have hnone := hvalue (some value)
    rw [hwarning, haccepts] at hwarns
    rcases hsetting : read (some value) with _ | made | warning
    · rw [hsetting] at hwarns
      cases hwarns
    · rw [hsetting] at hwarns
      cases hwarns
    · rw [hsetting] at hnone
      exact hnone

theorem ofTable_filter :
    (Draft.ofTable origin (table.filter fun entry => !refused entry)).1 =
      (Draft.ofTable origin table).1 := by
  simp only [ofTable_draft, Draft.mk.injEq, true_and, and_true]
  refine ⟨?todo, ?directive, ?context, ?markup, ?ambiguous, ?sample, ?seed⟩
  case todo | directive =>
    exact get?_filter_refused origin hkeys (textSetting_value? origin) fun _ => rfl
  case context | sample =>
    exact get?_filter_refused origin hkeys (sizeSetting_value? origin) fun _ => rfl
  case markup =>
    exact get?_filter_refused origin hkeys (textListSetting_value? origin) fun _ => rfl
  case ambiguous =>
    exact get?_filter_refused origin hkeys (policySetting_value? origin) fun _ => rfl
  case seed =>
    exact get?_filter_refused origin hkeys (intSetting_value? origin) fun _ => rfl

end Tables

/-- **Refused entries.** A table makes the draft that it makes without the entries that are refused,
and without these it gives no warning. With them it gives as many warnings as there are such
entries, namely those that its entries give when each stands alone: one warning, which names its
place, for an entry that is refused, and none for any other. Each field of the draft is what stands
under its own key, as far as it is valid. -/
theorem refused_as_absent (origin : String) {table : Table}
    (hkeys : (table.map Prod.fst).Nodup) :
    let made := Draft.ofTable origin table
    let kept := Draft.ofTable origin (table.filter fun entry => !refused entry)
    made.1 = kept.1 ∧ kept.2 = [] ∧
    made.2.length = table.countP refused ∧
    made.2 ~ table.flatMap (fun entry => (Draft.ofTable origin [entry]).2) ∧
    (∀ entry, refused entry = true → ∃ before after, (Draft.ofTable origin [entry]).2 =
      [.warning (before ++ (origin ++ "." ++ entry.1) ++ after)]) ∧
    (∀ entry, refused entry = false → (Draft.ofTable origin [entry]).2 = []) ∧
    made.1 =
      { todo := (table.get? Key.todo.text).bind Value.text?
        directive := (table.get? Key.directive.text).bind Value.text?
        context := (table.get? Key.context.text).bind Value.size?
        markupExtensions := (table.get? Key.markupExtensions.text).bind Value.texts?
        ambiguous := (table.get? Key.ambiguous.text).bind Value.policy?
        sample := (table.get? Key.sample.text).bind Value.size?
        seed := (table.get? Key.seed.text).bind Value.int? } := by
  intro made kept
  have hkept : ((table.filter fun entry => !refused entry).map Prod.fst).Nodup :=
    hkeys.sublist (List.filter_sublist.map _)
  have hnone : (table.filter fun entry => !refused entry).countP refused = 0 := by
    simp [List.countP_eq_zero]
  refine ⟨(ofTable_filter origin hkeys).symm, ?_, ofTable_warnings_length origin hkeys,
    ofTable_warnings_perm origin hkeys, fun _ => ofTable_refused origin,
    fun _ => ofTable_accepted origin, ofTable_draft origin table⟩
  rw [← List.length_eq_zero_iff, ofTable_warnings_length origin hkept, hnone]

/-- Seven entries, one of them under a key that no setting has: an unknown policy, a truth value, a
negative number and a list with a number in it are refused. -/
theorem refused_as_absent_mixed :
    let table : Table :=
      [("seed", .boolean true), ("todo", .text ""), ("context", .integer (-1)),
        ("markup_extensions", .array [.text ".tsx", .integer 3]), ("ambiguous", .text " never "),
        ("sample", .integer 0), ("root", .integer 1)]
    let valid : Table := [("todo", .text ""), ("sample", .integer 0), ("root", .integer 1)]
    (table.map Prod.fst).Nodup ∧
      (Draft.ofTable "<dict>" table).1 = (Draft.ofTable "<dict>" valid).1 ∧
      (Draft.ofTable "<dict>" valid).2 = [] ∧
      (Draft.ofTable "<dict>" table).2.length = 4 ∧
      (Draft.ofTable "<dict>" table).1 = { todo := some "", sample := some 0 } := by
  intro table valid
  have hkeys : (table.map Prod.fst).Nodup := by decide
  have hvalid : (table.filter fun entry => !refused entry) = valid := by rfl
  obtain ⟨hsame, hsilent, hcount, -, -, -, hdraft⟩ := refused_as_absent "<dict>" hkeys
  rw [hvalid] at hsame hsilent
  exact ⟨hkeys, hsame, hsilent, hcount, hdraft⟩

end ExpectError.Config
