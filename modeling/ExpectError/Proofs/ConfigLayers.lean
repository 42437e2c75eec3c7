import ExpectError.Config.Load
import ExpectError.Toml.Document
import Mathlib.Data.List.Basic

/-!
# Layers of settings

A setting is what the last layer that makes it says. Merging is a left fold, so each field of the
merged draft is the last of the fields that are set (`foldl_merge_field`), and each field of a layer
is what stands in the table of a file under its key, as far as it is valid (`Layer.draft`). Loading
comes to its end exactly if the search does and each file can be loaded, and then the settings are
those of the last layers (`settings_layered`).
-/

namespace ExpectError

/-! ## Values that a table may set -/

namespace Toml.Value

def text? : Value → Option String
  | .text s => some s
  | _ => none

def int? : Value → Option Int
  | .integer n => some n
  | _ => none

def size? (value : Value) : Option Int :=
  value.int?.filter (0 ≤ ·)

def texts? : Value → Option (List String)
  | .array items => items.mapM text?
  | _ => none

/-- A text that names a policy, in any case and with blanks around it. -/
def policy? (value : Value) : Option AmbiguousPolicy :=
  value.text?.bind fun s => AmbiguousPolicy.ofName? (Text.lower (Text.trim s))

end Toml.Value

namespace Config

open Toml (Value Table)

variable {α : Type} (place : String)

theorem textSetting_value? (value : Option Value) :
    (textSetting place value).value? = value.bind Value.text? := by
  rcases value with _ | value
  · rfl
  · cases value <;> rfl

theorem intSetting_value? (value : Option Value) :
    (intSetting place value).value? = value.bind Value.int? := by
  rcases value with _ | value
  · rfl
  · cases value <;> rfl

theorem sizeSetting_value? (value : Option Value) :
    (sizeSetting place value).value? = value.bind Value.size? := by
  have hint := intSetting_value? place value
  have hsize : value.bind Value.size? = (value.bind Value.int?).filter (0 ≤ ·) := by
    cases value <;> rfl
  rw [hsize, ← hint, sizeSetting]
  rcases intSetting place value with _ | n | warning
  · rfl
  · by_cases hn : n < 0
    · have hnot : ¬ 0 ≤ n := by omega
      simp [Setting.value?, hn, hnot, Option.filter]
    · have hle : 0 ≤ n := by omega
      simp [Setting.value?, hn, hle, Option.filter]
  · rfl

theorem textItems_toOption (items : List Value) :
    (textItems items).toOption = items.mapM Value.text? := by
  induction items with
  | nil => rfl
  | cons item items ih =>
    rw [List.mapM_cons, ← ih]
    cases item with
    | text s =>
      rw [textItems]
      rcases textItems items with item | texts <;> rfl
    | _ => rfl

theorem textListSetting_value? (value : Option Value) :
    (textListSetting place value).value? = value.bind Value.texts? := by
  rcases value with _ | value
  · rfl
  cases value with
  | array items =>
    rw [Option.bind_some, Value.texts?, ← textItems_toOption, textListSetting]
    rcases textItems items with item | texts <;> rfl
  | _ => rfl

theorem policySetting_value? (value : Option Value) :
    (policySetting place value).value? = value.bind Value.policy? := by
  have htext := textSetting_value? place value
  have hpolicy : value.bind Value.policy? = (value.bind Value.text?).bind fun s =>
      AmbiguousPolicy.ofName? (Text.lower (Text.trim s)) := by
    cases value <;> rfl
  rw [hpolicy, ← htext, policySetting]
  rcases textSetting place value with _ | s | warning
  · rfl
  · simp only [Setting.value?, Option.bind_some]
    cases AmbiguousPolicy.ofName? (Text.lower (Text.trim s)) <;> rfl
  · rfl

/-! ## The last that is set -/

/-- The last value of those that are set. -/
def lastSet (values : List (Option α)) : Option α :=
  (values.filterMap id).getLast?

theorem lastSet_cons (value : Option α) (values : List (Option α)) :
    lastSet (value :: values) = (lastSet values).or value := by
  cases value with
  | none => simp [lastSet]
  | some a =>
    have hcons : (some a :: values).filterMap id = a :: values.filterMap id := rfl
    rw [lastSet, hcons, List.getLast?_cons, lastSet]
    cases (values.filterMap id).getLast? <;> rfl

theorem lastSet_append (values more : List (Option α)) :
    lastSet (values ++ more) = (lastSet more).or (lastSet values) := by
  simp [lastSet, List.getLast?_append]

theorem foldl_merge_field {f : Draft → Option α}
    (hf : ∀ draft layer, f (Draft.merge draft layer) = (f layer).or (f draft))
    (drafts : List Draft) (draft : Draft) :
    f (drafts.foldl Draft.merge draft) = (lastSet (drafts.map f)).or (f draft) := by
  induction drafts generalizing draft with
  | nil => simp [lastSet]
  | cons layer drafts ih =>
    rw [List.foldl_cons, ih, hf, List.map_cons, lastSet_cons, Option.or_assoc]

theorem foldl_merge_kept {f : Draft → α} (hf : ∀ draft layer, f (Draft.merge draft layer) = f draft)
    (drafts : List Draft) (draft : Draft) : f (drafts.foldl Draft.merge draft) = f draft := by
  induction drafts generalizing draft with
  | nil => rfl
  | cons layer drafts ih => rw [List.foldl_cons, ih, hf]

theorem foldl_merge_sources (drafts : List Draft) (draft : Draft) :
    (drafts.foldl Draft.merge draft).sources = draft.sources ++ drafts.flatMap Draft.sources := by
  induction drafts generalizing draft with
  | nil => simp
  | cons layer drafts ih =>
    rw [List.foldl_cons, ih, List.flatMap_cons, ← List.append_assoc]
    rfl

end Config

namespace Draft

theorem merge_assoc (a b c : Draft) : (a.merge b).merge c = a.merge (b.merge c) := by
  simp only [merge, HOrElse.hOrElse, OrElse.orElse, Option.orElse_eq_or, Option.or_assoc,
    List.append_assoc]

theorem merge_empty (a : Draft) : a.merge {} = a := by
  simp [merge]

theorem empty_merge (a : Draft) :
    ({} : Draft).merge a =
      { a with dry := false, verbose := false, diff := false, base := none } := by
  simp [merge]

end Draft

/-! ## Files -/

namespace Loading

variable {α β : Type}

theorem bind_eq_ok_iff {first : Loading α} {next : α → Loading β} {value : β} :
    (first >>= next).result = .ok value ↔
      ∃ middle, first.result = .ok middle ∧ (next middle).result = .ok value := by
  change (first.andThen next).result = .ok value ↔ _
  unfold andThen
  rcases first.result with fault | middle <;> simp

theorem pure_eq_ok_iff {made value : α} :
    (pure made : Loading α).result = .ok value ↔ made = value := by
  change Except.ok made = .ok value ↔ _
  rw [Except.ok.injEq]

end Loading

namespace Config

open Toml (Value Table)

/-- A file with a part for this tool. -/
structure Layer where
  path : Path
  table : Table

def Layer.draft (layer : Layer) : Draft :=
  { (Draft.ofTable (originOf layer.path) layer.table).1 with sources := [layer.path.toText] }

/-- What the table says about a key, if that is valid. -/
def Layer.read {α : Type} (layer : Layer) (key : Key) (valid? : Value → Option α) : Option α :=
  (layer.table.get? key.text).bind valid?

theorem ofTable_draft (origin : String) (table : Table) :
    (Draft.ofTable origin table).1 =
      { todo := (table.get? Key.todo.text).bind Value.text?
        directive := (table.get? Key.directive.text).bind Value.text?
        context := (table.get? Key.context.text).bind Value.size?
        markupExtensions := (table.get? Key.markupExtensions.text).bind Value.texts?
        ambiguous := (table.get? Key.ambiguous.text).bind Value.policy?
        sample := (table.get? Key.sample.text).bind Value.size?
        seed := (table.get? Key.seed.text).bind Value.int? } := by
  simp only [Draft.ofTable, Settings.draft, Settings.ofTable, textSetting_value?,
    intSetting_value?, sizeSetting_value?, textListSetting_value?, policySetting_value?]

theorem Layer.draft_eq (layer : Layer) :
    layer.draft =
      { sources := [layer.path.toText]
        todo := layer.read .todo Value.text?
        directive := layer.read .directive Value.text?
        context := layer.read .context Value.size?
        markupExtensions := layer.read .markupExtensions Value.texts?
        ambiguous := layer.read .ambiguous Value.policy?
        sample := layer.read .sample Value.size?
        seed := layer.read .seed Value.int? } := by
  rw [Layer.draft, ofTable_draft]
  rfl

/-- The layer of a file with a given table, if there is a part for this tool. -/
def layerOf (path : Path) (table : Table) : Option Layer :=
  (ownPart path table).map (Layer.mk path)

/-- The layers of files, as far as these can be loaded. -/
def layers (reader : Toml.DocumentReader) (disk : Disk) (paths : List Path) : List Layer :=
  paths.filterMap fun path => (loadTable reader disk path).result.toOption.bind (layerOf path)

variable {reader : Toml.DocumentReader} {disk : Disk}

theorem loadOwn_eq_ok_iff {path : Path} {own : Option Table} :
    (loadOwn reader disk path).result = .ok own ↔
      ∃ table, (loadTable reader disk path).result = .ok table ∧ ownPart path table = own := by
  rw [loadOwn, Loading.bind_eq_ok_iff]
  simp only [Loading.pure_eq_ok_iff]

theorem loadLayer_eq_ok_iff {path : Path} {made : Option Draft} :
    (loadLayer reader disk path).result = .ok made ↔
      ∃ table, (loadTable reader disk path).result = .ok table ∧
        made = (layerOf path table).map Layer.draft := by
  rw [loadLayer, Loading.bind_eq_ok_iff]
  constructor
  · rintro ⟨own, hload, hmade⟩
    obtain ⟨table, htable, hpart⟩ := loadOwn_eq_ok_iff.mp hload
    refine ⟨table, htable, ?_⟩
    rw [layerOf, hpart]
    cases own with
    | none => exact (Except.ok.inj hmade).symm
    | some own => exact (Except.ok.inj hmade).symm
  · rintro ⟨table, htable, rfl⟩
    refine ⟨ownPart path table, loadOwn_eq_ok_iff.mpr ⟨table, htable, rfl⟩, ?_⟩
    unfold layerOf
    rcases ownPart path table with _ | own <;> rfl

theorem layers_cons {path : Path} {table : Table}
    (h : (loadTable reader disk path).result = .ok table) (paths : List Path) :
    layers reader disk (path :: paths) = (layerOf path table).toList ++ layers reader disk paths := by
  rw [layers, List.filterMap_cons, h]
  simp only [Except.toOption, Option.bind_some]
  cases layerOf path table <;> rfl

theorem addLayers_cons_eq_ok_iff {path : Path} {paths : List Path} {draft made : Draft} :
    (addLayers reader disk draft (path :: paths)).result = .ok made ↔
      ∃ table, (loadTable reader disk path).result = .ok table ∧
        (addLayers reader disk (((layerOf path table).toList.map Layer.draft).foldl Draft.merge draft)
          paths).result = .ok made := by
  rw [addLayers, Loading.bind_eq_ok_iff]
  simp only [loadLayer_eq_ok_iff]
  constructor
  · rintro ⟨_, ⟨table, htable, rfl⟩, hrest⟩
    refine ⟨table, htable, ?_⟩
    cases hlayer : layerOf path table with
    | none =>
      rw [hlayer] at hrest
      exact hrest
    | some layer =>
      rw [hlayer] at hrest
      exact hrest
  · rintro ⟨table, htable, hrest⟩
    refine ⟨_, ⟨table, htable, rfl⟩, ?_⟩
    cases hlayer : layerOf path table with
    | none =>
      rw [hlayer] at hrest
      exact hrest
    | some layer =>
      rw [hlayer] at hrest
      exact hrest

theorem addLayers_eq_ok_iff {paths : List Path} {draft made : Draft} :
    (addLayers reader disk draft paths).result = .ok made ↔
      (∀ path ∈ paths, (loadTable reader disk path).result.isOk = true) ∧
        made = ((layers reader disk paths).map Layer.draft).foldl Draft.merge draft := by
  induction paths generalizing draft with
  | nil => exact ⟨fun h => ⟨by simp, (Except.ok.inj h).symm⟩, fun ⟨_, h⟩ => h ▸ rfl⟩
  | cons path paths ih =>
    rw [addLayers_cons_eq_ok_iff, List.forall_mem_cons]
    constructor
    · rintro ⟨table, htable, hrest⟩
      obtain ⟨hok, rfl⟩ := ih.mp hrest
      refine ⟨⟨by rw [htable]; rfl, hok⟩, ?_⟩
      rw [layers_cons htable, List.map_append, List.foldl_append]
    · rintro ⟨⟨hfirst, hok⟩, rfl⟩
      rcases htable : (loadTable reader disk path).result with fault | table
      · rw [htable] at hfirst
        cases hfirst
      · refine ⟨table, rfl, ih.mpr ⟨hok, ?_⟩⟩
        rw [layers_cons htable, List.map_append, List.foldl_append]

theorem load_eq_ok_iff {start : Path} {extra : List Path} {noSearch : Bool} {made : Draft} :
    (load reader disk start extra noSearch).result = .ok made ↔
      ∃ found,
        (if noSearch then Loading.done [] else discover reader disk start).result = .ok found ∧
        (∀ path ∈ found ++ extra, (loadTable reader disk path).result.isOk = true) ∧
        made = ((layers reader disk (found ++ extra)).map Layer.draft).foldl Draft.merge
          Draft.defaults := by
  have hload : ∀ searched : Loading (List Path),
      (searched >>= fun found => addLayers reader disk Draft.defaults (found ++ extra)).result =
        .ok made ↔ ∃ found, searched.result = .ok found ∧
          (∀ path ∈ found ++ extra, (loadTable reader disk path).result.isOk = true) ∧
          made = ((layers reader disk (found ++ extra)).map Layer.draft).foldl Draft.merge
            Draft.defaults := by
    intro searched
    rw [Loading.bind_eq_ok_iff]
    simp only [addLayers_eq_ok_iff]
  cases noSearch with
  | true => exact hload (Loading.done [])
  | false => exact hload (discover reader disk start)

/-! ## The search -/

/-- The files to look for in a directory and in those around it, the outermost first. -/
def candidates (directory : Path) : List Path :=
  (ancestors directory.anchor directory.components).reverse.flatMap fun outer =>
    [outer.child projectFile, outer.child ownFile]

theorem probe_sublist {directory : Path} {name : String} {seen : Option (Path × Bool)}
    (h : (probe reader disk directory name).result = .ok seen) :
    (seen.toList.map Prod.fst).Sublist [directory.child name] := by
  rw [probe, Loading.bind_eq_ok_iff] at h
  obtain ⟨present, -, h⟩ := h
  cases present with
  | false =>
    obtain rfl := Loading.pure_eq_ok_iff.mp h
    exact List.nil_sublist _
  | true =>
    obtain ⟨own, -, h⟩ := Loading.bind_eq_ok_iff.mp h
    obtain rfl := Loading.pure_eq_ok_iff.mp h
    cases own with
    | none => exact List.nil_sublist _
    | some table => exact List.Sublist.refl _

theorem search_sublist {directories found : List Path}
    (h : (search reader disk directories).result = .ok found) :
    found.Sublist (directories.reverse.flatMap fun outer =>
      [outer.child projectFile, outer.child ownFile]) := by
  induction directories generalizing found with
  | nil =>
    obtain rfl := Except.ok.inj h
    exact List.nil_sublist _
  | cons directory outer ih =>
    rw [search, Loading.bind_eq_ok_iff] at h
    obtain ⟨⟨here, stop⟩, hboth, h⟩ := h
    have hhere : here.Sublist [directory.child projectFile, directory.child ownFile] := by
      rw [probeBoth, Loading.bind_eq_ok_iff] at hboth
      obtain ⟨project, hproject, hboth⟩ := hboth
      obtain ⟨own, hown, hboth⟩ := Loading.bind_eq_ok_iff.mp hboth
      obtain ⟨rfl, -⟩ := Prod.mk.inj (Loading.pure_eq_ok_iff.mp hboth)
      rw [List.map_append]
      exact (probe_sublist hproject).append (probe_sublist hown)
    -- what is found further out goes in front
    rw [List.reverse_cons, List.flatMap_append, List.flatMap_singleton]
    cases stop with
    | true =>
      obtain rfl := Loading.pure_eq_ok_iff.mp h
      exact hhere.trans (List.sublist_append_right _ _)
    | false =>
      obtain ⟨above, habove, h⟩ := Loading.bind_eq_ok_iff.mp h
      obtain rfl := Loading.pure_eq_ok_iff.mp h
      exact (ih habove).append hhere

theorem discover_sublist {start : Path} {found : List Path}
    (h : (discover reader disk start).result = .ok found) :
    ∃ directory, (directory = absolute disk start ∨ directory = (absolute disk start).parent) ∧
      found.Sublist (candidates directory) := by
  unfold discover at h
  split_ifs at h
  · obtain ⟨_, hfault, -⟩ := Loading.bind_eq_ok_iff.mp h
    cases hfault
  · obtain ⟨isFile, -, h⟩ := Loading.bind_eq_ok_iff.mp h
    refine ⟨if isFile then (absolute disk start).parent else absolute disk start, ?_,
      search_sublist h⟩
    cases isFile
    · exact Or.inl rfl
    · exact Or.inr rfl

/-! ## The settings -/

/-- What the last layer says that sets a key with a valid value; the caller comes last. -/
def lastValid {α : Type} (layers : List Layer) (key : Key) (valid? : Value → Option α)
    (arg : Option α) : Option α :=
  lastSet (layers.map (Layer.read · key valid?) ++ [arg])

/-- The settings are those of the last layers that set them, or else the built-in ones. -/
structure Layered (layers : List Layer) (args : Draft.Overrides) (config : Config) : Prop where
  sources : config.sources = "<defaults>" :: layers.map fun layer => layer.path.toText
  todo : config.todo = (lastValid layers .todo Value.text? args.todo).getD defaultTodo
  /-- An empty directive wins over those before it, and then counts as not set. -/
  directive : config.directive =
    ((lastValid layers .directive Value.text? args.directive).filter (· ≠ "")).getD
      defaultDirective
  context : config.context =
    (lastValid layers .context Value.size? args.context).getD defaultContext
  markupExtensions : config.markupExtensions =
    (lastValid layers .markupExtensions Value.texts? args.markupExtensions).getD
      defaultMarkupExtensions
  ambiguous : config.ambiguous =
    (lastValid layers .ambiguous Value.policy? args.ambiguous).getD .ask
  sample : config.sample = lastValid layers .sample Value.size? args.sample
  seed : config.seed = lastValid layers .seed Value.int? args.seed
  dry : config.dry = args.dry.getD false
  verbose : config.verbose = args.verbose.getD false
  diff : config.diff = args.diff.getD false
  base : config.base = args.base

/-- The draft with the built-in settings, the layers and the settings of the caller. -/
def layeredDraft (layers : List Layer) (args : Draft.Overrides) : Draft :=
  ((layers.map Layer.draft).foldl Draft.merge Draft.defaults).override args

/-- A field of drafts in which the last layer wins, with the key and the valid values of a table and
the setting of the caller. -/
structure LayeredField {α : Type} (f : Draft → Option α) (key : Key) (valid? : Value → Option α)
    (arg : Draft.Overrides → Option α) : Prop where
  merge : ∀ draft layer, f (Draft.merge draft layer) = (f layer).or (f draft)
  read : ∀ layer : Layer, f layer.draft = layer.read key valid?
  override : ∀ draft args, f (Draft.override draft args) = (arg args).or (f draft)

theorem todo_layered : LayeredField Draft.todo .todo Value.text? Draft.Overrides.todo where
  merge _ _ := Option.orElse_eq_or
  read layer := congrArg Draft.todo layer.draft_eq
  override _ _ := Option.orElse_eq_or

theorem directive_layered :
    LayeredField Draft.directive .directive Value.text? Draft.Overrides.directive where
  merge _ _ := Option.orElse_eq_or
  read layer := congrArg Draft.directive layer.draft_eq
  override _ _ := Option.orElse_eq_or

theorem context_layered :
    LayeredField Draft.context .context Value.size? Draft.Overrides.context where
  merge _ _ := Option.orElse_eq_or
  read layer := congrArg Draft.context layer.draft_eq
  override _ _ := Option.orElse_eq_or

theorem markupExtensions_layered : LayeredField Draft.markupExtensions .markupExtensions
    Value.texts? Draft.Overrides.markupExtensions where
  merge _ _ := Option.orElse_eq_or
  read layer := congrArg Draft.markupExtensions layer.draft_eq
  override _ _ := Option.orElse_eq_or

theorem ambiguous_layered :
    LayeredField Draft.ambiguous .ambiguous Value.policy? Draft.Overrides.ambiguous where
  merge _ _ := Option.orElse_eq_or
  read layer := congrArg Draft.ambiguous layer.draft_eq
  override _ _ := Option.orElse_eq_or

theorem sample_layered : LayeredField Draft.sample .sample Value.size? Draft.Overrides.sample where
  merge _ _ := Option.orElse_eq_or
  read layer := congrArg Draft.sample layer.draft_eq
  override _ _ := Option.orElse_eq_or

theorem seed_layered : LayeredField Draft.seed .seed Value.int? Draft.Overrides.seed where
  merge _ _ := Option.orElse_eq_or
  read layer := congrArg Draft.seed layer.draft_eq
  override _ _ := Option.orElse_eq_or

section Fields

variable (layers : List Layer) (args : Draft.Overrides)

theorem LayeredField.eq {α : Type} {f : Draft → Option α} {key : Key} {valid? : Value → Option α}
    {arg : Draft.Overrides → Option α} (h : LayeredField f key valid? arg) :
    f (layeredDraft layers args) =
      (lastValid layers key valid? (arg args)).or (f Draft.defaults) := by
  have hfields : (layers.map Layer.draft).map f = layers.map (Layer.read · key valid?) := by
    rw [List.map_map]
    exact List.map_congr_left fun layer _ => h.read layer
  have harg : lastSet [arg args] = arg args := by cases arg args <;> rfl
  rw [layeredDraft, h.override, foldl_merge_field h.merge, hfields, lastValid, lastSet_append,
    harg, Option.or_assoc]

theorem LayeredField.getD_eq {α : Type} {f : Draft → Option α} {key : Key}
    {valid? : Value → Option α} {arg : Draft.Overrides → Option α}
    (h : LayeredField f key valid? arg) {default : α} (hdefault : f Draft.defaults = some default) :
    (f (layeredDraft layers args)).getD default =
      (lastValid layers key valid? (arg args)).getD default := by
  rw [h.eq, hdefault, Option.getD_or]
  rfl

theorem layeredDraft_layered : Layered layers args (layeredDraft layers args).freeze := by
  have hkept : ∀ {α : Type} (f : Draft → α),
      (∀ draft layer, f (Draft.merge draft layer) = f draft) →
      f ((layers.map Layer.draft).foldl Draft.merge Draft.defaults) = f Draft.defaults :=
    fun f hf => foldl_merge_kept hf _ _
  constructor
  case sources =>
    have hsources : (layers.map Layer.draft).flatMap Draft.sources =
        layers.map fun layer => layer.path.toText := by
      rw [List.flatMap_map]
      exact List.flatMap_pure_eq_map _ _
    change ((layers.map Layer.draft).foldl Draft.merge Draft.defaults).sources ++ [] = _
    rw [List.append_nil, foldl_merge_sources, hsources]
    rfl
  case todo => exact todo_layered.getD_eq layers args rfl
  case directive =>
    -- the empty directive is dropped only now, when all layers have been merged
    change ((layeredDraft layers args).directive.filter _).getD _ = _
    rw [directive_layered.eq]
    cases lastValid layers .directive Value.text? args.directive <;> rfl
  case context => exact context_layered.getD_eq layers args rfl
  case markupExtensions => exact markupExtensions_layered.getD_eq layers args rfl
  case ambiguous => exact ambiguous_layered.getD_eq layers args rfl
  case sample => exact (sample_layered.eq layers args).trans Option.or_none
  case seed => exact (seed_layered.eq layers args).trans Option.or_none
  case dry => exact congrArg args.dry.getD (hkept Draft.dry fun _ _ => rfl)
  case verbose => exact congrArg args.verbose.getD (hkept Draft.verbose fun _ _ => rfl)
  case diff => exact congrArg args.diff.getD (hkept Draft.diff fun _ _ => rfl)
  case base =>
    have hbase := hkept Draft.base fun _ _ => rfl
    change (args.base <|> _) = _
    rw [hbase]
    exact Option.orElse_eq_or.trans Option.or_none

end Fields

/-- **Layers of settings.** Whatever the reader of documents, loading comes to its end exactly if
the search does, where there is one, and each file that is found or given by name can be loaded; the
files that are found stand in the order of their directories, the outermost first. With the settings
of the caller on top, the settings are then those of the last layers that set them (`Layered`). How
the layers are put together has no bearing on this: merging is associative, and on the fields that
layers set an empty layer changes nothing on either side. -/
theorem settings_layered (reader : Toml.DocumentReader) (disk : Disk) (start : Path)
    (extra : List Path) (noSearch : Bool) :
    let searched := (if noSearch then Loading.done [] else discover reader disk start).result
    let loaded := (load reader disk start extra noSearch).result
    (loaded.isOk = true ↔ ∃ found, searched = .ok found ∧
      ∀ path ∈ found ++ extra, (loadTable reader disk path).result.isOk = true) ∧
    (∀ found, searched = .ok found → ∃ directory,
      (directory = absolute disk start ∨ directory = (absolute disk start).parent) ∧
      found.Sublist (candidates directory)) ∧
    (∀ found draft, searched = .ok found → loaded = .ok draft → ∀ args,
      Layered (layers reader disk (found ++ extra)) args (draft.override args).freeze) ∧
    (∀ a b c : Draft, (a.merge b).merge c = a.merge (b.merge c)) ∧
    (∀ a : Draft, a.merge {} = a) ∧
    (∀ a : Draft, ({} : Draft).merge a =
      { a with dry := false, verbose := false, diff := false, base := none }) := by
  intro searched loaded
  refine ⟨⟨fun hok => ?_, ?_⟩, fun found hfound => ?_, fun found draft hfound hdraft args => ?_,
    Draft.merge_assoc, Draft.merge_empty, Draft.empty_merge⟩
  · obtain ⟨draft, hdraft⟩ : ∃ draft, loaded = .ok draft := by
      rcases hloaded : loaded with fault | draft
      · rw [hloaded] at hok
        cases hok
      · exact ⟨draft, rfl⟩
    obtain ⟨found, hfound, hall, -⟩ := load_eq_ok_iff.mp hdraft
    exact ⟨found, hfound, hall⟩
  · rintro ⟨found, hfound, hall⟩
    have hloaded : loaded = .ok _ := load_eq_ok_iff.mpr ⟨found, hfound, hall, rfl⟩
    rw [hloaded]
    rfl
  · cases noSearch with
    | true =>
      obtain rfl := Except.ok.inj hfound
      exact ⟨_, Or.inl rfl, List.nil_sublist _⟩
    | false => exact discover_sublist hfound
  · obtain ⟨found', hfound', -, rfl⟩ := load_eq_ok_iff.mp hdraft
    obtain rfl := Except.ok.inj (hfound.symm.trans hfound')
    exact layeredDraft_layered _ args

/-- Three files that are found, one that has no part for this tool, and one given by name. An empty
word and a radius of zero win; a truth value, a negative number and an unknown policy do not, nor
does anything in the file that cannot be read. -/
theorem settings_layered_five_files :
    let reader := Toml.Document.read []
    let disk : Disk :=
      { cwd := ["w", "app"]
        nodes := [(["w"], .directory), (["w", "app"], .directory),
          (["w", "pyproject.toml"], .file "[project]\nname = \"x\"\n".toUTF8),
          (["w", "tsmark.toml"], .file ("root = true\ntodo = \"OUT\"\ncontext = 7\n" ++
            "ambiguous = \" Skip \"\nsample = 2\n").toUTF8),
          (["w", "app", "pyproject.toml"], .file ("[tool.tsmark]\ncontext = 0\nsample = -1\n" ++
            "ambiguous = \"never\"\n").toUTF8),
          (["w", "app", "tsmark.toml"], .file "todo = \"IN\"\nsample = 9\n".toUTF8),
          (["w", "app", "ci.toml"], .file "todo = \"\"\ncontext = true\n".toUTF8)]
        denials := [⟨"/w/app/tsmark.toml", .read, .accessDenied⟩] }
    let args : Draft.Overrides := { directive := some "", seed := some 4, dry := some true }
    let config : Config :=
      { sources := ["<defaults>", "/w/tsmark.toml", "/w/app/pyproject.toml", "/w/app/tsmark.toml",
          "ci.toml"]
        todo := ""
        directive := "@ts-expect-error"
        context := 0
        markupExtensions := [".tsx", ".jsx"]
        ambiguous := .skip
        sample := some 2
        seed := some 4
        dry := true
        verbose := false
        diff := false
        base := none }
    let loaded := (load reader disk (Path.ofText ".") [Path.ofText "ci.toml"] false).result
    ∃ found draft, (discover reader disk (Path.ofText ".")).result = .ok found ∧
      loaded = .ok draft ∧ Layered (layers reader disk (found ++ [Path.ofText "ci.toml"])) args
        (draft.override args).freeze ∧
      (draft.override args).freeze = config := by
  intro reader disk args config loaded
  obtain ⟨hends, -, hlayered, -⟩ :=
    settings_layered reader disk (Path.ofText ".") [Path.ofText "ci.toml"] false
  obtain ⟨found, hfound, hall⟩ := hends.mp (by decide +kernel)
  have hdraft : loaded = .ok _ := load_eq_ok_iff.mpr ⟨found, hfound, hall, rfl⟩
  have hconfig : loaded.toOption.map (fun draft => (draft.override args).freeze) = some config := by
    decide +kernel
  rw [hdraft] at hconfig
  exact ⟨found, _, hfound, hdraft, hlayered found _ hfound hdraft args, Option.some.inj hconfig⟩

end Config

end ExpectError
