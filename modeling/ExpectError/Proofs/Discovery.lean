import ExpectError.Proofs.ConfigLayers
import ExpectError.Proofs.DiskFrame
import Mathlib.Data.List.Chain
import Mathlib.Data.List.Induction

/-!
# The search for files

From a directory the search goes outwards until the files of a directory end it, or the root is
reached (`visited`). It comes to its end exactly if it can look at the files of each directory on
its way (`Examinable`), and then it has found the files that count, those of the outermost directory
first (`search_eq_ok_iff`). Loading reads the same files once more and comes to the same result, so
each of them makes a layer (`discover_layers`).
-/

namespace ExpectError.Config

open Toml (Value Table)

/-! ## What a file says -/

section Files

variable (reader : Toml.DocumentReader) (disk : Disk) (path : Path)

/-- The table of a file. One that cannot be read, or is no document, counts as empty. -/
def fileTable : Table :=
  ((readLf disk path).toOption.bind fun text => (reader text).toOption).getD []

/-- The file holds a document that defines something a second time. -/
def Conflicting : Prop :=
  ∃ text conflict, readLf disk path = .ok text ∧ reader text = .error (.conflict conflict)

/-- Whether there is such a file. -/
def isPresent : Bool :=
  (disk.isFile path).toOption.getD false

/-- The part of a file that is for this tool, if there is such a file and such a part. -/
def own? : Option Table :=
  if isPresent disk path then ownPart path (fileTable reader disk path) else none

/-- The search can tell whether there is such a file, and can read the document of one. -/
def Examinable : Prop :=
  ∃ present, disk.isFile path = .ok present ∧ (present = true → ¬ Conflicting reader disk path)

end Files

variable {reader : Toml.DocumentReader} {disk : Disk}

theorem loadTable_eq_ok_iff {path : Path} {table : Table} :
    (loadTable reader disk path).result = .ok table ↔
      ¬ Conflicting reader disk path ∧ table = fileTable reader disk path := by
  unfold loadTable Conflicting fileTable
  rcases readLf disk path with fault | text
  · simp [emptyBecause, Except.toOption, eq_comm]
  · rcases hread : reader text with (_ | _ | conflict) | entries
    · simp [emptyBecause, Except.toOption, hread, eq_comm]
    · simp [emptyBecause, Except.toOption, hread, eq_comm]
    · simp [hread]
    · simp [Loading.done, Except.toOption, hread, eq_comm]

theorem section?_eq_some_iff {table own : Table} : section? table = some own ↔
    ∃ tools, table.get? "tool" = some (.table tools) ∧
      Table.get? tools "tsmark" = some (.table own) := by
  unfold section?
  constructor
  · intro h
    split at h
    · split at h
      · obtain rfl := Option.some.inj h
        exact ⟨_, ‹_›, ‹_›⟩
      · cases h
    · cases h
  · rintro ⟨tools, htools, hown⟩
    simp only [htools, hown]

theorem endsSearch_iff {table : Table} :
    endsSearch table = true ↔ table.get? "root" = some (.boolean true) := by
  unfold endsSearch
  constructor
  · intro h
    split at h
    · rename_i b hb
      rw [hb, h]
    · cases h
  · intro h
    rw [h]

/-! ## The files of a directory -/

/-- The files of a directory that count. -/
def accepted (reader : Toml.DocumentReader) (disk : Disk) (directory : Path) : List Path :=
  [directory.child projectFile, directory.child ownFile].filter fun path =>
    (own? reader disk path).isSome

/-- Whether a file of the directory ends the search. -/
def endsAt (reader : Toml.DocumentReader) (disk : Disk) (directory : Path) : Bool :=
  (accepted reader disk directory).any fun path => (own? reader disk path).any endsSearch

theorem own?_eq_some_iff {path : Path} {own : Table} :
    own? reader disk path = some own ↔
      disk.isFile path = .ok true ∧ ownPart path (fileTable reader disk path) = some own := by
  have hpresent : isPresent disk path = true ↔ disk.isFile path = .ok true := by
    rw [isPresent]
    rcases disk.isFile path with fault | present <;> simp [Except.toOption]
  rw [own?, ← hpresent]
  split_ifs with h <;> simp [h]

theorem mem_accepted_iff {directory path : Path} :
    path ∈ accepted reader disk directory ↔
      (∃ name ∈ [projectFile, ownFile], path = directory.child name) ∧
      disk.isFile path = .ok true ∧ ∃ own, ownPart path (fileTable reader disk path) = some own := by
  simp only [accepted, List.mem_filter, Option.isSome_iff_exists, own?_eq_some_iff, exists_and_left]
  refine and_congr_left fun _ => ?_
  simp

theorem child_name (directory : Path) (name : String) : (directory.child name).name = name := by
  simp [Path.child, Path.name]

theorem project_mem_accepted {directory : Path} :
    directory.child projectFile ∈ accepted reader disk directory ↔
      disk.isFile (directory.child projectFile) = .ok true ∧
        ∃ own, section? (fileTable reader disk (directory.child projectFile)) = some own := by
  have hpart : ∀ table, ownPart (directory.child projectFile) table = section? table := by
    intro table
    rw [ownPart, child_name, if_pos rfl]
  simp only [mem_accepted_iff, hpart]
  exact and_iff_right ⟨projectFile, by simp, rfl⟩

theorem own_mem_accepted {directory : Path} :
    directory.child ownFile ∈ accepted reader disk directory ↔
      disk.isFile (directory.child ownFile) = .ok true := by
  have hpart : ∀ table, ownPart (directory.child ownFile) table = some table := by
    intro table
    rw [ownPart, child_name, if_neg (by decide)]
  simp only [mem_accepted_iff, hpart]
  exact (and_iff_right ⟨ownFile, by simp, rfl⟩).trans (and_iff_left ⟨_, rfl⟩)

theorem endsAt_iff {directory : Path} :
    endsAt reader disk directory = true ↔ ∃ path ∈ accepted reader disk directory, ∃ own,
      ownPart path (fileTable reader disk path) = some own ∧
        own.get? "root" = some (.boolean true) := by
  simp only [endsAt, List.any_eq_true, Option.any_eq_true, endsSearch_iff, own?_eq_some_iff]
  refine exists_congr fun path => and_congr_right fun hpath => exists_congr fun own => ?_
  obtain ⟨-, hpresent, -⟩ := mem_accepted_iff.mp hpath
  exact and_congr_left fun _ => and_iff_right hpresent

/-! ## The way outwards -/

/-- The directories that the search visits, of those given from the inside out: all of them up to
the first whose files end the search. -/
def visited (reader : Toml.DocumentReader) (disk : Disk) (directories : List Path) : List Path :=
  directories.take (directories.findIdx (endsAt reader disk) + 1)

theorem visited_cons (directory : Path) (outer : List Path) :
    visited reader disk (directory :: outer) =
      directory :: if endsAt reader disk directory then [] else visited reader disk outer := by
  rw [visited, List.findIdx_cons, List.take_succ_cons]
  cases endsAt reader disk directory <;> rfl

theorem ofExcept_mapError_eq_ok_iff {ε α : Type} {result : Except ε α} {fault : ε → LoadFault}
    {value : α} :
    (Loading.ofExcept (result.mapError fault)).result = .ok value ↔ result = .ok value := by
  cases result <;> simp [Loading.ofExcept, Except.mapError]

theorem own?_of_isFile {path : Path} {present : Bool} (h : disk.isFile path = .ok present) :
    own? reader disk path = if present then ownPart path (fileTable reader disk path) else none := by
  rw [own?, isPresent, h]
  rfl

/-- What the search sees of a file that counts: its path and whether it ends the search. -/
def sighting (reader : Toml.DocumentReader) (disk : Disk) (path : Path) : Option (Path × Bool) :=
  (own? reader disk path).map fun own => (path, endsSearch own)

theorem probe_eq_ok_iff {directory : Path} {name : String} {seen : Option (Path × Bool)} :
    (probe reader disk directory name).result = .ok seen ↔
      Examinable reader disk (directory.child name) ∧
        seen = sighting reader disk (directory.child name) := by
  rw [probe, Loading.bind_eq_ok_iff]
  simp only [ofExcept_mapError_eq_ok_iff]
  constructor
  · rintro ⟨present, hpresent, h⟩
    rw [sighting, own?_of_isFile hpresent]
    cases present with
    | false =>
      obtain rfl := Loading.pure_eq_ok_iff.mp h
      exact ⟨⟨false, hpresent, fun h => absurd h Bool.false_ne_true⟩, rfl⟩
    | true =>
      obtain ⟨own, hown, h⟩ := Loading.bind_eq_ok_iff.mp h
      obtain ⟨table, htable, rfl⟩ := loadOwn_eq_ok_iff.mp hown
      obtain ⟨hsound, rfl⟩ := loadTable_eq_ok_iff.mp htable
      obtain rfl := Loading.pure_eq_ok_iff.mp h
      exact ⟨⟨true, hpresent, fun _ => hsound⟩, rfl⟩
  · rintro ⟨⟨present, hpresent, hsound⟩, rfl⟩
    refine ⟨present, hpresent, ?_⟩
    rw [sighting, own?_of_isFile hpresent]
    cases present with
    | false => rfl
    | true =>
      have htable := loadTable_eq_ok_iff.mpr ⟨hsound rfl, rfl⟩
      exact Loading.bind_eq_ok_iff.mpr ⟨_, loadOwn_eq_ok_iff.mpr ⟨_, htable, rfl⟩, rfl⟩

theorem probeBoth_eq_ok_iff {directory : Path} {both : List Path × Bool} :
    (probeBoth reader disk directory).result = .ok both ↔
      (∀ name ∈ [projectFile, ownFile], Examinable reader disk (directory.child name)) ∧
        both = (accepted reader disk directory, endsAt reader disk directory) := by
  have hboth : ∀ seen, seen = (sighting reader disk (directory.child projectFile)).toList ++
      (sighting reader disk (directory.child ownFile)).toList →
      (seen.map Prod.fst, seen.any Prod.snd) =
        (accepted reader disk directory, endsAt reader disk directory) := by
    rintro _ rfl
    unfold accepted endsAt accepted sighting
    rcases hproject : own? reader disk (directory.child projectFile) with _ | project
    all_goals
      rcases hown : own? reader disk (directory.child ownFile) with _ | own
      all_goals simp [hproject, hown]
  rw [probeBoth, Loading.bind_eq_ok_iff]
  simp only [Loading.bind_eq_ok_iff, Loading.pure_eq_ok_iff, probe_eq_ok_iff]
  constructor
  · rintro ⟨project, ⟨hproject, rfl⟩, own, ⟨hown, rfl⟩, rfl⟩
    exact ⟨by simp [hproject, hown], hboth _ rfl⟩
  · rintro ⟨hall, rfl⟩
    exact ⟨_, ⟨hall _ (by simp), rfl⟩, _, ⟨hall _ (by simp), rfl⟩, hboth _ rfl⟩

/-- **The search** comes to its end exactly if it can look at the files of each directory that it
visits, and then it has found those that count, from the outermost directory inwards. -/
theorem search_eq_ok_iff {directories found : List Path} :
    (search reader disk directories).result = .ok found ↔
      (∀ directory ∈ visited reader disk directories, ∀ name ∈ [projectFile, ownFile],
        Examinable reader disk (directory.child name)) ∧
      found = (visited reader disk directories).reverse.flatMap (accepted reader disk) := by
  induction directories generalizing found with
  | nil => simp [search, visited, Loading.done, eq_comm]
  | cons directory outer ih =>
    rw [search, Loading.bind_eq_ok_iff, visited_cons, List.forall_mem_cons, List.reverse_cons,
      List.flatMap_append, List.flatMap_singleton]
    simp only [probeBoth_eq_ok_iff]
    constructor
    · rintro ⟨_, ⟨hhere, rfl⟩, h⟩
      cases hends : endsAt reader disk directory with
      | true =>
        simp only [hends] at h
        obtain rfl := Loading.pure_eq_ok_iff.mp h
        exact ⟨⟨hhere, by simp⟩, by simp⟩
      | false =>
        simp only [hends] at h
        obtain ⟨above, habove, h⟩ := Loading.bind_eq_ok_iff.mp h
        obtain rfl := Loading.pure_eq_ok_iff.mp h
        obtain ⟨hall, rfl⟩ := ih.mp habove
        exact ⟨⟨hhere, by simpa using hall⟩, by simp⟩
    · rintro ⟨⟨hhere, hall⟩, rfl⟩
      refine ⟨_, ⟨hhere, rfl⟩, ?_⟩
      cases hends : endsAt reader disk directory with
      | true => simp [Loading.pure_eq_ok_iff]
      | false =>
        rw [hends] at hall
        refine Loading.bind_eq_ok_iff.mpr ⟨_, ih.mpr ⟨hall, rfl⟩, ?_⟩
        simp [Loading.pure_eq_ok_iff]

/-! ## From a path -/

/-- The directory in which the search from a path begins. -/
def firstDirectory (disk : Disk) (start : Path) : Path :=
  if isPresent disk (absolute disk start) then (absolute disk start).parent
  else absolute disk start

/-- The search from a path can begin: there is no NUL in the path, and it can be told whether there
is such a file. -/
def Beginnable (disk : Disk) (start : Path) : Prop :=
  Char.ofNat 0 ∉ start.toText.toList ∧ (disk.isFile (absolute disk start)).isOk = true

/-- The directories from a given one outwards. -/
def outwards (directory : Path) : List Path :=
  ancestors directory.anchor directory.components

theorem outwards_concat (anchor : Anchor) (components : List String) (name : String) :
    outwards ⟨anchor, components ++ [name]⟩ =
      ⟨anchor, components ++ [name]⟩ :: outwards ⟨anchor, components⟩ := by
  have hlength : (components ++ [name]).length = components.length + 1 := by simp
  have hprefix : ∀ n ∈ (List.range (components.length + 1)).reverse,
      (⟨anchor, (components ++ [name]).take n⟩ : Path) = ⟨anchor, components.take n⟩ := by
    intro n hn
    have hle : n ≤ components.length := by simpa [Nat.lt_succ_iff] using hn
    rw [List.take_append_of_le_length hle]
  simp only [outwards, ancestors]
  rw [hlength, List.range_succ, List.reverse_concat, List.map_cons, List.map_congr_left hprefix,
    ← hlength, List.take_length]

theorem outwards_chain (directory : Path) :
    (outwards directory).head? = some directory ∧
      (outwards directory).getLast? = some ⟨directory.anchor, []⟩ ∧
      (outwards directory).IsChain fun inner outer => outer = inner.parent := by
  obtain ⟨anchor, components⟩ := directory
  induction components using List.reverseRecOn with
  | nil => exact ⟨rfl, rfl, List.isChain_singleton _⟩
  | append_singleton components name ih =>
    obtain ⟨hhead, hlast, hchain⟩ := ih
    rw [outwards_concat]
    refine ⟨rfl, ?_, List.isChain_cons.mpr ⟨?_, hchain⟩⟩
    · rw [List.getLast?_cons, hlast]
      rfl
    · rw [hhead]
      intro outer houter
      obtain rfl := Option.some.inj houter
      simp [Path.parent]

theorem discover_eq_ok_iff {start : Path} {found : List Path} :
    (discover reader disk start).result = .ok found ↔ Beginnable disk start ∧
      (search reader disk (outwards (firstDirectory disk start))).result = .ok found := by
  have hfirst : ∀ {present}, disk.isFile (absolute disk start) = .ok present →
      firstDirectory disk start =
        if present then (absolute disk start).parent else absolute disk start := by
    intro present hpresent
    rw [firstDirectory, isPresent, hpresent]
    rfl
  unfold discover
  split_ifs with hnul
  · constructor
    · intro h
      obtain ⟨_, hfault, -⟩ := Loading.bind_eq_ok_iff.mp h
      cases hfault
    · rintro ⟨⟨hsound, -⟩, -⟩
      exact absurd (List.contains_iff_mem.mp hnul) hsound
  · have hsound : Char.ofNat 0 ∉ start.toText.toList := by simpa using hnul
    constructor
    · intro h
      obtain ⟨present, hpresent, h⟩ := Loading.bind_eq_ok_iff.mp h
      rw [ofExcept_mapError_eq_ok_iff] at hpresent
      refine ⟨⟨hsound, by rw [hpresent]; rfl⟩, ?_⟩
      rw [hfirst hpresent]
      exact h
    · rintro ⟨⟨-, hok⟩, h⟩
      obtain ⟨present, hpresent⟩ := exists_eq_ok hok
      rw [hfirst hpresent] at h
      exact Loading.bind_eq_ok_iff.mpr ⟨present, ofExcept_mapError_eq_ok_iff.mpr hpresent, h⟩

/-! ## The layers of what is found -/

theorem loadTable_isOk_iff {path : Path} :
    (loadTable reader disk path).result.isOk = true ↔ ¬ Conflicting reader disk path := by
  constructor
  · intro hok
    obtain ⟨table, hload⟩ := exists_eq_ok hok
    exact (loadTable_eq_ok_iff.mp hload).1
  · intro hsound
    rw [loadTable_eq_ok_iff.mpr ⟨hsound, rfl⟩]
    rfl

theorem layerOf_of_mem {directory path : Path} (hpath : path ∈ accepted reader disk directory)
    (hexam : ∀ name ∈ [projectFile, ownFile], Examinable reader disk (directory.child name)) :
    ∃ table own, (loadTable reader disk path).result = .ok table ∧
      layerOf path table = some ⟨path, own⟩ := by
  obtain ⟨⟨name, hname, rfl⟩, hpresent, own, hown⟩ := mem_accepted_iff.mp hpath
  obtain ⟨present, hisFile, hsound⟩ := hexam name hname
  obtain rfl := Except.ok.inj (hpresent.symm.trans hisFile)
  exact ⟨_, own, loadTable_eq_ok_iff.mpr ⟨hsound rfl, rfl⟩, by rw [layerOf, hown]; rfl⟩

theorem discover_layers {start : Path} {found : List Path}
    (h : (discover reader disk start).result = .ok found) :
    ∀ path ∈ found, ∃ table own, (loadTable reader disk path).result = .ok table ∧
      layerOf path table = some ⟨path, own⟩ := by
  intro path hpath
  obtain ⟨-, hsearch⟩ := discover_eq_ok_iff.mp h
  obtain ⟨hexam, hfound⟩ := search_eq_ok_iff.mp hsearch
  rw [hfound] at hpath
  obtain ⟨directory, hdirectory, hpath⟩ := List.mem_flatMap.mp hpath
  exact layerOf_of_mem hpath (hexam directory (List.mem_reverse.mp hdirectory))

theorem layers_path {paths : List Path} (h : ∀ path ∈ paths, ∃ table own,
    (loadTable reader disk path).result = .ok table ∧ layerOf path table = some ⟨path, own⟩) :
    (layers reader disk paths).map Layer.path = paths := by
  induction paths with
  | nil => rfl
  | cons path paths ih =>
    obtain ⟨⟨table, own, htable, hown⟩, hrest⟩ := List.forall_mem_cons.mp h
    rw [layers_cons htable, hown, List.map_append, ih hrest]
    rfl

theorem load_sources {start : Path} {found extra : List Path} {draft : Draft}
    (hfound : (discover reader disk start).result = .ok found)
    (hdraft : (load reader disk start extra false).result = .ok draft) :
    draft.sources =
      "<defaults>" :: (found ++ (layers reader disk extra).map Layer.path).map Path.toText := by
  obtain ⟨found', hfound', -, rfl⟩ := load_eq_ok_iff.mp hdraft
  obtain rfl := Except.ok.inj (hfound.symm.trans hfound')
  have happend : layers reader disk (found ++ extra) =
      layers reader disk found ++ layers reader disk extra := List.filterMap_append
  have hsources : ((layers reader disk (found ++ extra)).map Layer.draft).flatMap Draft.sources =
      ((layers reader disk (found ++ extra)).map Layer.path).map Path.toText := by
    rw [List.flatMap_map, List.map_map]
    exact List.flatMap_pure_eq_map _ _
  rw [foldl_merge_sources, hsources, happend, List.map_append, layers_path (discover_layers hfound)]
  rfl

theorem load_isOk_iff {start : Path} {found extra : List Path}
    (hfound : (discover reader disk start).result = .ok found) :
    (load reader disk start extra false).result.isOk = true ↔
      ∀ path ∈ extra, ¬ Conflicting reader disk path := by
  simp only [← loadTable_isOk_iff]
  constructor
  · intro hok
    obtain ⟨draft, hload⟩ := exists_eq_ok hok
    obtain ⟨_, -, hall, -⟩ := load_eq_ok_iff.mp hload
    exact fun path hpath => hall path (List.mem_append_right _ hpath)
  · intro hextra
    have hall : ∀ path ∈ found ++ extra, (loadTable reader disk path).result.isOk = true := by
      intro path hpath
      rcases List.mem_append.mp hpath with hpath | hpath
      · obtain ⟨table, own, htable, -⟩ := discover_layers hfound path hpath
        rw [htable]
        rfl
      · exact hextra path hpath
    have hload : (load reader disk start extra false).result = .ok _ :=
      load_eq_ok_iff.mpr ⟨found, hfound, hall, rfl⟩
    rw [hload]
    rfl

/-- **The search for files.** The directories from that of the path to the root each lie in the next
one, and the search visits them up to the first with a file that counts and has `root = true`. It
comes to its end exactly if it can begin and can look at the files of each directory that it visits;
then it has found the files that count, from the outermost directory inwards: a project file if
`tool.tsmark` is a table in it, and after it the file that is for this tool alone. Each of them
makes a layer, and they come first among the sources of the settings, in the same order. All this is
so for any reader of documents; a file that cannot be read, or is malformed, has an empty table. -/
theorem discovery_exact (reader : Toml.DocumentReader) (disk : Disk) (start : Path) :
    let directories := outwards (firstDirectory disk start)
    let result := (discover reader disk start).result
    (directories.head? = some (firstDirectory disk start) ∧
      directories.getLast? = some ⟨.root, []⟩ ∧
      directories.IsChain fun inner outer => outer = inner.parent) ∧
    (∀ found, result = .ok found ↔ Beginnable disk start ∧
      (∀ directory ∈ visited reader disk directories, ∀ name ∈ [projectFile, ownFile],
        Examinable reader disk (directory.child name)) ∧
      found = (visited reader disk directories).reverse.flatMap (accepted reader disk)) ∧
    (∀ directory, directory.child projectFile ∈ accepted reader disk directory ↔
      disk.isFile (directory.child projectFile) = .ok true ∧ ∃ own tools,
        (fileTable reader disk (directory.child projectFile)).get? "tool" = some (.table tools) ∧
        Table.get? tools "tsmark" = some (.table own)) ∧
    (∀ directory, directory.child ownFile ∈ accepted reader disk directory ↔
      disk.isFile (directory.child ownFile) = .ok true) ∧
    (∀ directory, endsAt reader disk directory = true ↔
      ∃ path ∈ accepted reader disk directory, ∃ own,
        ownPart path (fileTable reader disk path) = some own ∧
        own.get? "root" = some (.boolean true)) ∧
    (∀ found, result = .ok found →
      (∀ path ∈ found, ∃ draft, (loadLayer reader disk path).result = .ok (some draft) ∧
        draft.sources = [path.toText]) ∧
      ∀ extra, ((load reader disk start extra false).result.isOk = true ↔
          ∀ path ∈ extra, ¬ Conflicting reader disk path) ∧
        ∀ draft, (load reader disk start extra false).result = .ok draft → draft.sources =
          "<defaults>" :: (found ++ (layers reader disk extra).map Layer.path).map Path.toText) := by
  intro directories result
  have hroot : (firstDirectory disk start).anchor = .root := by
    rw [firstDirectory]
    split_ifs <;> rfl
  obtain ⟨hhead, hlast, hchain⟩ := outwards_chain (firstDirectory disk start)
  rw [hroot] at hlast
  refine ⟨⟨hhead, hlast, hchain⟩, fun found => ?_, fun directory => ?_,
    fun directory => own_mem_accepted, fun directory => endsAt_iff, fun found hfound =>
    ⟨fun path hpath => ?_, fun extra => ⟨load_isOk_iff hfound, fun draft => load_sources hfound⟩⟩⟩
  · exact discover_eq_ok_iff.trans (and_congr_right fun _ => search_eq_ok_iff)
  · rw [project_mem_accepted]
    simp only [section?_eq_some_iff]
  · obtain ⟨table, own, htable, hown⟩ := discover_layers hfound path hpath
    exact ⟨_, loadLayer_eq_ok_iff.mpr ⟨table, htable, by rw [hown]; rfl⟩, rfl⟩

/-- From a file: the search stops at a directory with `root = true` in one of two files that both
count, past one whose project file has nothing for this tool, and past a file that would end it but
cannot be read. -/
theorem discovery_exact_stops :
    let reader := Toml.Document.read []
    let disk : Disk :=
      { cwd := ["w", "app", "src"]
        nodes := [(["tsmark.toml"], .file ByteArray.empty),
          (["w"], .directory), (["w", "app"], .directory), (["w", "app", "src"], .directory),
          (["w", "pyproject.toml"], .file "[tool.tsmark]\nroot = true\n".toUTF8),
          (["w", "tsmark.toml"], .file "root = 1\n".toUTF8),
          (["w", "app", "pyproject.toml"], .file "[tool]\ntsmark = []\n".toUTF8),
          (["w", "app", "tsmark.toml"], .file "root = true\n".toUTF8),
          (["w", "app", "src", "tsmark.toml"], .file "root = = true\n".toUTF8),
          (["w", "app", "src", "a.ts"], .file ByteArray.empty)]
        denials := [⟨"/w/app/tsmark.toml", .read, .accessDenied⟩] }
    let found : List Path :=
      [⟨.root, ["w", "pyproject.toml"]⟩, ⟨.root, ["w", "tsmark.toml"]⟩,
        ⟨.root, ["w", "app", "tsmark.toml"]⟩, ⟨.root, ["w", "app", "src", "tsmark.toml"]⟩]
    (discover reader disk (Path.ofText "a.ts")).result = .ok found ∧
      ∃ draft, (load reader disk (Path.ofText "a.ts") [] false).result = .ok draft ∧
        draft.sources = ["<defaults>", "/w/pyproject.toml", "/w/tsmark.toml",
          "/w/app/tsmark.toml", "/w/app/src/tsmark.toml"] := by
  intro reader disk found
  obtain ⟨-, -, -, -, -, hlayers⟩ := discovery_exact reader disk (Path.ofText "a.ts")
  have hfound : (discover reader disk (Path.ofText "a.ts")).result = .ok found :=
    eq_ok_of_toOption (by decide +kernel)
  obtain ⟨hends, hsources⟩ := (hlayers found hfound).2 []
  obtain ⟨draft, hdraft⟩ := exists_eq_ok (hends.mpr (by simp))
  exact ⟨hfound, draft, hdraft, hsources draft hdraft⟩

/-- A section that is called like a value before it: the file cannot be loaded, and neither the
search nor loading comes to its end. -/
theorem second_definition_ends_search :
    let reader := Toml.Document.read []
    let disk : Disk :=
      { cwd := ["w"]
        nodes := [(["w"], .directory),
          (["w", "tsmark.toml"], .file "[a]\nb = 1\n[a.b]\nc = 1".toUTF8)] }
    let start := Path.ofText "."
    disk.isFile ⟨.root, ["w", "tsmark.toml"]⟩ = .ok true ∧
      (discover reader disk start).result.mapError LoadFault.message =
        .error "Key \"b\" already exists." ∧
      (load reader disk start [] false).result.isOk = false := by
  decide +kernel

end ExpectError.Config
