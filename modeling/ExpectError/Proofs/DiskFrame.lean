import ExpectError.Disk
import Mathlib.Tactic

/-!
# What a written file changes

A disk is seen through what stands at each place. Writing puts a file at one place and leaves every
other place alone (`writeText_eq_ok_iff`, `node?_put`). No directory comes or goes, so every path
leads where it led before (`SameTree.locate_iff`), although the file there may be another.
-/

namespace ExpectError

/-! ## Results and look-ups -/

section Results

variable {ε α : Type} {result : Except ε α}

theorem exists_eq_ok (h : result.isOk = true) : ∃ value, result = .ok value := by
  cases result with
  | error => cases h
  | ok value => exact ⟨value, rfl⟩

theorem eq_ok_of_toOption {value : α} (h : result.toOption = some value) : result = .ok value := by
  cases result with
  | error => cases h
  | ok other => rw [Option.some.inj h]

end Results

theorem lookup_cons_ite {κ β : Type} [BEq κ] [LawfulBEq κ] [DecidableEq κ] (entry : κ × β)
    (entries : List (κ × β)) (key : κ) :
    (entry :: entries).lookup key =
      if key = entry.1 then some entry.2 else entries.lookup key := by
  obtain ⟨name, value⟩ := entry
  by_cases h : key = name
  · simp [h]
  · have hbeq : (key == name) = false := by simpa using h
    simp [List.lookup_cons, h, hbeq]

/-! ## Texts with halves of pairs -/

namespace Text

variable {halves : List Half}

/-- No half of a pair is in the text. -/
def Whole (halves : List Half) (text : String) : Prop :=
  ∀ c ∈ text.toList, half? halves c = none

theorem whole_of_no_halves (text : String) : Whole [] text :=
  fun _ _ => rfl

theorem findHalves_eq_none_iff {position : Nat} {cs : List Char} :
    findHalves halves position cs = none ↔ ∀ c ∈ cs, half? halves c = none := by
  induction cs generalizing position with
  | nil => simp [findHalves]
  | cons c cs ih =>
    rw [findHalves, List.forall_mem_cons]
    rcases half? halves c with _ | half
    · simp only [ih, true_and]
    · simp

/-- The fault is at the first halves among characters that start at a position: there is none in
front of them, and they are all that stand in a row. -/
def FirstHalves (halves : List Half) (position : Nat) (cs : List Char) (fault : EncodeFault) :
    Prop :=
  ∃ before c rest half, cs = before ++ c :: rest ∧ (∀ d ∈ before, half? halves d = none) ∧
    half? halves c = some half ∧
    fault = ⟨position + before.length, half.code,
      1 + (rest.takeWhile fun c => (half? halves c).isSome).length⟩

theorem findHalves_firstHalves {position : Nat} {cs : List Char} {fault : EncodeFault}
    (h : findHalves halves position cs = some fault) : FirstHalves halves position cs fault := by
  induction cs generalizing position with
  | nil => cases h
  | cons c cs ih =>
    rw [findHalves] at h
    rcases hhalf : half? halves c with _ | half
    · rw [hhalf] at h
      obtain ⟨before, d, rest, half, rfl, hbefore, hd, rfl⟩ := ih h
      refine ⟨c :: before, d, rest, half, rfl, List.forall_mem_cons.mpr ⟨hhalf, hbefore⟩, hd, ?_⟩
      rw [List.length_cons, Nat.add_assoc, Nat.add_comm 1]
    · rw [hhalf] at h
      obtain rfl := Option.some.inj h
      exact ⟨[], c, cs, half, rfl, by simp, hhalf, rfl⟩

theorem encode_eq_ok_iff {text : String} {bytes : ByteArray} :
    encode halves text = .ok bytes ↔ Whole halves text ∧ bytes = text.toUTF8 := by
  unfold encode
  rcases hfound : findHalves halves 0 text.toList with _ | fault
  · have hwhole : Whole halves text := findHalves_eq_none_iff.mp hfound
    simp [hwhole, eq_comm]
  · have hbroken : ¬ Whole halves text := fun hwhole => by
      rw [findHalves_eq_none_iff.mpr hwhole] at hfound
      cases hfound
    simp [hbroken]

theorem encode_firstHalves {text : String} {fault : EncodeFault}
    (h : encode halves text = .error fault) : FirstHalves halves 0 text.toList fault := by
  unfold encode at h
  rcases hfound : findHalves halves 0 text.toList with _ | found
  · rw [hfound] at h
    cases h
  · rw [hfound] at h
    obtain rfl := Except.error.inj h
    exact findHalves_firstHalves hfound

end Text

namespace Disk

/-! ## One place -/

theorem lookup_place (location : Location) (node : Node) (nodes : List (Location × Node))
    (other : Location) :
    (place location node nodes).lookup other =
      if other = location then some node else nodes.lookup other := by
  induction nodes with
  | nil => rw [place, lookup_cons_ite, List.lookup_nil]
  | cons entry nodes ih =>
    rw [place]
    by_cases hentry : entry.1 = location
    · rw [if_pos hentry, lookup_cons_ite, lookup_cons_ite, hentry]
      split_ifs <;> rfl
    · rw [if_neg hentry, lookup_cons_ite, lookup_cons_ite, ih]
      by_cases h : other = entry.1
      · rw [if_pos h, if_neg (fun heq => hentry (h.symm.trans heq)), if_pos h]
      · rw [if_neg h, if_neg h]

theorem node?_put {location : Location} (h : location ≠ []) (disk : Disk) (node : Node)
    (other : Location) :
    (disk.put location node).node? other =
      if other = location then some node else disk.node? other := by
  unfold node? put
  by_cases hroot : other = []
  · rw [if_pos hroot, if_pos hroot, if_neg (fun heq => h (heq.symm.trans hroot))]
  · rw [if_neg hroot, if_neg hroot, lookup_place]

/-! ## The same directories -/

/-- Two disks on which every path leads to the same place: they have the same directories, and deny
the same paths and texts. -/
structure SameTree (disk disk' : Disk) : Prop where
  cwd : disk'.cwd = disk.cwd
  denials : disk'.denials = disk.denials
  halves : disk'.halves = disk.halves
  directories : ∀ location,
    disk'.node? location = some .directory ↔ disk.node? location = some .directory

namespace SameTree

variable {disk disk' disk'' : Disk}

theorem refl (disk : Disk) : SameTree disk disk :=
  ⟨rfl, rfl, rfl, fun _ => Iff.rfl⟩

theorem symm (h : SameTree disk disk') : SameTree disk' disk :=
  ⟨h.cwd.symm, h.denials.symm, h.halves.symm, fun location => (h.directories location).symm⟩

theorem trans (h : SameTree disk disk') (h' : SameTree disk' disk'') : SameTree disk disk'' :=
  ⟨h'.cwd.trans h.cwd, h'.denials.trans h.denials, h'.halves.trans h.halves,
    fun location => (h'.directories location).trans (h.directories location)⟩

end SameTree

theorem checkDirectory_eq_ok_iff {disk : Disk} {location : Location} :
    disk.checkDirectory location = .ok () ↔ disk.node? location = some .directory := by
  unfold checkDirectory
  rcases disk.node? location with _ | _ | _ <;> simp

theorem step_of_directory {disk disk' : Disk} {location : Location} (name : String)
    (h : disk.node? location = some .directory) (h' : disk'.node? location = some .directory) :
    disk'.step location name = disk.step location name := by
  unfold step
  rw [checkDirectory_eq_ok_iff.mpr h, checkDirectory_eq_ok_iff.mpr h']

theorem directory_of_step {disk : Disk} {location next : Location} {name : String}
    (h : disk.step location name = .ok next) : disk.node? location = some .directory := by
  rw [← checkDirectory_eq_ok_iff]
  unfold step at h
  rcases hcheck : disk.checkDirectory location with error | value
  · rw [hcheck] at h
    cases h
  · rfl

namespace SameTree

variable {disk disk' : Disk}

theorem follow (h : SameTree disk disk') {names : List String} {location target : Location}
    (hfollow : disk.follow location names = .ok target) :
    disk'.follow location names = .ok target := by
  induction names generalizing location with
  | nil => exact hfollow
  | cons name names ih =>
    rw [Disk.follow] at hfollow ⊢
    rcases hstep : disk.step location name with error | next
    · rw [hstep] at hfollow
      cases hfollow
    · have hdir := directory_of_step hstep
      rw [step_of_directory name hdir ((h.directories location).mpr hdir), hstep]
      rw [hstep] at hfollow
      exact ih hfollow

theorem locate (h : SameTree disk disk') {path : Path} {location : Location}
    (hlocate : disk.locate path = .ok location) : disk'.locate path = .ok location := by
  unfold Disk.locate at hlocate ⊢
  split_ifs at hlocate ⊢
  rw [show disk'.origin path = disk.origin path by unfold origin; rw [h.cwd]]
  exact h.follow hlocate

theorem locate_iff (h : SameTree disk disk') {path : Path} {location : Location} :
    disk'.locate path = .ok location ↔ disk.locate path = .ok location :=
  ⟨h.symm.locate, h.locate⟩

end SameTree

theorem openPath_eq_ok_iff {disk : Disk} {access : Access} {path : Path} {location : Location} :
    disk.openPath access path = .ok location ↔
      disk.denied? access path = none ∧ path.toText.toList.contains (Char.ofNat 0) = false ∧
        disk.locate path = .ok location := by
  unfold openPath
  rcases disk.denied? access path with _ | error
  · rcases hnul : path.toText.toList.contains (Char.ofNat 0) with _ | _
    · rcases disk.locate path with error | place <;> simp [Except.mapError]
    · simp
  · simp

theorem locate_of_openPath {disk : Disk} {access : Access} {path : Path} {location : Location}
    (h : disk.openPath access path = .ok location) : disk.locate path = .ok location :=
  (openPath_eq_ok_iff.mp h).2.2

theorem SameTree.openPath_iff {disk disk' : Disk} (h : SameTree disk disk') {access : Access}
    {path : Path} {location : Location} :
    disk'.openPath access path = .ok location ↔ disk.openPath access path = .ok location := by
  have hdenied : disk'.denied? access path = disk.denied? access path := by
    unfold denied?
    rw [h.denials]
  rw [openPath_eq_ok_iff, openPath_eq_ok_iff, hdenied, h.locate_iff]

/-! ## The same place on two disks -/

theorem follow_unique {disk disk' : Disk} {names : List String} {location target target' : Location}
    (h : disk.follow location names = .ok target) (h' : disk'.follow location names = .ok target') :
    target' = target := by
  induction names generalizing location with
  | nil => exact Except.ok.inj (h'.symm.trans h)
  | cons name names ih =>
    rw [Disk.follow] at h h'
    rcases hstep : disk.step location name with error | next
    · rw [hstep] at h
      cases h
    rcases hstep' : disk'.step location name with error | next'
    · rw [hstep'] at h'
      cases h'
    have hsame : next' = next := by
      rw [step_of_directory name (directory_of_step hstep) (directory_of_step hstep'), hstep]
        at hstep'
      exact (Except.ok.inj hstep').symm
    rw [hstep] at h
    rw [hstep', hsame] at h'
    exact ih h h'

theorem locate_unique {disk disk' : Disk} (hcwd : disk'.cwd = disk.cwd) {path : Path}
    {location location' : Location} (h : disk.locate path = .ok location)
    (h' : disk'.locate path = .ok location') : location' = location := by
  unfold Disk.locate at h h'
  split_ifs at h h'
  rw [show disk'.origin path = disk.origin path by unfold origin; rw [hcwd]] at h'
  exact follow_unique h h'

theorem openPath_unique {disk disk' : Disk} (hcwd : disk'.cwd = disk.cwd) {access access' : Access}
    {path : Path} {location location' : Location} (h : disk.openPath access path = .ok location)
    (h' : disk'.openPath access' path = .ok location') : location' = location :=
  locate_unique hcwd (locate_of_openPath h) (locate_of_openPath h')

/-! ## Texts -/

theorem decode_eq_ok_iff {bytes : ByteArray} {text : String} :
    Text.decode bytes = .ok text ↔ bytes = text.toUTF8 := by
  have hutf8 : String.fromUTF8? bytes = some text ↔ bytes = text.toUTF8 := by
    unfold String.fromUTF8?
    split_ifs with h
    · rw [Option.some.injEq]
      constructor
      · rintro rfl
        rfl
      · rintro rfl
        rfl
    · refine ⟨fun hnone => absurd hnone (by simp), ?_⟩
      rintro rfl
      exact absurd text.isValidUTF8 h
  rw [← hutf8]
  unfold Text.decode
  rcases String.fromUTF8? bytes with _ | s <;> simp

theorem readText_eq_ok_iff {disk : Disk} {path : Path} {text : String} :
    disk.readText path = .ok text ↔
      ∃ location, disk.openPath .read path = .ok location ∧
        disk.node? location = some (.file text.toUTF8) := by
  unfold readText readBytes
  rcases hopen : disk.openPath .read path with fault | location
  · simp [bind, Except.bind]
  · rcases hnode : disk.node? location with _ | bytes | _
    · simp [bind, Except.bind, hnode]
    · simp only [bind, Except.bind, hnode, pure, Except.pure, Except.ok.injEq,
        exists_eq_left', Option.some.injEq, Node.file.injEq]
      rw [← decode_eq_ok_iff]
      rcases Text.decode bytes with fault | s <;> simp [Except.mapError]
    · simp [bind, Except.bind, hnode]

theorem readText_eq_error_iff {disk : Disk} {path : Path} {fault : IoFault} :
    disk.readText path = .error fault ↔
      disk.openPath .read path = .error fault ∨
      ∃ location, disk.openPath .read path = .ok location ∧
        (disk.node? location = none ∧ fault = .system .noSuchFile (some path.toText) ∨
          disk.node? location = some .directory ∧
            fault = .system .isADirectory (some path.toText) ∨
          ∃ bytes wrong, disk.node? location = some (.file bytes) ∧
            Text.decode bytes = .error wrong ∧ fault = .encoding wrong) := by
  unfold readText readBytes
  rcases hopen : disk.openPath .read path with fault' | location
  · simp [bind, Except.bind]
  · rcases hnode : disk.node? location with _ | bytes | _
    · simp [bind, Except.bind, hnode, throw, throwThe, MonadExceptOf.throw, eq_comm]
    · rcases hdecode : Text.decode bytes with wrong | text <;>
        simp [bind, Except.bind, hnode, pure, Except.pure, Except.mapError, hdecode, eq_comm]
    · simp [bind, Except.bind, hnode, throw, throwThe, MonadExceptOf.throw, eq_comm]

theorem placeToWrite_eq_error_iff {disk : Disk} {path : Path} {fault : IoFault} :
    disk.placeToWrite path = .error fault ↔
      disk.openPath .write path = .error fault ∨
      ∃ location, disk.openPath .write path = .ok location ∧
        disk.node? location = some .directory ∧
        fault = .system .isADirectory (some path.toText) := by
  unfold placeToWrite
  rcases hopen : disk.openPath .write path with fault' | location
  · simp [bind, Except.bind]
  · rcases hnode : disk.node? location with _ | bytes | _ <;>
      simp [bind, Except.bind, hnode, pure, Except.pure, throw, throwThe, MonadExceptOf.throw,
        eq_comm]

theorem placeToWrite_eq_ok_iff {disk : Disk} {path : Path} {location : Location} :
    disk.placeToWrite path = .ok location ↔
      disk.openPath .write path = .ok location ∧ disk.node? location ≠ some .directory := by
  unfold placeToWrite
  rcases hopen : disk.openPath .write path with fault | place
  · simp [bind, Except.bind]
  · rcases hnode : disk.node? place with _ | bytes | _
    · simp only [bind, Except.bind, hnode, pure, Except.pure, Except.ok.injEq]
      exact ⟨fun h => ⟨h, by simp [← h, hnode]⟩, And.left⟩
    · simp only [bind, Except.bind, hnode, pure, Except.pure, Except.ok.injEq]
      exact ⟨fun h => ⟨h, by simp [← h, hnode]⟩, And.left⟩
    · simp only [bind, Except.bind, hnode, Except.ok.injEq]
      refine ⟨nofun, fun ⟨h, hfree⟩ => absurd (h ▸ hnode) hfree⟩

theorem writeText_eq_ok_iff {disk disk' : Disk} {path : Path} {text : String} :
    disk.writeText path text = .ok disk' ↔
      ∃ location, disk.openPath .write path = .ok location ∧
        disk.node? location ≠ some .directory ∧ Text.Whole disk.halves text ∧
        disk' = disk.put location (.file text.toUTF8) := by
  simp only [← and_assoc, ← placeToWrite_eq_ok_iff]
  unfold writeText
  rcases hplace : disk.placeToWrite path with fault | location
  · simp
  · simp only [Except.ok.injEq, and_assoc, exists_eq_left']
    rcases hencode : Text.encode disk.halves text with fault | bytes
    · have hbroken : ¬ Text.Whole disk.halves text := fun hwhole => by
        rw [Text.encode_eq_ok_iff.mpr ⟨hwhole, rfl⟩] at hencode
        cases hencode
      simp [hbroken]
    · obtain ⟨hwhole, rfl⟩ := Text.encode_eq_ok_iff.mp hencode
      simp [hwhole, eq_comm]

theorem ne_root_of_node?_ne {disk : Disk} {location : Location}
    (h : disk.node? location ≠ some .directory) : location ≠ [] := by
  rintro rfl
  exact h rfl

theorem sameTree_put {disk : Disk} {location : Location} (bytes : ByteArray)
    (h : disk.node? location ≠ some .directory) :
    SameTree disk (disk.put location (.file bytes)) := by
  refine ⟨rfl, rfl, rfl, fun other => ?_⟩
  rw [node?_put (ne_root_of_node?_ne h)]
  split_ifs with heq
  · subst heq
    simp [h]
  · exact Iff.rfl

end Disk

end ExpectError
