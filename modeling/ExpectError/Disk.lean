import ExpectError.Fault
import ExpectError.Path

/-!
# The disk

Files and directories by their location, which is the list of names that leads to them from the
root. A path is followed name by name: every directory on the way has to exist, and `..` leads to
the directory above. Single paths can be denied, for reading or for writing; an attempt to open
them fails and changes nothing. A file that is opened for writing is emptied before its new text is
encoded.

There are no links, a write that has begun comes to its end, and nobody else changes the disk in the
meantime.
-/

namespace ExpectError

/-- The names that lead from the root to a place. -/
abbrev Location := List String

/-- What stands at a place. -/
inductive Node where
  | file (bytes : ByteArray)
  | directory

/-- Nodes are equal if both are directories, or files with the same bytes. -/
instance : DecidableEq Node
  | .directory, .directory => isTrue rfl
  | .directory, .file _ => isFalse nofun
  | .file _, .directory => isFalse nofun
  | .file ⟨a⟩, .file ⟨b⟩ =>
    if h : a.toList = b.toList then isTrue (by rw [Array.toList_inj.mp h])
    else isFalse fun heq => h (by injection heq with heq; injection heq with heq; rw [heq])

inductive Access where
  | read
  | write
  deriving DecidableEq, Repr

/-- A path that cannot be opened for some purpose. -/
structure Denial where
  path : String
  access : Access
  error : SystemError

/-- The disk, with a working directory. -/
structure Disk where
  nodes : List (Location × Node) := []
  cwd : Location := []
  denials : List Denial := []
  /-- What a text may hold and a file may not. -/
  halves : List Text.Half := []

namespace Disk

/-- What stands at a location; at the root there is always a directory. -/
def node? (disk : Disk) (location : Location) : Option Node :=
  if location = [] then some .directory else disk.nodes.lookup location

/-- Puts a node at a location of an association list. -/
def place (location : Location) (node : Node) : List (Location × Node) → List (Location × Node)
  | [] => [(location, node)]
  | entry :: entries =>
    if entry.1 = location then (location, node) :: entries
    else entry :: place location node entries

def put (disk : Disk) (location : Location) (node : Node) : Disk :=
  { disk with nodes := place location node disk.nodes }

def nameLimit : Nat := 255

def pathLimit : Nat := 4095

/-- Whether one can go on from a location. -/
def checkDirectory (disk : Disk) (location : Location) : Except SystemError Unit :=
  match disk.node? location with
  | none => .error .noSuchFile
  | some (.file _) => .error .notADirectory
  | some .directory => .ok ()

/-- The place that is one name further on. -/
def step (disk : Disk) (location : Location) (name : String) : Except SystemError Location := do
  disk.checkDirectory location
  if name = ".." then return location.dropLast
  if nameLimit < name.utf8ByteSize then throw .nameTooLong
  return location ++ [name]

/-- The place that names lead to. All but the last have to be there. -/
def follow (disk : Disk) (location : Location) : List String → Except SystemError Location
  | [] => .ok location
  | name :: names => do
    let next ← disk.step location name
    disk.follow next names

def origin (disk : Disk) (path : Path) : Location :=
  if path.isAbsolute then [] else disk.cwd

def locate (disk : Disk) (path : Path) : Except SystemError Location :=
  if pathLimit < path.toText.utf8ByteSize then .error .nameTooLong
  else disk.follow (disk.origin path) path.components

/-! ## Asking -/

def stat (disk : Disk) (path : Path) : Except SystemError Node := do
  let location ← disk.locate path
  match disk.node? location with
  | none => throw .noSuchFile
  | some node => return node

/-- What a path leads to that is given as text. The empty text leads nowhere, and a text that ends
in a slash or a dot leads to directories only. -/
def statText (disk : Disk) (text : String) : Except SystemError Node := do
  if text = "" then throw .noSuchFile
  if pathLimit < text.utf8ByteSize then throw .nameTooLong
  let node ← disk.stat (Path.ofText text)
  match node with
  | .directory => return node
  | .file _ =>
    match (Path.pieces text.toList).getLast?.map String.ofList with
    | some "" => throw .notADirectory
    | some "." => throw .notADirectory
    | _ => return node

/-- Whether a path leads to a file. A name that is too long is a fault of its own. -/
def isFile (disk : Disk) (path : Path) : Except SystemError Bool :=
  if path.toText.toList.contains (Char.ofNat 0) then .ok false
  else match disk.stat path with
    | .ok (.file _) => .ok true
    | .ok .directory => .ok false
    | .error .nameTooLong => .error .nameTooLong
    | .error _ => .ok false

/-! ## Reading and writing -/

def denied? (disk : Disk) (access : Access) (path : Path) : Option SystemError :=
  (disk.denials.find? fun d => d.access = access && d.path = path.toText).map Denial.error

/-- The place that is opened for some purpose. -/
def openPath (disk : Disk) (access : Access) (path : Path) : Except IoFault Location :=
  match disk.denied? access path with
  | some error => .error (.system error (some path.toText))
  | none =>
    if path.toText.toList.contains (Char.ofNat 0) then .error .nulInPath
    else (disk.locate path).mapError fun error => .system error (some path.toText)

def readBytes (disk : Disk) (path : Path) : Except IoFault ByteArray := do
  let location ← disk.openPath .read path
  match disk.node? location with
  | none => throw (.system .noSuchFile (some path.toText))
  | some .directory => throw (.system .isADirectory (some path.toText))
  | some (.file bytes) => return bytes

def readText (disk : Disk) (path : Path) : Except IoFault String := do
  let bytes ← disk.readBytes path
  (Text.decode bytes).mapError .encoding

/-- The place of a file that is opened for writing; the file need not have been there. -/
def placeToWrite (disk : Disk) (path : Path) : Except IoFault Location := do
  let location ← disk.openPath .write path
  match disk.node? location with
  | some .directory => throw (.system .isADirectory (some path.toText))
  | _ => return location

/-- Writes a text to a file. A fault comes with the disk that it leaves behind: the file is empty
once it is open, and so it stays if the text has no encoding. -/
def writeText (disk : Disk) (path : Path) (text : String) : Except (IoFault × Disk) Disk :=
  match disk.placeToWrite path with
  | .error fault => .error (fault, disk)
  | .ok location =>
    match Text.encode disk.halves text with
    | .error fault => .error (.unencodable fault, disk.put location (.file .empty))
    | .ok bytes => .ok (disk.put location (.file bytes))

end Disk

end ExpectError
