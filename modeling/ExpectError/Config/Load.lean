import ExpectError.Config.Layer
import ExpectError.Disk
import ExpectError.Text.Split
import ExpectError.Toml.Fault

/-!
# Loading settings

Settings come in layers: the built-in ones, then those of the files found on the way up from a
directory, the outermost first, then those of files given by name. In each directory the section
of a `pyproject.toml` comes before a `tsmark.toml`. A file with `root = true` ends the search.

A file that cannot be read, or is no document, counts as empty and leaves a line in the log. What
a document says is for the reader to tell, which is a parameter throughout.
-/

namespace ExpectError

inductive LoadFault where
  | conflict (c : Toml.Conflict)
  | io (fault : IoFault)

def LoadFault.message : LoadFault → String
  | .conflict c => c.message
  | .io fault => fault.message

/-- The outcome of loading something, with the lines of the log. -/
structure Loading (α : Type) where
  log : List LogRecord
  result : Except LoadFault α

namespace Loading

variable {α β : Type}

def done (value : α) : Loading α :=
  ⟨[], .ok value⟩

/-- Goes on with a value; a fault is the end. -/
def andThen (first : Loading α) (next : α → Loading β) : Loading β :=
  match first.result with
  | .error fault => ⟨first.log, .error fault⟩
  | .ok value =>
    let rest := next value
    ⟨first.log ++ rest.log, rest.result⟩

instance : Monad Loading where
  pure := done
  bind := andThen

/-- A step that writes nothing to the log. -/
def ofExcept (result : Except LoadFault α) : Loading α :=
  ⟨[], result⟩

def report (log : List LogRecord) : Loading Unit :=
  ⟨log, .ok ()⟩

end Loading

namespace Config

open Toml (Value Table)

/-- The name of the file with a section for many tools. -/
def projectFile : String := "pyproject.toml"

/-- The name of the file that is for this tool alone. -/
def ownFile : String := "tsmark.toml"

/-! ## Files -/

/-- An empty table, with a line in the log that says why. -/
def emptyBecause (head : String) (path : Path) (reason : String) : Loading Table :=
  ⟨[.error (head ++ " from " ++ path.toText ++ ": " ++ reason)], .ok []⟩

/-- What the log says in front of a fault of a file. A refusal of the system is told apart from
bytes or a path that make no sense. -/
def faultHead : IoFault → String
  | .system .. => "Error loading TOML"
  | .described _ => "Error loading TOML"
  | .encoding _ => "Unknown error while reading TOML"
  | .unencodable _ => "Unknown error while reading TOML"
  | .nulInPath => "Unknown error while reading TOML"

/-- The text of a file, with a line feed for every line end. -/
def readLf (disk : Disk) (path : Path) : Except IoFault String :=
  (disk.readText path).map fun text => String.ofList (Text.unifyNewlines text.toList)

/-- The table of a file. -/
def loadTable (reader : Toml.DocumentReader) (disk : Disk) (path : Path) : Loading Table :=
  match readLf disk path with
  | .error fault => emptyBecause (faultHead fault) path fault.message
  | .ok text =>
    match reader text with
    | .ok table => .done table
    | .error (.malformed reason) => emptyBecause "Error decoding TOML" path reason
    | .error (.unusable reason) => emptyBecause "Unknown error while reading TOML" path reason
    | .error (.conflict c) => ⟨[], .error (.conflict c)⟩

/-- The section of a table that is for this tool. -/
def section? (table : Table) : Option Table :=
  match table.get? "tool" with
  | some (.table tools) =>
    match Table.get? tools "tsmark" with
    | some (.table own) => some own
    | _ => none
  | _ => none

/-- The part of a file's table that is for this tool, if there is one. -/
def ownPart (path : Path) (table : Table) : Option Table :=
  if path.name = projectFile then section? table else some table

variable (reader : Toml.DocumentReader)

/-- The part of a file that is for this tool. -/
def loadOwn (disk : Disk) (path : Path) : Loading (Option Table) := do
  let table ← loadTable reader disk path
  return ownPart path table

/-- Where the settings of a file stand, in words. -/
def originOf (path : Path) : String :=
  if path.name = projectFile then path.toText ++ "[tool.tsmark]" else path.toText

/-- The layer of a file, if it has a part for this tool. -/
def loadLayer (disk : Disk) (path : Path) : Loading (Option Draft) := do
  match ← loadOwn reader disk path with
  | none => return none
  | some table =>
    let (draft, warnings) := Draft.ofTable (originOf path) table
    Loading.report warnings
    return some { draft with sources := [path.toText] }

/-! ## The search -/

def endsSearch (table : Table) : Bool :=
  match table.get? "root" with
  | some (.boolean b) => b
  | _ => false

/-- Looks at one file of a directory: its path and whether it ends the search, if it counts. -/
def probe (disk : Disk) (directory : Path) (name : String) : Loading (Option (Path × Bool)) := do
  let path := directory.child name
  let present ← Loading.ofExcept
    ((disk.isFile path).mapError fun error => .io (.system error (some path.toText)))
  if present then
    let own ← loadOwn reader disk path
    return own.map fun table => (path, endsSearch table)
  else return none

/-- The files of a directory that count, and whether one of them ends the search. -/
def probeBoth (disk : Disk) (directory : Path) : Loading (List Path × Bool) := do
  let project ← probe reader disk directory projectFile
  let own ← probe reader disk directory ownFile
  let found := project.toList ++ own.toList
  return (found.map Prod.fst, found.any Prod.snd)

/-- The files that count, from directories given from the inside out. -/
def search (disk : Disk) : List Path → Loading (List Path)
  | [] => .done []
  | directory :: outer => do
    let (found, stop) ← probeBoth reader disk directory
    if stop then return found
    else do
      let above ← search disk outer
      return above ++ found

/-- A directory and those around it, from the inside out. -/
def ancestors (anchor : Anchor) (components : List String) : List Path :=
  (List.range (components.length + 1)).reverse.map fun n => ⟨anchor, components.take n⟩

/-- A path from the root, with every `..` taken against the name before it. Two slashes in front
become one. -/
def absolute (disk : Disk) (path : Path) : Path :=
  ⟨.root, Path.collapse (disk.origin path ++ path.components)⟩

/-- The files found on the way up from a path. -/
def discover (disk : Disk) (start : Path) : Loading (List Path) := do
  if start.toText.toList.contains (Char.ofNat 0) then
    Loading.ofExcept (.error (.io .nulInPath))
  let start := absolute disk start
  let isFile ← Loading.ofExcept
    ((disk.isFile start).mapError fun error => .io (.system error (some start.toText)))
  let directory := if isFile then start.parent else start
  search reader disk (ancestors directory.anchor directory.components)

/-! ## Layers -/

/-- The draft with the layers of files on top, in their order. -/
def addLayers (disk : Disk) (draft : Draft) : List Path → Loading Draft
  | [] => .done draft
  | path :: paths => do
    match ← loadLayer reader disk path with
    | none => addLayers disk draft paths
    | some layer => addLayers disk (draft.merge layer) paths

/-- The draft of the built-in settings, the files that are found and those given by name. -/
def load (disk : Disk) (start : Path) (extra : List Path) (noSearch : Bool) : Loading Draft := do
  let found ← if noSearch then Loading.done [] else discover reader disk start
  addLayers reader disk Draft.defaults (found ++ extra)

end Config

end ExpectError
