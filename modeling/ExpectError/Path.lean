/-!
# Paths

A path in its plain form: empty and `.` components are gone, `..` stays, and two slashes in front
(but not one, or three and more) stay two. The empty path is shown as `.`.
-/

namespace ExpectError

inductive Anchor where
  /-- The working directory. -/
  | relative
  /-- The root. -/
  | root
  /-- The root, written with two slashes. -/
  | doubleRoot
  deriving DecidableEq, Repr

def Anchor.text : Anchor → String
  | .relative => ""
  | .root => "/"
  | .doubleRoot => "//"

structure Path where
  anchor : Anchor
  components : List String
  deriving DecidableEq, Repr

namespace Path

/-- The pieces of a text between slashes. -/
def pieces : List Char → List (List Char)
  | [] => [[]]
  | c :: rest =>
    if c = '/' then [] :: pieces rest
    else match pieces rest with
      | [] => [[c]]
      | piece :: more => (c :: piece) :: more

/-- What the slashes in front of a text mean. -/
def anchorOf (text : List Char) : Anchor :=
  match (text.takeWhile (· = '/')).length with
  | 0 => .relative
  | 2 => .doubleRoot
  | _ => .root

def ofText (text : String) : Path where
  anchor := anchorOf text.toList
  components := ((pieces text.toList).map String.ofList).filter fun p => p ≠ "" && p ≠ "."

def joinComponents (components : List String) : String :=
  "/".intercalate components

def toText (path : Path) : String :=
  match path.anchor, path.components with
  | .relative, [] => "."
  | anchor, components => anchor.text ++ joinComponents components

/-- Whether the path starts from the root. -/
def isAbsolute (path : Path) : Bool :=
  path.anchor ≠ .relative

/-- A path taken from a directory; one from the root is taken as it is. -/
def join (directory path : Path) : Path :=
  if path.isAbsolute then path
  else { directory with components := directory.components ++ path.components }

def child (directory : Path) (name : String) : Path :=
  { directory with components := directory.components ++ [name] }

def name (path : Path) : String :=
  path.components.getLast?.getD ""

def parent (path : Path) : Path :=
  { path with components := path.components.dropLast }

/-- The components with each `..` taken against the component before it. -/
def collapse (components : List String) : List String :=
  components.foldl (fun done c => if c = ".." then done.dropLast else done ++ [c]) []

end Path

end ExpectError
