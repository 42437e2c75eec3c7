import ExpectError.Toml.Reader

/-!
# Reading a document

A document is a list of keys with values, followed by tables under their headers. A header whose
name goes on from that of the table before it belongs inside that table; the tables between them
that have no header are implied.

Malformed documents are not told apart: one reason stands for all of them.
-/

namespace ExpectError.Toml

namespace Document

variable (halves : List Text.Half)

/-- What is said of every malformed document. -/
def malformed : DocumentFault :=
  .malformed "malformed document"

/-- Any fault of a reader means that the document is malformed. -/
def settle {α : Type} : Except ReadFault α → Except DocumentFault α
  | .ok a => .ok a
  | .error _ => .error malformed

/-- A conflict that is noticed while a line is read means that the document is malformed. -/
def asMalformed {α : Type} : Except Conflict α → Except DocumentFault α
  | .ok a => .ok a
  | .error _ => .error malformed

def asConflict {α : Type} : Except Conflict α → Except DocumentFault α
  | .ok a => .ok a
  | .error c => .error (.conflict c)

/-! ## Lines -/

/-- What stands at the start of a line. -/
inductive Line where
  /-- Nothing of meaning. -/
  | blank (rest : List Char)
  | pair (key : List String) (value : Value) (rest : List Char)
  /-- A header; its bracket is in front of the rest. -/
  | header (rest : List Char)

def readLine (text : List Char) : Except DocumentFault Line :=
  match text.dropWhile isSpace with
  | [] => .ok (.blank [])
  | '\n' :: rest => .ok (.blank rest)
  | '#' :: rest => do
    let rest ← settle (skipComment rest)
    return .blank (rest.drop 1)
  | '[' :: rest => .ok (.header ('[' :: rest))
  | _ => do
    let ((key, value), rest) ← settle (readPair halves (4 * text.length + 8) text)
    let rest ← settle (lineEnd rest)
    return .pair key value rest

/-- Reads lines up to a header or the end. `add` puts a key with its value into the body; `fuel`
bounds the number of lines. -/
def readLines (add : Body → List String → Value → Except Conflict Body) :
    Nat → Body → List Char → Except DocumentFault (Body × List Char)
  | 0, _, _ => .error malformed
  | fuel + 1, body, text =>
    if text = [] then .ok (body, [])
    else do
      match ← readLine halves text with
      | .blank rest => readLines add fuel body rest
      | .header rest => return (body, rest)
      | .pair key value rest => do
        let body ← asMalformed (add body key value)
        readLines add fuel body rest

/-! ## Headers -/

/-- A header: its name, and whether it opens an element of an array of tables. -/
structure Header where
  name : List String
  array : Bool

/-- Reads the name of a header behind its first bracket; what is left starts behind the name. -/
def readName (text : List Char) : Except DocumentFault (Header × List Char) := do
  let (array, text) : Bool × List Char := match text with
    | '[' :: rest => (true, rest)
    | rest => (false, rest)
  if text = [] then throw malformed
  let (name, rest) ← settle (readKey halves (text.length + 1) text)
  return (⟨name, array⟩, rest)

/-- The header in front of a text, if there is one. -/
def peekHeader (text : List Char) : Except DocumentFault Header :=
  match text with
  | '[' :: rest => (readName halves rest).map Prod.fst
  | _ => .error malformed

/-- Whether a name goes on from another one. -/
def isBelow (parent name : List String) : Bool :=
  parent.isPrefixOf name && parent ≠ name

/-- The table of the last name, inside the implied tables of the others. -/
def wrap (item : Item) : List String → Item
  | [] => item
  | name :: names => .table true [⟨name, false, wrap item names⟩]

mutual

/-- Reads a table from its header on. `parent` is the name of the table around it; a `sibling` is a
further element of an array of tables that is being read. Gives the key under which the table
belongs into the one around it. `fuel` bounds the number of headers. -/
def readTable (fuel : Nat) (parent : List String) (sibling : Bool) (text : List Char) :
    Except DocumentFault (String × Item × List Char) :=
  match fuel with
  | 0 => .error malformed
  | fuel + 1 => do
    let (header, rest) ← readName halves (text.drop 1)
    let rest ← match rest with
      | ']' :: rest => pure (if header.array then rest.drop 1 else rest)
      | _ => throw malformed
    let rest ← settle (lineEnd rest)
    let (body, rest) ← readLines halves Body.addPairChecked (rest.length + 1) [] rest
    let (body, rest) ← readChildren fuel header.name body rest
    asConflict body.checkAll
    match header.name.drop parent.length with
    | key :: name :: names =>
      let last : Item := if header.array then .tables [body] else .table false body
      return (key, wrap last (name :: names), rest)
    | names => do
      let key := names.headD (header.name.headD "")
      if header.array && !sibling then
        let (elements, rest) ← readSiblings fuel header.name rest
        return (key, .tables (body :: elements), rest)
      else return (key, .table false body, rest)

/-- Reads the tables that belong inside a table. -/
def readChildren (fuel : Nat) (name : List String) (body : Body) (text : List Char) :
    Except DocumentFault (Body × List Char) :=
  match fuel with
  | 0 => .error malformed
  | fuel + 1 =>
    if text = [] then .ok (body, [])
    else do
      let header ← peekHeader halves text
      if isBelow name header.name then
        let (key, item, rest) ← readTable fuel name false text
        let body ← asConflict (body.addChild ⟨key, false, item⟩)
        readChildren fuel name body rest
      else return (body, text)

/-- Reads the further elements of an array of tables. -/
def readSiblings (fuel : Nat) (name : List String) (text : List Char) :
    Except DocumentFault (List Body × List Char) :=
  match fuel with
  | 0 => .error malformed
  | fuel + 1 =>
    if text = [] then .ok ([], [])
    else do
      let header ← peekHeader halves text
      if header.array && header.name = name then
        let (_, item, rest) ← readTable fuel name true text
        let body : Body := match item with
          | .table _ body => body
          | _ => []
        let (elements, rest) ← readSiblings fuel name rest
        return (body :: elements, rest)
      else return ([], text)

end

def readTables : Nat → Body → List Char → Except DocumentFault Body
  | 0, _, _ => .error malformed
  | fuel + 1, body, text =>
    if text = [] then .ok body
    else do
      let (key, item, rest) ← readTable halves (2 * text.length + 4) [] false text
      let body ← asMalformed (body.append ⟨key, false, item⟩)
      readTables fuel body rest

/-- Reads a document whose line ends are line feeds. -/
def read : DocumentReader := fun text => do
  let text := text.toList
  let (body, rest) ← readLines halves Body.addPair (text.length + 1) [] text
  let body ← readTables halves (text.length + 1) body rest
  asConflict body.unwrap

end Document

end ExpectError.Toml
