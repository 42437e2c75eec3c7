import ExpectError.Toml.Fault

/-!
# Sections of a document

A document is put together from sections that may come in any order. A table can be written in
several pieces: its header may be *implied* by the header of a table inside it, or by a key with
points. Pieces that may not stand together are a conflict.
-/

namespace ExpectError.Toml

/-- An item under its key. A key is *dotted* if it is a part of a key with points. -/
structure Slot (α : Type) where
  key : String
  dotted : Bool
  item : α

/-- What a section holds. -/
inductive Item where
  | value (v : Value)
  /-- A piece of a table, whose own header may only be implied. -/
  | table (implied : Bool) (body : List (Slot Item))
  /-- An array of tables. -/
  | tables (elements : List (List (Slot Item)))

/-- The contents of a table, in the order in which they were written. -/
abbrev Body := List (Slot Item)

/-- Whether an item is a piece of a table. -/
def Item.isTable : Item → Bool
  | .table .. => true
  | _ => false

namespace Body

def pieces (body : Body) (key : String) : List (Slot Item) :=
  body.filter fun slot => slot.key = key

def last? (body : Body) (key : String) : Option (Slot Item) :=
  (body.pieces key).getLast?

/-- The key of the last piece of a table. -/
def lastTable? (body : Body) : Option String :=
  (body.filter fun slot => slot.item.isTable).getLast?.map Slot.key

/-- The body with another item in the last piece under a key. -/
def replaceLast (body : Body) (key : String) (item : Item) : Body :=
  let (after, rest) := body.reverse.span fun slot => slot.key ≠ key
  match rest with
  | [] => body
  | slot :: before => before.reverse ++ { slot with item } :: after.reverse

/-- The body with one more piece, which may only join pieces of a table. -/
def join (body : Body) (slot : Slot Item) : Except Conflict Body :=
  match body.last? slot.key with
  | none => .ok (body ++ [slot])
  | some current =>
    if current.item.isTable then .ok (body ++ [slot]) else .error (.duplicate slot.key)

/-- The contents of all pieces of a table, one after the other. -/
def contents (pieces : List (Slot Item)) : List (Slot Item) :=
  pieces.flatMap fun slot =>
    match slot.item with
    | .table _ body => body
    | _ => []

def joined (pieces : List (Slot Item)) : Except Conflict Body :=
  (contents pieces).foldlM join []

/-- Checks that the pieces under a key can be joined. -/
def checkJoin (body : Body) (key : String) : Except Conflict Unit :=
  let pieces := body.pieces key
  if pieces.length ≤ 1 then .ok ()
  else (joined pieces).map fun _ => ()

mutual

/-- The body with a further item. Pieces of a table join as far as their headers allow; a value
never joins anything. With `check`, pieces that come together are also checked against each
other. `fuel` bounds the depth. -/
def add (fuel : Nat) (check : Bool) (body : Body) (slot : Slot Item) : Except Conflict Body :=
  match fuel with
  | 0 => .error .redefined
  | fuel + 1 =>
    match body.last? slot.key with
    | none => .ok (body ++ [slot])
    | some current =>
      match slot.item, current.item with
      | .table implied entries, .table currentImplied currentBody =>
        match currentImplied, implied with
        | true, true =>
          if slot.dotted || current.dotted || body.lastTable? ≠ some slot.key then do
            let body := body ++ [slot]
            if check then checkPieces fuel body slot.key
            return body
          else do
            let merged ← addAll fuel currentBody entries
            return body.replaceLast slot.key (.table true merged)
        | true, false =>
          if current.dotted then .error .redefined else .ok (body ++ [slot])
        | false, true => .ok (body ++ [slot])
        | false, false => .error (.duplicate slot.key)
      | .tables elements, .tables present =>
        .ok (body.replaceLast slot.key (.tables (present ++ elements)))
      | _, _ => .error (.duplicate slot.key)

/-- The body with further items, each checked against the pieces that it joins. -/
def addAll (fuel : Nat) (body : Body) (slots : List (Slot Item)) : Except Conflict Body :=
  match fuel, slots with
  | _, [] => .ok body
  | 0, _ => .error .redefined
  | fuel + 1, slot :: slots => do
    let body ← add fuel true body slot
    body.checkJoin slot.key
    addAll fuel body slots

/-- Checks the pieces under a key against each other, and whatever comes together in them. -/
def checkPieces (fuel : Nat) (body : Body) (key : String) : Except Conflict Unit :=
  match fuel with
  | 0 => .error .redefined
  | fuel + 1 =>
    let pieces := body.pieces key
    if pieces.length ≤ 1 then .ok ()
    else do
      let together ← (contents pieces).foldlM (fun together slot => add fuel false together slot) []
      together.forM fun slot => checkPieces fuel together slot.key

end

mutual

/-- The number of slots of an item, at any depth. -/
def itemSize : Item → Nat
  | .value _ => 1
  | .table _ body => 1 + bodySize body
  | .tables elements => 1 + elementsSize elements

/-- The number of slots of a body, at any depth. -/
def bodySize : List (Slot Item) → Nat
  | [] => 1
  | slot :: slots => 1 + slotSize slot + bodySize slots

/-- The number of slots of a slot's item. -/
def slotSize : Slot Item → Nat
  | ⟨_, _, item⟩ => itemSize item

/-- The number of slots of several bodies. -/
def elementsSize : List (List (Slot Item)) → Nat
  | [] => 1
  | body :: elements => 1 + bodySize body + elementsSize elements

end

/-- Enough steps for anything that is done to bodies of these sizes. -/
def stepsFor (body : Body) (slot : Slot Item) : Nat :=
  2 * (bodySize body + slotSize slot) + 4

/-- The body with a further item at the top level. -/
def append (body : Body) (slot : Slot Item) : Except Conflict Body :=
  add (stepsFor body slot) true body slot

/-- A value below a key with points: all but the last part name implied tables. -/
def nest (key : String) (parts : List String) (value : Value) : Slot Item :=
  match parts with
  | [] => ⟨key, false, .value value⟩
  | part :: parts => ⟨key, true, .table true [nest part parts value]⟩

/-- The body with a further key and value. -/
def addPair (body : Body) (key : List String) (value : Value) : Except Conflict Body :=
  match key with
  | [] => .ok body
  | part :: parts => body.append (nest part parts value)

/-- The body of a table with a further key and value. -/
def addPairChecked (body : Body) (key : List String) (value : Value) : Except Conflict Body := do
  let body ← body.addPair key value
  body.checkJoin (key.headD "")
  return body

/-- The body of a table with a further table below it. -/
def addChild (body : Body) (slot : Slot Item) : Except Conflict Body := do
  let body ← add (stepsFor body slot) false body slot
  body.checkJoin slot.key
  return body

def checkAll (body : Body) : Except Conflict Unit :=
  body.forM fun slot => checkPieces (2 * bodySize body + 4) body slot.key

/-! ## Plain tables -/

def keys (body : Body) : List String :=
  body.foldl (fun keys slot => if keys.contains slot.key then keys else keys ++ [slot.key]) []

mutual

/-- The plain table of a body; `fuel` bounds the depth. -/
def unwrapBody (fuel : Nat) (body : Body) : Except Conflict Table :=
  match fuel with
  | 0 => .error .redefined
  | fuel + 1 =>
    body.keys.mapM fun key => do
      match body.pieces key with
      | [slot] => return (key, ← unwrapItem fuel slot.item)
      | pieces => return (key, .table (← unwrapBody fuel (← joined pieces)))

def unwrapItem (fuel : Nat) (item : Item) : Except Conflict Value :=
  match fuel with
  | 0 => .error .redefined
  | fuel + 1 =>
    match item with
    | .value v => .ok v
    | .table _ body => (unwrapBody fuel body).map .table
    | .tables elements => (elements.mapM (unwrapBody fuel)).map fun tables =>
        .array (tables.map .table)

end

def unwrap (body : Body) : Except Conflict Table :=
  unwrapBody (4 * bodySize body + 4) body

end Body

end ExpectError.Toml
