import ExpectError.Text.Double
import ExpectError.Text.Quoted

/-!
# Values of configuration tables

What can stand in a table: texts, numbers, truth values, dates and times, lists and tables. A
table that a caller builds may also hold entries without a value. `Value.display` writes a value
the way warnings quote it.
-/

namespace ExpectError.Toml

structure Date where
  year : Nat
  month : Nat
  day : Nat
  deriving DecidableEq, Repr

structure Time where
  hour : Nat
  minute : Nat
  second : Nat
  microsecond : Nat
  deriving DecidableEq, Repr

/-- The distance of a zone from universal time. -/
inductive Offset where
  /-- Universal time itself. -/
  | utc
  /-- So many minutes, with the way in which they were written. -/
  | minutes (negative : Bool) (size : Nat) (written : String)
  deriving DecidableEq, Repr

inductive Value where
  /-- An entry without a value. -/
  | nothing
  | text (s : String)
  | integer (n : Int)
  | float (x : Text.Double)
  | boolean (b : Bool)
  | date (d : Date)
  | time (t : Time)
  | datetime (d : Date) (t : Time) (offset : Option Offset)
  | array (items : List Value)
  | table (entries : List (String × Value))
  deriving Inhabited

/-- A table: its entries in the order in which they were made. -/
abbrev Table := List (String × Value)

def Table.get? (table : Table) (key : String) : Option Value :=
  List.lookup key table

/-! ## Dates and times -/

/-- A number with zeros in front up to the given width. -/
def padded (width n : Nat) : String :=
  let digits := Nat.toDigits 10 n
  String.ofList (List.replicate (width - digits.length) '0' ++ digits)

def Date.iso (d : Date) : String :=
  padded 4 d.year ++ "-" ++ padded 2 d.month ++ "-" ++ padded 2 d.day

def Time.iso (t : Time) : String :=
  padded 2 t.hour ++ ":" ++ padded 2 t.minute ++ ":" ++ padded 2 t.second
    ++ (if t.microsecond = 0 then "" else "." ++ padded 6 t.microsecond)

def Offset.iso : Offset → String
  | .utc => "+00:00"
  | .minutes negative size _ =>
    (if negative && size ≠ 0 then "-" else "+") ++ padded 2 (size / 60) ++ ":"
      ++ padded 2 (size % 60)

/-- The parts of a time in a call: seconds and microseconds only as far as they are not zero. -/
def Time.arguments (t : Time) : List String :=
  [toString t.hour, toString t.minute]
    ++ (if t.second = 0 && t.microsecond = 0 then []
      else if t.microsecond = 0 then [toString t.second]
      else [toString t.second, toString t.microsecond])

def Date.arguments (d : Date) : List String :=
  [toString d.year, toString d.month, toString d.day]

/-- A span of so many minutes in a call. -/
def spanDisplay (negative : Bool) (minutes : Nat) : String :=
  let seconds := minutes * 60
  if seconds = 0 then "datetime.timedelta(0)"
  else if negative then
    "datetime.timedelta(days=-1, seconds=" ++ toString (86400 - seconds) ++ ")"
  else "datetime.timedelta(seconds=" ++ toString seconds ++ ")"

def Offset.display : Offset → String
  | .utc => "datetime.timezone(datetime.timedelta(0), 'UTC')"
  | .minutes negative size written =>
    "datetime.timezone(" ++ spanDisplay negative size ++ ", " ++ Text.quoted written ++ ")"

def callDisplay (name : String) (arguments : List String) : String :=
  name ++ "(" ++ ", ".intercalate arguments ++ ")"

/-! ## Values in words -/

namespace Value

def kind : Value → String
  | .nothing => "NoneType"
  | .text _ => "str"
  | .integer _ => "int"
  | .float _ => "float"
  | .boolean _ => "bool"
  | .date _ => "date"
  | .time _ => "time"
  | .datetime .. => "datetime"
  | .array _ => "list"
  | .table _ => "dict"

mutual

def display : Value → String
  | .nothing => "None"
  | .text s => Text.quoted s
  | .integer n => toString n
  | .float x => x.toText
  | .boolean b => if b then "True" else "False"
  | .date d => callDisplay "datetime.date" d.arguments
  | .time t => callDisplay "datetime.time" t.arguments
  | .datetime d t offset =>
    callDisplay "datetime.datetime" (d.arguments ++ t.arguments
      ++ (offset.map fun o => "tzinfo=" ++ o.display).toList)
  | .array items => "[" ++ ", ".intercalate (displayItems items) ++ "]"
  | .table entries => "\x7b" ++ ", ".intercalate (displayEntries entries) ++ "\x7d"

/-- The items of a list as warnings quote them. -/
def displayItems : List Value → List String
  | [] => []
  | value :: values => value.display :: displayItems values

/-- The entries of a table as warnings quote them. -/
def displayEntries : List (String × Value) → List String
  | [] => []
  | (key, value) :: entries => (Text.quoted key ++ ": " ++ value.display) :: displayEntries entries

end

end Value

end ExpectError.Toml
