import ExpectError.History
import ExpectError.Style.Paint
import ExpectError.Text.Case
import ExpectError.Text.Integer
import ExpectError.Toml.Value

/-!
# The log

Lines of the log have levels. Those below a threshold are left out, the others are written with
the name of their level, each in the color of its level. Below the level for information the lines
also tell the place that they come from. What a run or a loading says is at that level or above.
-/

namespace ExpectError.Log

open Style (Paint)

/-! ## Levels -/

/-- The threshold that leaves out almost everything. -/
def critical : Int := 50

def levels : List (String × Int) :=
  [("TRACE", 5), ("DEBUG", 10), ("INFO", 20), ("WARNING", 30), ("WARN", 30), ("ERROR", 40),
    ("CRITICAL", 50), ("FATAL", 50), ("NOTSET", 0)]

/-- The level that a variable of the environment names, by a word or a number. -/
def levelOf (value : Option String) : Except Text.IntegerError (Option Int) :=
  match value with
  | none => .ok none
  | some value =>
    let word := Text.upper (Text.trim value)
    if word ≠ "" ∧ word.toList.all Text.isDigitSign then (Text.readInteger word).map some
    else .ok (levels.lookup word)

/-- The threshold for a level that may be given, or else come from the environment. There a level
of zero counts as none. -/
def threshold (given : Option Int) (environment : Option Int) : Int :=
  match given with
  | some level => level
  | none => (environment.filter (· ≠ 0)).getD critical

def levelName (level : Int) : String :=
  if level = 50 then "CRITICAL"
  else if level = 40 then "ERROR"
  else if level = 30 then "WARNING"
  else if level = 20 then "INFO"
  else if level = 10 then "DEBUG"
  else if level = 5 then "TRACE"
  else if level = 0 then "NOTSET"
  else "Level " ++ toString level

def paintOf (level : Int) : Paint :=
  if 50 ≤ level then Paint.brightRed
  else if 40 ≤ level then Paint.red
  else if 30 ≤ level then Paint.yellow
  else if 20 ≤ level then Paint.green
  else if 10 ≤ level then Paint.gray
  else if 5 ≤ level then Paint.blue
  else Paint.dim ++ Paint.red

/-! ## Lines -/

def passes (threshold : Int) (record : LogRecord) : Bool :=
  0 < record.level && threshold ≤ record.level

/-- A line of the log. `place` is what stands for the place that it comes from. -/
def line (colors : Bool) (threshold : Int) (place : String) (record : LogRecord) : String :=
  let head := "[" ++ levelName record.level ++ "] " ++ (if threshold < 20 then place else "")
  (paintOf record.level).apply colors (head ++ record.text) ++ "\n"

/-- The lines of the log that are written. -/
def render (colors : Bool) (threshold : Int) (place : String) (records : List LogRecord) : String :=
  String.join ((records.filter (passes threshold)).map (line colors threshold place))

/-! ## Messages with places for values -/

/-- A value in running text: texts are not quoted. -/
def plain : Toml.Value → String
  | .text s => s
  | value => value.display

def number : Toml.Value → String
  | .boolean b => if b then "1" else "0"
  | value => value.display

def fill : List Char → List Toml.Value → List Char
  | '%' :: '%' :: rest, values => '%' :: fill rest values
  | '%' :: 's' :: rest, value :: values => (plain value).toList ++ fill rest values
  | '%' :: 'd' :: rest, value :: values => (number value).toList ++ fill rest values
  | '%' :: 'r' :: rest, value :: values => value.display.toList ++ fill rest values
  | c :: rest, values => c :: fill rest values
  | [], _ => []

/-- A message with values; without values it is taken as it is. -/
def message (template : String) (values : List Toml.Value) : String :=
  if values.isEmpty then template else String.ofList (fill template.toList values)

end ExpectError.Log
