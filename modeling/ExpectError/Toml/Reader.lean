import ExpectError.Text.Case
import ExpectError.Text.Integer
import ExpectError.Text.Utf8
import ExpectError.Toml.Section

/-!
# Reading values and keys

The parts of a document below the level of a line: keys, texts, numbers, dates, lists and tables
in braces. Each reader takes the rest of the document and gives back what it leaves.

A character that cannot start a value is told apart from the other faults, because a list that
meets one looks again whether it ends there.
-/

namespace ExpectError.Toml

/-- Why a part of a document cannot be read. -/
inductive ReadFault where
  | malformed
  /-- The character in front of the rest was not expected. -/
  | unexpected (rest : List Char)

/-- What a reader gives, unless it meets a fault. -/
abbrev Reading := Except ReadFault

variable (halves : List Text.Half)

/-! ## Blanks and comments -/

def isSpace (c : Char) : Bool :=
  c = ' ' || c = '\t'

def isGap (c : Char) : Bool :=
  isSpace c || c = '\n'

/-- A character that may not stand in texts and comments. -/
def isControl (c : Char) : Bool :=
  c.toNat = 0x7F || (c.toNat ≤ 0x1F && c ≠ '\t')

/-- What is left behind a comment, in front of the line end. -/
def skipComment (text : List Char) : Reading (List Char) :=
  let (comment, rest) := text.span (· ≠ '\n')
  if comment.any isControl then .error .malformed else .ok rest

/-- What is left behind the end of a line, on which only blanks and a comment may still stand. -/
def lineEnd (text : List Char) : Reading (List Char) := do
  let text := text.dropWhile isSpace
  let text ← match text with
    | '#' :: rest => skipComment rest
    | rest => pure rest
  match text with
  | [] => return []
  | '\n' :: rest => return rest
  | rest => throw (.unexpected rest)

/-! ## Texts -/

/-- The white space that a backslash at a line's end takes with it. -/
def isWrap (c : Char) : Bool :=
  isGap c || c = '\r'

/-- The character of a code in hexadecimal digits, or the one that stands for half of a pair. The
code of a half is refused only if the first two digits give it away. -/
def codePoint? (digits : List Char) : Option Char := do
  let refused : Bool := match digits with
    | a :: b :: _ => a.toLower = 'd' && !('0' ≤ b && b ≤ '7')
    | _ => false
  guard (!refused)
  let n ← Text.readBased? 16 (String.ofList digits)
  if 0 ≤ n ∧ n.toNat.isValidChar then return Char.ofNat n.toNat
  else (halves.find? fun half => (half.code : Int) = n).map Text.Half.standIn

/-- The character that so many hexadecimal digits name. -/
def readCode (count : Nat) (text : List Char) : Reading (List Char × List Char) :=
  let digits := text.take count
  match codePoint? halves digits with
  | some c => if digits.length = count then .ok ([c], text.drop count) else .error .malformed
  | none => .error .malformed

/-- What stands behind a backslash. In a text of several lines it may end the line, and then takes
all white space with it. -/
def readEscape (multiline : Bool) (text : List Char) : Reading (List Char × List Char) :=
  match text with
  | [] => .error .malformed
  | c :: rest =>
    if multiline && isWrap c then
      if (text.takeWhile isWrap).contains '\n' then .ok ([], text.dropWhile isWrap)
      else .error .malformed
    else match c with
      | 'b' => .ok (['\x08'], rest)
      | 't' => .ok (['\t'], rest)
      | 'n' => .ok (['\n'], rest)
      | 'f' => .ok (['\x0c'], rest)
      | 'r' => .ok (['\r'], rest)
      | '"' => .ok (['"'], rest)
      | '\\' => .ok (['\\'], rest)
      | 'u' => readCode halves 4 rest
      | 'U' => readCode halves 8 rest
      | _ => .error .malformed

/-- The kinds of texts: by their quote, which also decides whether a backslash has a meaning, and
by whether they go over several lines. -/
structure TextKind where
  quote : Char
  multiline : Bool

def TextKind.escapes (kind : TextKind) : Bool :=
  kind.quote = '"'

/-- Reads a text up to its closing quotes; `fuel` bounds the number of steps. In a text of several
lines up to two more quotes may stand in front of the closing ones. -/
def readTextBody (kind : TextKind) : Nat → List Char → Reading (List Char × List Char)
  | 0, _ => .error .malformed
  | _, [] => .error .malformed
  | fuel + 1, c :: rest =>
    if isControl c && !(kind.multiline && c = '\n') then .error .malformed
    else if c = kind.quote then
      if kind.multiline then
        let quotes := (c :: rest).takeWhile (· = c)
        let after := (c :: rest).dropWhile (· = c)
        if quotes.length < 3 then do
          let (more, rest) ← readTextBody kind fuel after
          return (quotes ++ more, rest)
        else if quotes.length < 6 then .ok (quotes.drop 3, after)
        else .error .malformed
      else .ok ([], rest)
    else if kind.escapes && c = '\\' then do
      let (piece, rest) ← readEscape halves kind.multiline rest
      let (more, rest) ← readTextBody kind fuel rest
      return (piece ++ more, rest)
    else do
      let (more, rest) ← readTextBody kind fuel rest
      return (c :: more, rest)

/-- Reads a text behind its first quote, and tells whether it goes over several lines. -/
def readText (quote : Char) (text : List Char) : Reading ((List Char × Bool) × List Char) :=
  let body (multiline : Bool) (text : List Char) : Reading ((List Char × Bool) × List Char) := do
    let (content, rest) ← readTextBody halves ⟨quote, multiline⟩ (text.length + 1) text
    return ((content, multiline), rest)
  match text with
  | a :: b :: rest =>
    if a = quote then
      if b = quote then
        match rest with
        | '\n' :: rest => body true rest
        | rest => body true rest
      else .ok (([], false), b :: rest)
    else body false text
  | [a] => if a = quote then .ok (([], false), []) else body false text
  | [] => .error .malformed

/-! ## Keys -/

def isBare (c : Char) : Bool :=
  c.isAlphanum || c = '-' || c = '_'

/-- Reads a key, which may have several parts with points between them; `fuel` bounds their
number. -/
def readKey : Nat → List Char → Reading (List String × List Char)
  | 0, _ => .error .malformed
  | fuel + 1, text => do
    let text := text.dropWhile isSpace
    let (part, rest) ← match text with
      | c :: rest =>
        if c = '"' || c = Text.singleQuote then do
          let ((content, multiline), rest) ← readText halves c rest
          if multiline then throw (.unexpected rest)
          pure (content, rest.dropWhile isSpace)
        else readBare text
      | [] => readBare text
    match rest with
    | '.' :: rest => do
      let (more, rest) ← readKey fuel rest
      return (String.ofList part :: more, rest)
    | rest => return ([String.ofList part], rest)
where
  /-- A bare part: no blank may stand inside, but one that is a tab. -/
  readBare (text : List Char) : Reading (List Char × List Char) :=
    let (run, rest) := text.span fun c => isBare c || isSpace c
    let part := (run.reverse.dropWhile isSpace).reverse
    if part = [] || part.contains ' ' then .error .malformed else .ok (part, rest)

/-- What is left behind the equals sign between a key and its value. -/
def readEquals (text : List Char) : Reading (List Char) :=
  match text.dropWhile isSpace with
  | '=' :: rest =>
    match rest.dropWhile isSpace with
    | '=' :: rest => .error (.unexpected ('=' :: rest))
    | rest => .ok rest
  | rest => .error (.unexpected rest)

/-! ## Numbers -/

/-- A character behind a number or a date. -/
def endsValue (c : Char) : Bool :=
  isGap c || c = '\r' || c = '#' || c = ',' || c = ']' || c = '\x7d'

/-- Leaves out each underscore between two digits. -/
def dropUnderscores (digit : Char → Bool) : List Char → List Char
  | a :: '_' :: b :: rest =>
    if digit a && digit b then a :: dropUnderscores digit (b :: rest)
    else a :: '_' :: dropUnderscores digit (b :: rest)
  | a :: rest => a :: dropUnderscores digit rest
  | [] => []

/-- The base that the beginning of a number names. -/
def baseOf : List Char → Nat
  | '0' :: 'b' :: _ => 2
  | '0' :: 'o' :: _ => 8
  | '0' :: 'x' :: _ => 16
  | _ => 10

def isPlainDigit (base : Nat) (c : Char) : Bool :=
  c.toNat < 0x80 && Text.isDigitOf base c

/-- Whether a number has zeros in front that it may not have. -/
def hasLeadingZero : List Char → Bool
  | '0' :: c :: _ => !(c = '.' || c = 'o' || c = 'x' || c = 'b' || c = 'e')
  | _ => false

/-- Whether a point stands at the end of a number, or in front of its exponent. -/
def hasBarePoint (base : Nat) (body : List Char) : Bool :=
  body.getLast? = some '.'
    || (base ≠ 16 && (body.takeWhile (· ≠ 'e')).getLast? = some '.')

/-- The number that a run of characters denotes: an integer if it can be read as one, else a
number with a fraction. -/
def number? (raw : List Char) : Option Value := do
  let hasSign : Bool := match raw with
    | c :: _ => c = '+' || c = '-'
    | [] => false
  let body := (Text.takeSign raw).2
  guard (!hasLeadingZero body)
  guard (!(hasSign && body.length > 1 && body.head? = some '.'))
  let base := baseOf body
  guard (!(hasSign && base ≠ 10))
  let body := (dropUnderscores (isPlainDigit base) body).map Text.lowerChar
  guard (!body.contains '_')
  guard (!hasBarePoint base body)
  if base = 10 then
    let whole := String.ofList (raw.take (if hasSign then 1 else 0) ++ body)
    match Text.readInteger whole with
    | .ok n => return .integer n
    | .error _ =>
      let (negative, digits) := Text.takeSign (Text.trim whole).toList
      let x ← Text.Double.readUnsigned? negative digits
      return .float x
  else
    let n ← Text.readBased? base (String.ofList body)
    return .integer n

/-! ## Dates and times -/

/-- A number of exactly so many plain digits in front of a text. -/
def fixedDigits? (count : Nat) (text : List Char) : Option (Nat × List Char) :=
  let digits := text.take count
  if digits.length = count ∧ digits.all Char.isDigit then
    some (Text.digitsValue digits, text.drop count)
  else none

def after? (c : Char) : List Char → Option (List Char)
  | d :: rest => if c = d then some rest else none
  | [] => none

def monthLength (year month : Nat) : Nat :=
  if month = 2 then
    if year % 4 = 0 ∧ (year % 100 ≠ 0 ∨ year % 400 = 0) then 29 else 28
  else if month = 4 ∨ month = 6 ∨ month = 9 ∨ month = 11 then 30
  else 31

/-- A day in front of a text: a year of any length, a month and a day. -/
def date? (text : List Char) : Option (Date × List Char) := do
  let (year, text) := text.span Char.isDigit
  guard (year ≠ [] ∧ year.length ≤ Text.digitLimit)
  let text ← after? '-' text
  let (month, text) ← fixedDigits? 2 text
  let text ← after? '-' text
  let (day, text) ← fixedDigits? 2 text
  let year := Text.digitsValue year
  guard (1 ≤ year ∧ year ≤ 9999 ∧ 1 ≤ month ∧ month ≤ 12)
  guard (1 ≤ day ∧ day ≤ monthLength year month)
  return (⟨year, month, day⟩, text)

/-- A fraction of a second in front of a text, as microseconds; further digits are cut off. -/
def fraction? (text : List Char) : Option (Nat × List Char) :=
  match text with
  | '.' :: rest =>
    let (digits, rest) := rest.span Char.isDigit
    if digits = [] then none
    else some (Text.digitsValue ((digits ++ List.replicate 6 '0').take 6), rest)
  | rest => some (0, rest)

def time? (text : List Char) : Option (Time × List Char) := do
  let (hour, text) ← fixedDigits? 2 text
  let text ← after? ':' text
  let (minute, text) ← fixedDigits? 2 text
  let text ← after? ':' text
  let (second, text) ← fixedDigits? 2 text
  guard (hour ≤ 23 ∧ minute ≤ 59 ∧ second ≤ 59)
  let (microsecond, text) ← fraction? text
  return (⟨hour, minute, second, microsecond⟩, text)

/-- An offset that is all of a text; the empty text is none. -/
def offset? (text : List Char) : Option (Option Offset) :=
  match text with
  | [] => some none
  | ['Z'] => some (some .utc)
  | ['z'] => some (some .utc)
  | sign :: rest => do
    guard (sign = '+' || sign = '-' || sign = '|')
    let (hour, rest) ← fixedDigits? 2 rest
    let rest ← after? ':' rest
    let (minute, rest) ← fixedDigits? 2 rest
    guard (hour ≤ 23 ∧ minute ≤ 59 ∧ rest = [])
    return some (.minutes (sign = '-') (60 * hour + minute) (String.ofList text))

/-- A day with a time that is all of a text. -/
def datetime? (text : List Char) : Option Value := do
  let (date, text) ← date? text
  match text with
  | c :: text => do
    guard (c = 'T' || c = 't' || c = ' ')
    let (time, text) ← time? text
    let offset ← offset? text
    return .datetime date time offset
  | [] => none

def wholeTime? (text : List Char) : Option Value := do
  let (time, rest) ← time? text
  guard (rest = [])
  return .time time

def wholeDate? (text : List Char) : Option Date := do
  let (date, rest) ← date? text
  guard (rest = [])
  return date

/-- A value that has been found, or a fault. -/
def orMalformed {α : Type} (value : Option α) (rest : List Char) : Reading (α × List Char) :=
  match value with
  | some value => .ok (value, rest)
  | none => .error .malformed

/-- Reads a number, a date or a time. A day may have a time behind a space. -/
def readScalar (text : List Char) : Reading (Value × List Char) :=
  let raw := text.takeWhile fun c => !endsValue c
  let rest := text.dropWhile fun c => !endsValue c
  match wholeDate? raw with
  | some date =>
    let stops (c : Char) : Bool := endsValue c && c ≠ ' '
    let more := rest.takeWhile fun c => !stops c
    let rest := rest.dropWhile fun c => !stops c
    let more := (more.reverse.dropWhile Text.isBlank).reverse
    if more = [] then .ok (.date date, rest) else orMalformed (datetime? (raw ++ more)) rest
  | none => orMalformed (datetime? raw <|> wholeTime? raw <|> number? raw) rest

/-- Whether a text begins with a number written as a word. -/
def startsWithWord (text : List Char) : Bool :=
  let word := (text.takeWhile fun c => !endsValue c && c ≠ Char.ofNat 0).take 4
  word = ['i', 'n', 'f'] || word = ['n', 'a', 'n']

/-- What is left behind a word; without it the fault is at the start. -/
def readWord (word : List Char) (value : Value) (text : List Char) : Reading (Value × List Char) :=
  if word.isPrefixOf text then .ok (value, text.drop word.length) else .error (.unexpected text)

/-! ## Values -/

structure Braces where
  body : Body
  /-- Whether a comma stands behind the last entry; before the first entry neither holds. -/
  comma : Option Bool

mutual

/-- Reads a value; `fuel` bounds the number of steps. -/
def readValue (fuel : Nat) (text : List Char) : Reading (Value × List Char) :=
  match fuel with
  | 0 => .error .malformed
  | fuel + 1 =>
    match text with
    | [] => .error (.unexpected [])
    | c :: rest =>
      if c = '"' || c = Text.singleQuote then do
        let ((content, _), rest) ← readText halves c rest
        return (.text (String.ofList content), rest)
      else if c = 't' then readWord ['t', 'r', 'u', 'e'] (.boolean true) text
      else if c = 'f' then readWord ['f', 'a', 'l', 's', 'e'] (.boolean false) text
      else if c = '[' then
        if rest = [] then .error .malformed
        else do
          let (items, rest) ← readItems fuel false rest
          return (.array items, rest)
      else if c = '\x7b' then
        if rest = [] then .error .malformed else readBraces fuel ⟨[], none⟩ rest
      else if c = '+' || c = '-' || startsWithWord text then
        orMalformed (number? (text.takeWhile fun c => !endsValue c))
          (text.dropWhile fun c => !endsValue c)
      else if c.isDigit then readScalar text
      else .error (.unexpected text)

/-- Reads the items of a list up to its bracket. `filled` tells that an item has been read and a
comma has not. -/
def readItems (fuel : Nat) (filled : Bool) (text : List Char) : Reading (List Value × List Char) :=
  match fuel with
  | 0 => .error .malformed
  | fuel + 1 =>
    let text := text.dropWhile isGap
    match text with
    | '#' :: rest => do
      let rest ← skipComment rest
      readItems fuel filled rest
    | _ =>
      if filled then
        match text with
        | ',' :: rest => if rest = [] then .error .malformed else readItems fuel false rest
        | ']' :: rest => .ok ([], rest)
        | _ => .error (.unexpected text)
      else
        match readValue fuel text with
        | .ok (value, rest) => do
          let (values, rest) ← readItems fuel true rest
          return (value :: values, rest)
        | .error (.unexpected (']' :: rest)) => .ok ([], rest)
        | .error fault => .error fault

/-- Reads the entries of a table in braces up to the closing one. -/
def readBraces (fuel : Nat) (braces : Braces) (text : List Char) : Reading (Value × List Char) :=
  match fuel with
  | 0 => .error .malformed
  | fuel + 1 =>
    let text := text.dropWhile isGap
    let closes : Bool := text.head? = some '\x7d'
    let commaNext : Bool := text.head? = some ','
    if closes && braces.comma ≠ some true then
      match braces.body.unwrap with
      | .ok table => .ok (.table table, text.drop 1)
      | .error _ => .error .malformed
    else if closes || commaNext || braces.comma = some false then .error (.unexpected text)
    else do
      let ((key, value), rest) ← readPair fuel text
      let body ← match braces.body.addPair key value with
        | .ok body => pure body
        | .error _ => throw .malformed
      let rest := rest.dropWhile isGap
      match rest with
      | ',' :: rest =>
        if rest = [] then throw .malformed else readBraces fuel ⟨body, some true⟩ rest
      | rest => readBraces fuel ⟨body, some false⟩ rest

def readPair (fuel : Nat) (text : List Char) : Reading ((List String × Value) × List Char) :=
  match fuel with
  | 0 => .error .malformed
  | fuel + 1 => do
    let (key, rest) ← readKey halves (text.length + 1) text
    let rest ← readEquals rest
    let (value, rest) ← readValue fuel rest
    return ((key, value), rest)

end

end ExpectError.Toml
