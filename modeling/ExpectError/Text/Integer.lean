import ExpectError.Text.Blank
import ExpectError.Text.Digit
import ExpectError.Text.Quoted

/-!
# Reading integers

An integer may have blanks around it, a sign, digits of any script and single underscores between
digits. At most 4300 digits are read, and a number with more digits cannot be put into words either.
-/

namespace ExpectError.Text

/-- The most digits that an integer may have, leading zeros included. -/
def digitLimit : Nat := 4300

/-- Whether a number is short enough to be put into words. -/
def isWritable (n : Int) : Bool :=
  (Nat.toDigits 10 n.natAbs).length ≤ digitLimit

inductive IntegerError where
  /-- It has another shape. -/
  | malformed (text : String)
  /-- It has more digits than are read. -/
  | tooLong (digits : Nat)

def IntegerError.message : IntegerError → String
  | .malformed text =>
    "invalid literal for int() with base 10: "
      ++ String.ofList ((quoted text).toList.take 200)
  | .tooLong digits =>
    "Exceeds the limit (4300 digits) for integer string conversion: value has "
      ++ toString digits
      ++ " digits; use sys.set_int_max_str_digits() to increase the limit"

/-- The digits of a text in which single underscores may stand between digits. -/
def ungroup (digit : Char → Bool) : List Char → Option (List Char)
  | [] => none
  | [c] => if digit c then some [c] else none
  | c :: '_' :: rest => if digit c then (ungroup digit rest).map (c :: ·) else none
  | c :: rest => if digit c then (ungroup digit rest).map (c :: ·) else none

/-- The sign in front of a number (`true` for minus) and what follows it. -/
def takeSign : List Char → Bool × List Char
  | '-' :: rest => (true, rest)
  | '+' :: rest => (false, rest)
  | rest => (false, rest)

def signed (negative : Bool) (n : Nat) : Int :=
  if negative then -(n : Int) else n

def readInteger (s : String) : Except IntegerError Int :=
  let (negative, body) := takeSign (trim s).toList
  let leading := (body.takeWhile fun c => isDigit c || c = '_').filter isDigit
  if digitLimit < leading.length then .error (.tooLong leading.length)
  else match ungroup isDigit body with
    | none => .error (.malformed s)
    | some digits => .ok (signed negative (digitsValue digits))

/-! ## Other bases -/

/-- The value of a digit of any base up to sixteen. -/
def hexValue? (c : Char) : Option Nat :=
  (digitValue? c) <|>
    if 'a' ≤ c ∧ c ≤ 'f' then some (c.toNat - 'a'.toNat + 10)
    else if 'A' ≤ c ∧ c ≤ 'F' then some (c.toNat - 'A'.toNat + 10)
    else none

def isDigitOf (base : Nat) (c : Char) : Bool :=
  (hexValue? c).any (· < base)

/-- The number that digits of a base denote. -/
def valueOf (base : Nat) (cs : List Char) : Nat :=
  cs.foldl (fun n c => base * n + (hexValue? c).getD 0) 0

/-- The letter that marks a base, in lower case. -/
def baseMark : Nat → Char
  | 2 => 'b'
  | 8 => 'o'
  | _ => 'x'

/-- What is left behind the mark of a base, which may be missing; a single underscore may stand
behind it. -/
def dropBaseMark (base : Nat) : List Char → List Char
  | '0' :: c :: '_' :: rest => if c.toLower = baseMark base then rest else '0' :: c :: '_' :: rest
  | '0' :: c :: rest => if c.toLower = baseMark base then rest else '0' :: c :: rest
  | rest => rest

/-- Reads an integer of base two, eight or sixteen. -/
def readBased? (base : Nat) (s : String) : Option Int :=
  let (negative, body) := takeSign (trim s).toList
  (ungroup (isDigitOf base) (dropBaseMark base body)).map fun digits =>
    signed negative (valueOf base digits)

end ExpectError.Text
