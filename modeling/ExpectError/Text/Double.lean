import ExpectError.Text.Digit

/-!
# Binary floating point

Numbers of double precision, read from decimal text with exact arithmetic and written with the
fewest digits that read back. A finite number is a sign, a whole mantissa below 2^53 and the power
of two that scales it.

Written numbers are positional from 10^-4 up to 10^16 and keep a `.0`; beyond that the exponent has
a sign and at least two digits.
-/

namespace ExpectError.Text

/-- A number of double precision. -/
inductive Double where
  /-- `mantissa · 2 ^ exponent`, with its sign. -/
  | finite (negative : Bool) (mantissa : Nat) (exponent : Int)
  | infinite (negative : Bool)
  | nan
  deriving DecidableEq, Repr

namespace Double

def precision : Nat := 53

def minExponent : Int := -1074

def maxExponent : Int := 971

/-! ## Reading -/

/-- A quotient of whole numbers, rounded to the nearest one, and to the even one of two. -/
def roundDiv (num den : Nat) : Nat :=
  let q := num / den
  let twice := 2 * (num % den)
  if twice < den then q else if den < twice then q + 1 else q + q % 2

/-- A quotient `num / (den · 2 ^ exponent)` as a rounded whole number. -/
def scaled (num den : Nat) (exponent : Int) : Nat :=
  if exponent < 0 then roundDiv (num * Nat.pow 2 exponent.natAbs) den
  else roundDiv num (den * Nat.pow 2 exponent.natAbs)

/-- The exponent for which a positive quotient has a mantissa of full size. -/
def fitExponent (num den : Nat) : Int :=
  let guess : Int := (num.log2 : Int) - (den.log2 : Int) - (precision : Int)
  let floor (e : Int) : Nat :=
    if e < 0 then num * Nat.pow 2 e.natAbs / den else num / (den * Nat.pow 2 e.natAbs)
  let exponent := if floor guess < Nat.pow 2 precision then guess else guess + 1
  max exponent minExponent

/-- The number nearest to a quotient. -/
def ofQuotient (negative : Bool) (num den : Nat) : Double :=
  if num = 0 then .finite negative 0 0
  else
    let exponent := fitExponent num den
    let mantissa := scaled num den exponent
    let (mantissa, exponent) :=
      if mantissa < Nat.pow 2 precision then (mantissa, exponent) else (mantissa / 2, exponent + 1)
    if mantissa = 0 then .finite negative 0 0
    else if maxExponent < exponent then .infinite negative
    else .finite negative mantissa exponent

/-- The number nearest to `digits · 10 ^ exponent`. -/
def ofDecimal (negative : Bool) (digits : Nat) (exponent : Int) : Double :=
  if digits = 0 then .finite negative 0 0
  else
    let size : Int := (Nat.toDigits 10 digits).length + exponent
    if 400 < size then .infinite negative
    else if size < -400 then .finite negative 0 0
    else if exponent < 0 then ofQuotient negative digits (Nat.pow 10 exponent.natAbs)
    else ofQuotient negative (digits * Nat.pow 10 exponent.natAbs) 1

/-- The exponent behind an `e`, with an optional sign. -/
def readExponent? : List Char → Option Int
  | [] => some 0
  | 'e' :: rest =>
    let (negative, digits) : Bool × List Char :=
      match rest with
      | '-' :: digits => (true, digits)
      | '+' :: digits => (false, digits)
      | digits => (false, digits)
    if digits ≠ [] ∧ digits.all isDigit then
      some (if negative then -(digitsValue digits : Int) else digitsValue digits)
    else none
  | _ => none

/-- Reads a number in lower-case letters, without its sign. -/
def readUnsigned? (negative : Bool) (text : List Char) : Option Double :=
  if text = ['i', 'n', 'f'] ∨ text = ['i', 'n', 'f', 'i', 'n', 'i', 't', 'y'] then
    some (.infinite negative)
  else if text = ['n', 'a', 'n'] then some .nan
  else
    let (whole, rest) := text.span isDigit
    let (fraction, rest) : List Char × List Char :=
      match rest with
      | '.' :: rest => rest.span isDigit
      | rest => ([], rest)
    if whole = [] ∧ fraction = [] then none
    else (readExponent? rest).map fun exponent =>
      ofDecimal negative (digitsValue (whole ++ fraction)) (exponent - fraction.length)

/-! ## Writing -/

/-- A positive quotient of whole numbers. -/
structure Quotient where
  num : Nat
  den : Nat

def Quotient.ofScaled (n : Nat) (exponent : Int) : Quotient :=
  if exponent < 0 then ⟨n, Nat.pow 2 exponent.natAbs⟩ else ⟨n * Nat.pow 2 exponent.natAbs, 1⟩

def Quotient.shift (q : Quotient) (power : Int) : Quotient :=
  if power < 0 then ⟨q.num, q.den * Nat.pow 10 power.natAbs⟩
  else ⟨q.num * Nat.pow 10 power.natAbs, q.den⟩

/-- The numbers that are nearer to a double than to its neighbours, in quarters of its last
place, and whether the ends belong to them. -/
structure Interval where
  low : Nat
  high : Nat
  closed : Bool

/-- The interval of a mantissa and an exponent. -/
def Interval.of (mantissa : Nat) (exponent : Int) : Interval where
  low := if mantissa = Nat.pow 2 (precision - 1) ∧ minExponent < exponent then 4 * mantissa - 1
    else 4 * mantissa - 2
  high := 4 * mantissa + 2
  closed := mantissa % 2 = 0

/-- Whether a whole number, taken as so many units of a quotient, lies in the interval. Both sides
are compared after clearing the denominators. -/
def Interval.holds (interval : Interval) (candidate : Nat) (unit : Quotient) : Bool :=
  let value := candidate * unit.num
  let low := interval.low * unit.den
  let high := interval.high * unit.den
  if interval.closed then low ≤ value && value ≤ high else low < value && value < high

/-- The exponent of ten of the first digit of a positive quotient; `fuel` bounds the search. -/
def leadingPower (fuel : Nat) (q : Quotient) (power : Int) : Int :=
  match fuel with
  | 0 => power
  | fuel + 1 =>
    let scaled := q.shift (-power)
    if scaled.num < scaled.den then leadingPower fuel q (power - 1)
    else if 10 * scaled.den ≤ scaled.num then leadingPower fuel q (power + 1)
    else power

/-- The decimal of the given number of digits next to the number, as digits and the power of ten
that scales them, if one of them reads back. -/
def withDigits? (mantissa : Nat) (exponent power : Int) (count : Nat) : Option (Nat × Int) :=
  let value := Quotient.ofScaled mantissa exponent
  let scale := power - count + 1
  let cells := value.shift (-scale)
  let below := cells.num / cells.den
  let interval := Interval.of mantissa exponent
  -- One cell of the decimal grid, in quarters of the last place of the mantissa.
  let quarter := Quotient.ofScaled 1 (exponent - 2)
  let unit := (Quotient.mk quarter.den quarter.num).shift scale
  let twice := 2 * (cells.num % cells.den)
  let belowHolds := interval.holds below unit
  let aboveHolds := interval.holds (below + 1) unit
  if belowHolds && (twice < cells.den || (twice = cells.den && below % 2 = 0) || !aboveHolds) then
    some (below, scale)
  else if aboveHolds then some (below + 1, scale)
  else none

/-- The shortest decimal that reads back; seventeen digits always do. -/
def shortest (mantissa : Nat) (exponent : Int) : Nat × Int :=
  let power := leadingPower 700 (Quotient.ofScaled mantissa exponent) 0
  ((List.range 17).findSome? fun i => withDigits? mantissa exponent power (i + 1)).getD (0, 0)

/-- The digits of a number without the zeros at the end, and how many those were. -/
def dropZeros (digits : List Char) : List Char × Nat :=
  let kept := (digits.reverse.dropWhile (· = '0')).reverse
  (kept, digits.length - kept.length)

/-- Digits with a point behind the first `whole` of them. -/
def positional (digits : List Char) (whole : Int) : List Char :=
  if whole ≤ 0 then ['0', '.'] ++ List.replicate whole.natAbs '0' ++ digits
  else
    let whole := whole.toNat
    let front := digits.take whole ++ List.replicate (whole - digits.length) '0'
    front ++ ['.'] ++ (if digits.length ≤ whole then ['0'] else digits.drop whole)

/-- Digits with a point behind the first one and an exponent. -/
def scientific (digits : List Char) (exponent : Int) : List Char :=
  let mantissa := match digits with
    | [] => ['0']
    | [d] => [d]
    | d :: rest => d :: '.' :: rest
  let size := Nat.toDigits 10 exponent.natAbs
  mantissa ++ ['e', if exponent < 0 then '-' else '+']
    ++ List.replicate (2 - size.length) '0' ++ size

def toText : Double → String
  | .nan => "nan"
  | .infinite negative => if negative then "-inf" else "inf"
  | .finite negative mantissa exponent =>
    let body :=
      if mantissa = 0 then ['0', '.', '0']
      else
        let (n, scale) := shortest mantissa exponent
        let (digits, zeros) := dropZeros (Nat.toDigits 10 n)
        let whole : Int := digits.length + scale + zeros
        if -4 < whole ∧ whole ≤ 16 then positional digits whole else scientific digits (whole - 1)
    String.ofList (if negative then '-' :: body else body)

end Double

end ExpectError.Text
