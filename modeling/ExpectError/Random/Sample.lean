import ExpectError.Text.Integer

/-!
# Drawing without replacement

Positions are drawn from a source of 32-bit words. A number below a bound comes from the top bits
of a word, or from several words if it has more bits, drawn again while it is too large. A sample
of a small list takes the drawn position out of a pool and moves the last one into the gap; a
sample of a large list draws again while it meets a position that it already has. Only the
positions depend on the source, and they are distinct either way.

A source may in principle never give a usable word. Then a draw never comes to its end, and there
is no result. Where words come from when no seed is given is for the caller to say.
-/

namespace ExpectError.Random

/-- A source of words with a state of type `σ`. -/
abbrev WordSource (σ : Type) := σ → UInt32 × σ

section Bits

variable {σ : Type} (draw : WordSource σ)

/-- The top bits of the next word, at most 32 of them. -/
def topBits (count : Nat) (state : σ) : Nat × σ :=
  let (word, state) := draw state
  (word.toNat >>> (32 - count), state)

/-- So many bits behind a number of whole words, which are the lower ones. -/
def bitsBehind : Nat → Nat → σ → Nat × σ
  | 0, count, state => topBits draw count state
  | words + 1, count, state =>
    let (low, state) := draw state
    let (high, state) := bitsBehind words (count - 32) state
    ((high <<< 32) + low.toNat, state)

/-- A number of so many random bits, the lower ones first. -/
def bits (count : Nat) (state : σ) : Nat × σ :=
  bitsBehind draw ((count - 1) / 32) count state

end Bits

/-- A number below a bound that also passes a test: numbers of as many bits as the bound has are
drawn until one does. -/
def WordSource.drawUntil {σ : Type} (draw : WordSource σ) (accept : Nat → Bool) (bound : Nat)
    (state : σ) : Option (Nat × σ) :=
  let (value, state) := bits draw (bound.log2 + 1) state
  if value < bound && accept value then some (value, state)
  else draw |>.drawUntil accept bound state
partial_fixpoint

section Positions

variable {σ : Type} (draw : WordSource σ)

/-- So many positions out of a pool: the place of a drawn one is filled with the last one. -/
def fromPool : Nat → List Nat → σ → Option (List Nat × σ)
  | 0, _, state => some ([], state)
  | count + 1, pool, state => do
    let (j, state) ← draw.drawUntil (fun _ => true) pool.length state
    let position ← pool[j]?
    let last ← pool.getLast?
    let (rest, state) ← fromPool count (pool.set j last).dropLast state
    return (position :: rest, state)

/-- So many positions below a bound, other than those already taken. -/
def fromRange (bound : Nat) : Nat → List Nat → σ → Option (List Nat × σ)
  | 0, _, state => some ([], state)
  | count + 1, taken, state => do
    let (j, state) ← draw.drawUntil (fun j => !taken.contains j) bound state
    let (rest, state) ← fromRange bound count (j :: taken) state
    return (j :: rest, state)

end Positions

/-- The smallest power of four that is not below a number; `fuel` bounds the exponent. -/
def powerOfFour (n : Nat) : Nat → Nat → Nat
  | 0, power => power
  | fuel + 1, power => if n ≤ power then power else powerOfFour n fuel (4 * power)

/-- The size up to which a list is small for samples of a given size. -/
def poolLimit (count : Nat) : Nat :=
  if count ≤ 5 then 21 else 21 + powerOfFour (3 * count) (3 * count) 1

/-- Distinct positions in a list of the given size. -/
def positions {σ : Type} (draw : WordSource σ) (size count : Nat) (state : σ) :
    Option (List Nat × σ) :=
  if size ≤ poolLimit count then fromPool draw count (List.range size) state
  else fromRange draw size count [] state

/-- Why there is no sample. -/
inductive SampleError where
  /-- The size is negative or larger than the list. -/
  | outOfBounds (count : Int) (size : Nat)
  /-- The size is out of bounds too, but has more digits than can be put into words. -/
  | unwritable
  /-- The source never gives a usable word. -/
  | unfinished
  deriving DecidableEq, Repr

def SampleError.message : SampleError → String
  | .outOfBounds count size =>
    "Cannot sample " ++ toString count ++ " item(s) from a population of " ++ toString size
  | .unwritable =>
    "Exceeds the limit (4300 digits) for integer string conversion; "
      ++ "use sys.set_int_max_str_digits() to increase the limit"
  | .unfinished => "The random source gives no usable word"

/-- What becomes of a size that is out of bounds. The refusal names it, which can fail in turn. -/
def refusal (count : Int) (size : Nat) : SampleError :=
  if Text.isWritable count then .outOfBounds count size else .unwritable

/-- A sample of a list, and the state of the source behind it. A sample that is refused draws
nothing. -/
def sample {α σ : Type} (draw : WordSource σ) (items : List α) (count : Int) (state : σ) :
    Except SampleError (List α) × σ :=
  if count < 0 ∨ (items.length : Int) < count then
    (.error (refusal count items.length), state)
  else match positions draw items.length count.toNat state with
    | none => (.error .unfinished, state)
    | some (picked, state) => (.ok (picked.filterMap (items[·]?)), state)

/-- Samples for several requests, each a list and a size, from one source. -/
def sampleEach {α σ : Type} (draw : WordSource σ) :
    List (List α × Int) → σ → List (Except SampleError (List α)) × σ
  | [], state => ([], state)
  | (items, count) :: requests, state =>
    let (outcome, state) := sample draw items count state
    let (outcomes, state) := sampleEach draw requests state
    (outcome :: outcomes, state)

end ExpectError.Random
