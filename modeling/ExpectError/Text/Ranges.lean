/-!
# Sets of characters given by ranges

A property of characters that a standard fixes by enumeration is kept as the list of its ranges.
-/

namespace ExpectError.Text

/-- A set of characters: inclusive ranges of code points, in increasing order. -/
abbrev Ranges := List (Nat × Nat)

/-- Whether a character lies in one of the ranges. -/
def Ranges.covers (ranges : Ranges) (c : Char) : Bool :=
  ranges.any fun (low, high) => low ≤ c.toNat && c.toNat ≤ high

end ExpectError.Text
