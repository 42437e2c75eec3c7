/-!
# The Mersenne twister

The generator of 32-bit words with period 2^19937 - 1. Its state is a block of 624 words and the
place of the next word to be used; when the block is used up, the next one is made from it. A seed
of any size is laid out as 32-bit words, lowest first.
-/

namespace ExpectError.Random

def blockSize : Nat := 624

/-- The state of the generator. -/
structure Twister where
  block : Array UInt32
  next : Nat

namespace Twister

def word (block : Array UInt32) (i : Nat) : UInt32 :=
  block.getD i 0

/-- The top bit of one word with the other bits of the next, passed through the generator's
matrix. -/
def mix (high low : UInt32) : UInt32 :=
  let y := (high &&& 0x80000000) ||| (low &&& 0x7FFFFFFF)
  (y >>> 1) ^^^ (if y &&& 1 = 0 then 0 else 0x9908B0DF)

def renew (block : Array UInt32) : Array UInt32 :=
  (List.range blockSize).foldl
    (fun block i =>
      let value := word block ((i + 397) % blockSize)
        ^^^ mix (word block i) (word block ((i + 1) % blockSize))
      block.setIfInBounds i value)
    block

/-- Evens out the bits of a word of the block. -/
def temper (y : UInt32) : UInt32 :=
  let y := y ^^^ (y >>> 11)
  let y := y ^^^ ((y <<< 7) &&& 0x9D2C5680)
  let y := y ^^^ ((y <<< 15) &&& 0xEFC60000)
  y ^^^ (y >>> 18)

def draw (t : Twister) : UInt32 × Twister :=
  let t : Twister := if t.next < blockSize then t else ⟨renew t.block, 0⟩
  (temper (word t.block t.next), { t with next := t.next + 1 })

/-! ## Seeding -/

/-- The block that a single word gives. -/
def ofWord (seed : UInt32) : Array UInt32 :=
  (List.range (blockSize - 1)).foldl
    (fun (block : Array UInt32) i =>
      let last := word block i
      block.push ((last ^^^ (last >>> 30)) * 1812433253 + UInt32.ofNat (i + 1)))
    #[seed]

/-- The 32-bit words of a number, lowest first; `fuel` bounds how many there are. -/
def words (fuel n : Nat) : List UInt32 :=
  match fuel with
  | 0 => []
  | fuel + 1 => UInt32.ofNat (n % 2 ^ 32) :: if n < 2 ^ 32 then [] else words fuel (n / 2 ^ 32)

/-- A block in the course of being mixed, with the places in the block and in the key. -/
structure Mixing where
  block : Array UInt32
  i : Nat
  j : Nat

/-- Goes on to the next place of the block, carrying the last word over to the first. -/
def Mixing.advance (m : Mixing) (block : Array UInt32) : Mixing :=
  if m.i + 1 < blockSize then { m with block, i := m.i + 1 }
  else { m with block := block.setIfInBounds 0 (word block (blockSize - 1)), i := 1 }

/-- Mixes one word of the key into the block. -/
def Mixing.absorb (key : Array UInt32) (m : Mixing) : Mixing :=
  let last := word m.block (m.i - 1)
  let value := (word m.block m.i ^^^ ((last ^^^ (last >>> 30)) * 1664525))
    + word key m.j + UInt32.ofNat m.j
  let j := if m.j + 1 < key.size then m.j + 1 else 0
  { m.advance (m.block.setIfInBounds m.i value) with j }

def Mixing.spread (m : Mixing) : Mixing :=
  let last := word m.block (m.i - 1)
  let value := (word m.block m.i ^^^ ((last ^^^ (last >>> 30)) * 1566083941)) - UInt32.ofNat m.i
  m.advance (m.block.setIfInBounds m.i value)

def ofKey (key : Array UInt32) : Twister :=
  let start : Mixing := ⟨ofWord 19650218, 1, 0⟩
  let absorbed := (List.range (max blockSize key.size)).foldl (fun m _ => m.absorb key) start
  let spread := (List.range (blockSize - 1)).foldl (fun m _ => m.spread) absorbed
  ⟨spread.block.setIfInBounds 0 0x80000000, blockSize⟩

/-- The generator for a seed; its sign does not count. -/
def ofSeed (seed : Int) : Twister :=
  ofKey (words (seed.natAbs.log2 + 1) seed.natAbs).toArray

end Twister

end ExpectError.Random
