import ExpectError.Text.Quoted

/-!
# UTF-8

Bytes become text exactly if they are well-formed UTF-8. Where they are not, the first fault is
named: the bytes at fault and the reason.

Text becomes bytes unless it holds half of a surrogate pair. Such a half has a code but is no
character, so no well-formed file holds one; a text gets it from an escape in a file of settings or
from a word of the command line. Here a character that occurs in no file stands for it, and which
character stands for which half is for the caller to say.
-/

namespace ExpectError.Text

inductive DecodeReason where
  | startByte
  | continuationByte
  | endOfData
  deriving DecidableEq, Repr

def DecodeReason.message : DecodeReason → String
  | .startByte => "invalid start byte"
  | .continuationByte => "invalid continuation byte"
  | .endOfData => "unexpected end of data"

/-- The first fault of bytes that are no UTF-8: where it starts, the byte there, and how many
bytes are at fault. -/
structure DecodeFault where
  position : Nat
  byte : UInt8
  length : Nat
  reason : DecodeReason
  deriving DecidableEq, Repr

def DecodeFault.message (fault : DecodeFault) : String :=
  let place :=
    if fault.length = 1 then
      "byte 0x" ++ hex 2 fault.byte.toNat ++ " in position " ++ toString fault.position
    else
      "bytes in position " ++ toString fault.position ++ "-"
        ++ toString (fault.position + fault.length - 1)
  "'utf-8' codec can't decode " ++ place ++ ": " ++ fault.reason.message

def isContinuation (b : UInt8) : Bool :=
  0x80 ≤ b && b < 0xC0

/-- The bytes that may follow a first byte: how many in all, and the range of the next one. -/
def sequenceShape (first : UInt8) : Option (Nat × UInt8 × UInt8) :=
  if first < 0xC2 then none
  else if first < 0xE0 then some (1, 0x80, 0xBF)
  else if first = 0xE0 then some (2, 0xA0, 0xBF)
  else if first = 0xED then some (2, 0x80, 0x9F)
  else if first < 0xF0 then some (2, 0x80, 0xBF)
  else if first = 0xF0 then some (3, 0x90, 0xBF)
  else if first < 0xF4 then some (3, 0x80, 0xBF)
  else if first = 0xF4 then some (3, 0x80, 0x8F)
  else none

/-- Checks the bytes behind a first byte: what is left behind the character, or the number of
bytes at fault and the reason. -/
def checkSequence (count : Nat) (low high : UInt8) (rest : List UInt8) :
    Except (Nat × DecodeReason) (List UInt8) :=
  match rest with
  | [] => .error (1, .endOfData)
  | b :: more =>
    if b < low || high < b then .error (1, .continuationByte)
    else
      let good := (more.take (count - 1)).takeWhile isContinuation
      if good.length = count - 1 then .ok (more.drop (count - 1))
      else if good.length = more.length then .error (2 + good.length, .endOfData)
      else .error (2 + good.length, .continuationByte)

/-- The first fault at or behind a position; `fuel` bounds the number of characters. -/
def findFault (fuel position : Nat) (bytes : List UInt8) : Option DecodeFault :=
  match fuel, bytes with
  | 0, _ => none
  | _, [] => none
  | fuel + 1, b :: rest =>
    if b < 0x80 then findFault fuel (position + 1) rest
    else match sequenceShape b with
      | none => some ⟨position, b, 1, .startByte⟩
      | some (count, low, high) =>
        match checkSequence count low high rest with
        | .error (length, reason) => some ⟨position, b, length, reason⟩
        | .ok rest => findFault fuel (position + 1 + count) rest

/-- The text that the bytes encode. -/
def decode (bytes : ByteArray) : Except DecodeFault String :=
  match String.fromUTF8? bytes with
  | some s => .ok s
  | none =>
    let fallback : DecodeFault := ⟨bytes.size, 0, 1, .endOfData⟩
    .error ((findFault bytes.size 0 bytes.toList).getD fallback)

/-! ## Encoding -/

/-- Half of a surrogate pair, and the character that stands for it. -/
structure Half where
  code : Nat
  standIn : Char
  deriving DecidableEq, Repr

/-- The half that a character stands for. -/
def half? (halves : List Half) (c : Char) : Option Half :=
  halves.find? fun half => half.standIn = c

/-- The first fault of a text that has no encoding: where it starts, the half there, and how many
halves stand in a row. -/
structure EncodeFault where
  position : Nat
  code : Nat
  length : Nat
  deriving DecidableEq, Repr

def EncodeFault.message (fault : EncodeFault) : String :=
  let place :=
    if fault.length = 1 then
      "character '\\u" ++ hex 4 fault.code ++ "' in position " ++ toString fault.position
    else
      "characters in position " ++ toString fault.position ++ "-"
        ++ toString (fault.position + fault.length - 1)
  "'utf-8' codec can't encode " ++ place ++ ": surrogates not allowed"

/-- The first halves in a text that starts at a position. -/
def findHalves (halves : List Half) (position : Nat) : List Char → Option EncodeFault
  | [] => none
  | c :: rest =>
    match half? halves c with
    | none => findHalves halves (position + 1) rest
    | some half =>
      let more := rest.takeWhile fun c => (half? halves c).isSome
      some ⟨position, half.code, 1 + more.length⟩

/-- The bytes that encode a text. -/
def encode (halves : List Half) (text : String) : Except EncodeFault ByteArray :=
  match findHalves halves 0 text.toList with
  | none => .ok text.toUTF8
  | some fault => .error fault

end ExpectError.Text
