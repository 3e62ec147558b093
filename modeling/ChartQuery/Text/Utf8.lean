/-
# Decoding UTF-8

The characters that a byte string encodes, or the first place where it is no UTF-8 with the reason.
Overlong forms, surrogates and codes beyond the last plane are refused.
-/

namespace ChartQuery.Text

/-- Why bytes are no UTF-8. -/
inductive Utf8Reason where
  | startByte
  | continuationByte
  | endOfData
  deriving DecidableEq, Repr

/-- The bytes that are no UTF-8: their place, their number, the first of them, and the reason. -/
structure Utf8Failure where
  position : Nat
  count : Nat
  first : UInt8
  reason : Utf8Reason
  deriving DecidableEq, Repr

/-- The words for a reason. -/
def Utf8Reason.message : Utf8Reason → String
  | .startByte => "invalid start byte"
  | .continuationByte => "invalid continuation byte"
  | .endOfData => "unexpected end of data"

/-- The smallest and largest second byte after a first byte. -/
def secondByteRange (first : UInt8) : UInt8 × UInt8 :=
  if first = 0xE0 then (0xA0, 0xBF)
  else if first = 0xED then (0x80, 0x9F)
  else if first = 0xF0 then (0x90, 0xBF)
  else if first = 0xF4 then (0x80, 0x8F)
  else (0x80, 0xBF)

/-- How many bytes follow a first byte; none for a byte that opens no character. -/
def followers? (first : UInt8) : Option Nat :=
  if first < 0x80 then some 0
  else if first < 0xC2 then none
  else if first < 0xE0 then some 1
  else if first < 0xF0 then some 2
  else if first < 0xF5 then some 3
  else none

/-- The bits that a first byte contributes. -/
def firstBits (first : UInt8) (count : Nat) : Nat :=
  match count with
  | 0 => first.toNat
  | 1 => first.toNat % 0x20
  | 2 => first.toNat % 0x10
  | _ => first.toNat % 0x08

/-- What the bytes behind a first byte give. -/
inductive Utf8Tail where
  | code (n : Nat) (rest : List UInt8)
  | broken (count : Nat) (reason : Utf8Reason)

/-- The `count` bytes behind a first byte; `range` bounds the next one and `used` counts those
already taken, the first byte included. -/
def utf8Tail (range : UInt8 × UInt8) (used code : Nat) : Nat → List UInt8 → Utf8Tail
  | 0, rest => .code code rest
  | _ + 1, [] => .broken used .endOfData
  | count + 1, b :: rest =>
    if range.1 ≤ b ∧ b ≤ range.2 then
      utf8Tail (0x80, 0xBF) (used + 1) (code * 0x40 + b.toNat % 0x40) count rest
    else .broken used .continuationByte

/-- The characters of the bytes from `position` on; `bound` is at least the number of bytes. -/
def decodeUtf8From : Nat → Nat → List UInt8 → Except Utf8Failure (List Char)
  | 0, _, _ => .ok []
  | _, _, [] => .ok []
  | bound + 1, position, first :: rest =>
    match followers? first with
    | none => .error ⟨position, 1, first, .startByte⟩
    | some count =>
      match utf8Tail (secondByteRange first) 1 (firstBits first count) count rest with
      | .broken used reason => .error ⟨position, used, first, reason⟩
      | .code n after =>
        match decodeUtf8From bound (position + count + 1) after with
        | .error e => .error e
        | .ok chars => .ok (Char.ofNat n :: chars)

/-- The characters that bytes encode. -/
def decodeUtf8 (bytes : List UInt8) : Except Utf8Failure (List Char) :=
  decodeUtf8From bytes.length 0 bytes

end ChartQuery.Text
