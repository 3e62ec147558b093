/-
# Message digest

The MD5 digest of a text over its UTF-8 bytes, written as 32 lower-case hexadecimal
digits. It names generated metrics by their content.
-/

import ChartQuery.Text.Digit

namespace ChartQuery.Text

/-- The four chaining words of the digest. -/
structure DigestState where
  a : UInt32
  b : UInt32
  c : UInt32
  d : UInt32

/-- The state before the first block. -/
def DigestState.start : DigestState :=
  ⟨0x67452301, 0xefcdab89, 0x98badcfe, 0x10325476⟩

/-- How far each of the sixty-four steps rotates. -/
def digestShifts : Array UInt32 := #[
  7, 12, 17, 22, 7, 12, 17, 22, 7, 12, 17, 22, 7, 12, 17, 22,
  5, 9, 14, 20, 5, 9, 14, 20, 5, 9, 14, 20, 5, 9, 14, 20,
  4, 11, 16, 23, 4, 11, 16, 23, 4, 11, 16, 23, 4, 11, 16, 23,
  6, 10, 15, 21, 6, 10, 15, 21, 6, 10, 15, 21, 6, 10, 15, 21]

/-- The constant that each step adds: the integer part of `2 ^ 32 * |sin (i + 1)|`. -/
def digestConstants : Array UInt32 := #[
  0xd76aa478, 0xe8c7b756, 0x242070db, 0xc1bdceee, 0xf57c0faf, 0x4787c62a, 0xa8304613, 0xfd469501,
  0x698098d8, 0x8b44f7af, 0xffff5bb1, 0x895cd7be, 0x6b901122, 0xfd987193, 0xa679438e, 0x49b40821,
  0xf61e2562, 0xc040b340, 0x265e5a51, 0xe9b6c7aa, 0xd62f105d, 0x02441453, 0xd8a1e681, 0xe7d3fbc8,
  0x21e1cde6, 0xc33707d6, 0xf4d50d87, 0x455a14ed, 0xa9e3e905, 0xfcefa3f8, 0x676f02d9, 0x8d2a4c8a,
  0xfffa3942, 0x8771f681, 0x6d9d6122, 0xfde5380c, 0xa4beea44, 0x4bdecfa9, 0xf6bb4b60, 0xbebfbc70,
  0x289b7ec6, 0xeaa127fa, 0xd4ef3085, 0x04881d05, 0xd9d4d039, 0xe6db99e5, 0x1fa27cf8, 0xc4ac5665,
  0xf4292244, 0x432aff97, 0xab9423a7, 0xfc93a039, 0x655b59c3, 0x8f0ccc92, 0xffeff47d, 0x85845dd1,
  0x6fa87e4f, 0xfe2ce6e0, 0xa3014314, 0x4e0811a1, 0xf7537e82, 0xbd3af235, 0x2ad7d2bb, 0xeb86d391]

/-- One of the sixty-four steps on a block of sixteen words. -/
def DigestState.step (block : Array UInt32) (s : DigestState) (i : Nat) : DigestState :=
  let (mixed, index) :=
    if i < 16 then ((s.b &&& s.c) ||| (~~~s.b &&& s.d), i)
    else if i < 32 then ((s.d &&& s.b) ||| (~~~s.d &&& s.c), (5 * i + 1) % 16)
    else if i < 48 then (s.b ^^^ s.c ^^^ s.d, (3 * i + 5) % 16)
    else (s.c ^^^ (s.b ||| ~~~s.d), (7 * i) % 16)
  let sum := s.a + mixed + digestConstants.getD i 0 + block.getD index 0
  let shift := digestShifts.getD i 0
  ⟨s.d, s.b + ((sum <<< shift) ||| (sum >>> (32 - shift))), s.b, s.c⟩

/-- All steps on one block, added to the state before it. -/
def DigestState.absorb (s : DigestState) (block : Array UInt32) : DigestState :=
  let t := (List.range 64).foldl (DigestState.step block) s
  ⟨s.a + t.a, s.b + t.b, s.c + t.c, s.d + t.d⟩

/-- The `count` lowest bytes of a number, lowest first. -/
def littleEndian : Nat → Nat → List UInt8
  | 0, _ => []
  | count + 1, n => UInt8.ofNat (n % 256) :: littleEndian count (n / 256)

/-- The message with its padding: a set bit, zeros, and the length in bits as eight bytes. -/
def digestPadded (bytes : List UInt8) : List UInt8 :=
  let zeros := (119 - bytes.length % 64) % 64
  bytes ++ 0x80 :: List.replicate zeros 0 ++ littleEndian 8 (bytes.length * 8)

/-- The words of a byte string, four bytes to a word, lowest byte first. -/
def littleEndianWords : List UInt8 → List UInt32
  | b0 :: b1 :: b2 :: b3 :: rest =>
    (b0.toUInt32 ||| (b1.toUInt32 <<< 8) ||| (b2.toUInt32 <<< 16) ||| (b3.toUInt32 <<< 24)) ::
      littleEndianWords rest
  | _ => []

/-- The state after all blocks; `count` is the number of blocks. -/
def DigestState.absorbAll : Nat → DigestState → List UInt32 → DigestState
  | 0, s, _ => s
  | count + 1, s, words =>
    DigestState.absorbAll count (s.absorb (words.take 16).toArray) (words.drop 16)

/-- Two hexadecimal digits for each byte. -/
def hexOfBytes (bytes : List UInt8) : String :=
  String.ofList (bytes.flatMap fun b => [hexDigit (b.toNat / 16), hexDigit (b.toNat % 16)])

/-- The digest of a text in hexadecimal. -/
def digest (text : String) : String :=
  let words := littleEndianWords (digestPadded text.toUTF8.toList)
  let s := DigestState.absorbAll (words.length / 16) .start words
  hexOfBytes ([s.a, s.b, s.c, s.d].flatMap fun w => littleEndian 4 w.toNat)

end ChartQuery.Text
