/-
# Percent-encoding

Characters that may not stand in a part of a url are written as a percent sign with two capital
hexadecimal digits for each byte of their UTF-8 form. Escapes that are already there are kept.
-/

import ChartQuery.Text.Digit

namespace ChartQuery.Text

/-- Two capital hexadecimal digits behind a percent sign. -/
def percentByte (b : UInt8) : List Char :=
  ['%', (hexDigit (b.toNat / 16)).toUpper, (hexDigit (b.toNat % 16)).toUpper]

/-- The escapes of a character's bytes. -/
def percentChar (c : Char) : List Char :=
  (String.ofList [c]).toUTF8.toList.flatMap percentByte

/-- A text with every character escaped that is not allowed. -/
def percentEncoded (allowed : Char → Bool) : List Char → List Char
  | [] => []
  | ['%'] => if allowed '%' then ['%'] else percentChar '%'
  | ['%', a] => (if allowed '%' then ['%'] else percentChar '%') ++ percentEncoded allowed [a]
  | '%' :: a :: b :: rest =>
    if isHexDigit a && isHexDigit b then '%' :: a :: b :: percentEncoded allowed rest
    else (if allowed '%' then ['%'] else percentChar '%') ++ percentEncoded allowed (a :: b :: rest)
  | c :: rest => (if allowed c then [c] else percentChar c) ++ percentEncoded allowed rest

end ChartQuery.Text
