/-
# The shortest decimal numeral

The text of a double: the fewest significant digits that read back as the same number, and of those
the ones nearest to it. Numbers from `0.0001` up to below `10 ^ 16` are written positionally with at
least one digit after the point, all others with a power of ten of at least two digits.
-/

import ChartQuery.Number.Binary64
import ChartQuery.Text.Digit

namespace ChartQuery

namespace Binary64

/-- `num / den / 10 ^ k` as a pair of naturals. -/
def decimallyScaled (num den : Nat) (k : Int) : Nat × Nat :=
  match k with
  | .ofNat j => (num, den * Nat.pow 10 j)
  | .negSucc j => (num * Nat.pow 10 (j + 1), den)

/-- The place of the first significant digit of a positive quotient: `10 ^ k ≤ num / den`
and the quotient is below `10 ^ (k + 1)`. -/
def leadingPlace (num den : Nat) : Int :=
  let guess : Int := (Nat.toDigits 10 num).length - (Nat.toDigits 10 den).length
  let (n, d) := decimallyScaled num den guess
  if n < d then guess - 1 else guess

/-- The better of the two neighbours of the value on the grid `10 ^ k` that reads back as `x`. -/
def readingBack (x : Binary64) (num den : Nat) (k : Int) : Option Nat :=
  let (n, d) := decimallyScaled num den k
  let low := n / d
  let lowFits := decide (ofDecimal false low k = x)
  let highFits := decide (ofDecimal false (low + 1) k = x)
  if lowFits && highFits then
    let r := n % d
    if 2 * r < d then some low
    else if d < 2 * r then some (low + 1)
    else some (low + low % 2)
  else if lowFits then some low
  else if highFits then some (low + 1)
  else none

/-- Search for the least number of digits, from `count` on, with `fuel` further tries. -/
def shortestFrom (x : Binary64) (num den : Nat) (lead : Int) : Nat → Nat → Nat × Int
  | 0, count => ((decimallyScaled num den (lead - count)).1, lead - count)
  | fuel + 1, count =>
    let k := lead - count
    match readingBack x num den k with
    | some digits => (digits, k)
    | none => shortestFrom x num den lead fuel (count + 1)

/-- The shortest digits of a positive finite number and the place of the last of them. -/
def shortest (mantissa : Nat) (exponent : Int) : Nat × Int :=
  let (num, den) := quotient mantissa exponent
  shortestFrom (.finite false mantissa exponent) num den (leadingPlace num den) 20 0

/-- Digits without the zeros at their end, with the number of zeros dropped. -/
def trimmedDigits (digits : List Char) : List Char × Nat :=
  let kept := (digits.reverse.dropWhile (· = '0')).reverse
  (kept, digits.length - kept.length)

/-- The numeral of significant digits whose first one stands at place `lead`. -/
def positional (digits : List Char) (lead : Int) : String :=
  match lead with
  | .negSucc k => "0." ++ String.ofList (List.replicate k '0' ++ digits)
  | .ofNat k =>
    let whole := digits.take (k + 1) ++ List.replicate (k + 1 - digits.length) '0'
    let rest := digits.drop (k + 1)
    String.ofList whole ++ "." ++ String.ofList (if rest.isEmpty then ['0'] else rest)

/-- The numeral with one digit before the point and a power of ten. -/
def scientific (digits : List Char) (lead : Int) : String :=
  let mantissa :=
    match digits with
    | [] => "0"
    | [d] => String.ofList [d]
    | d :: rest => String.ofList (d :: '.' :: rest)
  let sign := if lead < 0 then "-" else "+"
  mantissa ++ "e" ++ sign ++ Text.decimalPadded 2 lead.natAbs

/-- The numeral of a non-negative finite number. -/
def magnitudeText (mantissa : Nat) (exponent : Int) : String :=
  if mantissa = 0 then "0.0"
  else
    let (number, last) := shortest mantissa exponent
    let all := Nat.toDigits 10 number
    let lead : Int := last + (all.length : Int) - 1
    let digits := (trimmedDigits all).1
    if -4 ≤ lead ∧ lead < 16 then positional digits lead else scientific digits lead

/-- The text of a number. -/
def text : Binary64 → String
  | .finite negative m e => (if negative then "-" else "") ++ magnitudeText m e
  | .infinite negative => if negative then "-inf" else "inf"
  | .notANumber => "nan"

end Binary64

end ChartQuery
