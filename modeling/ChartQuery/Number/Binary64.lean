/-
# Double-precision numbers

Numbers of the binary64 format as exact values: a sign with `mantissa * 2 ^ exponent`, an infinity,
or not a number. The only operation with a rounding is `round`, which takes a quotient of naturals
to the nearest number of the format, a tie to the even mantissa; sums, products and decimal
numerals are exact quotients first and are rounded once.

Finite values are kept in the format's own form: the mantissa has 53 bits, or fewer with the least
exponent. Equal finite values other than the two zeros are therefore equal as data.
-/

namespace ChartQuery

/-- A number of the binary64 format. -/
inductive Binary64 where
  | finite (negative : Bool) (mantissa : Nat) (exponent : Int)
  | infinite (negative : Bool)
  | notANumber
  deriving DecidableEq, Repr, Inhabited

namespace Binary64

/-- The exponent of the smallest positive number. -/
def leastExponent : Int := -1074

/-- The exponent of the largest finite numbers. -/
def greatestExponent : Int := 971

/-- Zero with a sign. -/
def zero (negative : Bool) : Binary64 :=
  .finite negative 0 leastExponent

/-- The quotient rounded to a natural number, a tie to the even neighbour. -/
def roundQuotient (num den : Nat) : Nat :=
  let q := num / den
  let r := num % den
  if den < 2 * r then q + 1
  else if 2 * r < den then q
  else q + q % 2

/-- `num / den / 2 ^ e` as a pair of naturals. -/
def scaledBy (num den : Nat) (e : Int) : Nat × Nat :=
  match e with
  | .ofNat k => (num, den * Nat.pow 2 k)
  | .negSucc k => (num * Nat.pow 2 (k + 1), den)

/-- The exponent under which the quotient has 53 bits before the point, but at least the least
one. -/
def exponentFor (num den : Nat) : Int :=
  let guess : Int := (Nat.log2 num : Int) - (Nat.log2 den : Int) - 52
  let (n, d) := scaledBy num den guess
  let e := if n < Nat.pow 2 52 * d then guess - 1 else guess
  if e < leastExponent then leastExponent else e

/-- The number of the format nearest to `num / den`. -/
def round (negative : Bool) (num den : Nat) : Binary64 :=
  if num = 0 then zero negative
  else
    let e := exponentFor num den
    let (n, d) := scaledBy num den e
    let m := roundQuotient n d
    let (m, e) := if m = Nat.pow 2 53 then (Nat.pow 2 52, e + 1) else (m, e)
    if greatestExponent < e then .infinite negative else .finite negative m e

/-- The number nearest to `digits * 10 ^ scale`. Scales far outside the format's range are answered
without forming the power. -/
def ofDecimal (negative : Bool) (digits : Nat) (scale : Int) : Binary64 :=
  let magnitude : Int := (Nat.toDigits 10 digits).length + scale
  if digits = 0 then zero negative
  else if 400 < magnitude then .infinite negative
  else if magnitude < -400 then zero negative
  else
    match scale with
    | .ofNat k => round negative (digits * Nat.pow 10 k) 1
    | .negSucc k => round negative digits (Nat.pow 10 (k + 1))

/-- The number nearest to an integer. -/
def ofInt (n : Int) : Binary64 :=
  round (n < 0) n.natAbs 1

/-- The magnitude as a quotient of naturals. -/
def quotient (mantissa : Nat) (exponent : Int) : Nat × Nat :=
  match exponent with
  | .ofNat k => (mantissa * Nat.pow 2 k, 1)
  | .negSucc k => (mantissa, Nat.pow 2 (k + 1))

/-- The value is a whole number; then this is it. -/
def toInt? : Binary64 → Option Int
  | .finite negative m e =>
    let (n, d) := quotient m e
    if n % d = 0 then some (if negative then -(n / d : Int) else (n / d : Int)) else none
  | _ => none

/-- The value is zero, whatever its sign. -/
def isZero : Binary64 → Bool
  | .finite _ m _ => m == 0
  | _ => false

/-- The opposite number. -/
def neg : Binary64 → Binary64
  | .finite negative m e => .finite (!negative) m e
  | .infinite negative => .infinite (!negative)
  | .notANumber => .notANumber

/-- A signed dyadic value rounded; an exact zero is positive. -/
def ofDyadic (value : Int) (e : Int) : Binary64 :=
  let (n, d) := quotient value.natAbs e
  round (value < 0) n d

/-- The mantissa with its sign. -/
def signedMantissa (negative : Bool) (m : Nat) : Int :=
  if negative then -(m : Int) else m

/-- The rounded sum. -/
def add : Binary64 → Binary64 → Binary64
  | .notANumber, _ => .notANumber
  | _, .notANumber => .notANumber
  | .infinite s, .infinite t => if s = t then .infinite s else .notANumber
  | .infinite s, _ => .infinite s
  | _, .infinite t => .infinite t
  | .finite s m e, .finite t n f =>
    let least := min e f
    let x := signedMantissa s m * Nat.pow 2 (e - least).toNat
    let y := signedMantissa t n * Nat.pow 2 (f - least).toNat
    if x + y = 0 then zero (s && t) else ofDyadic (x + y) least

/-- The rounded product. -/
def mul : Binary64 → Binary64 → Binary64
  | .notANumber, _ => .notANumber
  | _, .notANumber => .notANumber
  | .infinite s, .infinite t => .infinite (s != t)
  | .infinite s, .finite t n _ => if n = 0 then .notANumber else .infinite (s != t)
  | .finite s m _, .infinite t => if m = 0 then .notANumber else .infinite (s != t)
  | .finite s m e, .finite t n f =>
    let (p, d) := quotient (m * n) (e + f)
    round (s != t) p d

end Binary64

end ChartQuery
