/-
# Digits

Reading and writing natural numbers in a given base. Only ASCII digits count, whatever other
digits Unicode knows.
-/

namespace ChartQuery.Text

/-- The value of a digit of any base up to sixteen. -/
def digitValue? (c : Char) : Option Nat :=
  if '0' ≤ c ∧ c ≤ '9' then some (c.toNat - 48)
  else if 'a' ≤ c ∧ c ≤ 'f' then some (c.toNat - 87)
  else if 'A' ≤ c ∧ c ≤ 'F' then some (c.toNat - 55)
  else none

/-- One of the ten decimal digits of ASCII. -/
def isDigit (c : Char) : Bool :=
  decide ('0' ≤ c) && decide (c ≤ '9')

/-- A hexadecimal digit in either case. -/
def isHexDigit (c : Char) : Bool :=
  (digitValue? c).isSome

/-- The number that digits of the given base spell; characters that are no digits count as zero. -/
def numberOf (base : Nat) (digits : List Char) : Nat :=
  digits.foldl (fun acc c => acc * base + (digitValue? c).getD 0) 0

/-- The digit of a value below sixteen, in lower case. -/
def hexDigit (n : Nat) : Char :=
  if n < 10 then Char.ofNat (48 + n) else Char.ofNat (87 + n)

/-- A number in hexadecimal with at least `width` digits. -/
def hexPadded (width n : Nat) : String :=
  let digits := Nat.toDigits 16 n
  String.ofList (List.replicate (width - digits.length) '0' ++ digits)

/-- A number in decimal with at least `width` digits. -/
def decimalPadded (width n : Nat) : String :=
  let digits := Nat.toDigits 10 n
  String.ofList (List.replicate (width - digits.length) '0' ++ digits)

end ChartQuery.Text
