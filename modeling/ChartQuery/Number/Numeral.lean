/-
# Numerals as people write them

Reading whole numbers and doubles from settings and loosely typed input: blanks around the numeral,
a sign, single underscores between digits, and for doubles a fraction, a power of ten, and the words
for infinity and not-a-number in any case.
-/

import ChartQuery.Number.Binary64
import ChartQuery.Text.Blank
import ChartQuery.Text.Digit
import ChartQuery.Text.Piece

namespace ChartQuery

namespace Numeral

/-- The number of decimal digits up to which whole numbers are turned into texts and back. -/
def digitLimit : Nat := 4300

/-- The whole number has no more digits than can be written. -/
def isWritable (n : Int) : Bool :=
  decide (n.natAbs < Nat.pow 10 digitLimit)

/-- The words for a numeral with more digits than are read. -/
def oversizedWords (digits : Nat) : String :=
  "Exceeds the limit (4300 digits) for integer string conversion: value has " ++ toString digits ++
    " digits; use sys.set_int_max_str_digits() to increase the limit"

/-- A numeral without its sign, and whether the sign was a minus. -/
def splitSign (text : List Char) : Bool × List Char :=
  match text with
  | '-' :: rest => (true, rest)
  | '+' :: rest => (false, rest)
  | _ => (false, text)

/-- The text without its underscores, when each of them stands between two other characters. -/
def withoutUnderscores? (text : List Char) : Option (List Char) :=
  let parts := Text.pieces '_' text
  if parts.all (!·.isEmpty) then some parts.flatten else none

/-- The digits of a whole number whose fraction, if it has a point, is zero. -/
def wholeDigits? (text : List Char) : Option (List Char) :=
  let whole := text.takeWhile (· ≠ '.')
  let fraction := text.drop (whole.length + 1)
  if fraction.all (· = '0') then
    match withoutUnderscores? whole with
    | some digits => if !digits.isEmpty && digits.all Text.isDigit then some digits else none
    | none => none
  else none

/-- The whole number that a text spells. -/
def int? (text : String) : Option Int :=
  let (negative, body) := splitSign (Text.trimmed text.toList)
  match wholeDigits? body with
  | some digits =>
    let n : Int := Text.numberOf 10 digits
    some (if negative then -n else n)
  | none => none

/-- The text spells a whole number, but in more digits than are read; zeros at the front do not
count. -/
def isOversized (text : String) : Bool :=
  let (_, body) := splitSign (Text.trimmed text.toList)
  match wholeDigits? body with
  | some digits => digitLimit < (digits.dropWhile (· = '0')).length
  | none => false

/-- A power of ten behind the digits: nothing, or an `e` with a whole number. -/
def power? (text : List Char) : Option Int :=
  match text with
  | [] => some 0
  | e :: rest =>
    if e = 'e' ∨ e = 'E' then
      let (negative, digits) := splitSign rest
      if !digits.isEmpty && digits.all Text.isDigit then
        let n : Int := Text.numberOf 10 digits
        some (if negative then -n else n)
      else none
    else none

/-- The double that digits with a fraction and a power spell. -/
def decimal? (negative : Bool) (text : List Char) : Option Binary64 :=
  let whole := text.takeWhile Text.isDigit
  let rest := text.dropWhile Text.isDigit
  let (fraction, rest) :=
    match rest with
    | '.' :: more => (more.takeWhile Text.isDigit, more.dropWhile Text.isDigit)
    | _ => ([], rest)
  if whole.isEmpty && fraction.isEmpty then none
  else
    match power? rest with
    | some power =>
      let digits := Text.numberOf 10 (whole ++ fraction)
      some (Binary64.ofDecimal negative digits (power - fraction.length))
    | none => none

/-- The double that a numeral without blanks and underscores spells. -/
def plainFloat? (text : List Char) : Option Binary64 :=
  let (negative, body) := splitSign text
  let word := Text.asciiLower body
  if word = "inf".toList ∨ word = "infinity".toList then some (.infinite negative)
  else if word = "nan".toList then some .notANumber
  else decimal? negative body

/-- The double that a text spells. -/
def float? (text : String) : Option Binary64 :=
  let body := Text.trimmed text.toList
  match plainFloat? body with
  | some x => some x
  | none =>
    match withoutUnderscores? body with
    | some plain => plainFloat? plain
    | none => none

/-- The text without its underscores, when each of them stands between two digits; `behindDigit`
says that the text follows a digit. -/
def withoutGrouping? (behindDigit : Bool) : List Char → Option (List Char)
  | [] => some []
  | c :: rest =>
    if c = '_' then
      match rest with
      | d :: _ => if behindDigit && Text.isDigit d then withoutGrouping? false rest else none
      | [] => none
    else (withoutGrouping? (Text.isDigit c) rest).map (c :: ·)

/-- The double that a text spells whose digits may be grouped by underscores and by nothing else. -/
def grouped? (text : String) : Option Binary64 :=
  let body := ((text.toList.dropWhile Text.isGap).reverse.dropWhile Text.isGap).reverse
  match withoutGrouping? false body with
  | some plain => plainFloat? plain
  | none => none

end Numeral

end ChartQuery
