/-
# Values of scalars

The value of a scalar's text under each type, and the type of a plain text by its form. Under an
explicit tag a text may have any form; then it is read as leniently as its type allows, or it has no
value.
-/

import ChartQuery.Number.Numeral
import ChartQuery.Text.Case
import ChartQuery.Yaml.Moment
import ChartQuery.Yaml.Tag

namespace ChartQuery.Yaml

/-- The form of a day or a moment. -/
def ScalarForm.isTimestamp (text : List Char) : Bool :=
  (Moment.ofText? text).any Moment.isRecognised

/-- The type of a plain scalar by its form. -/
def NodeType.ofPlain (text : String) : NodeType :=
  let chars := text.toList
  if ScalarForm.boolWords.contains text then .bool
  else if ScalarForm.isFloat chars then .float
  else if ScalarForm.isInt chars then .int
  else if text = "<<" then .merge
  else if ScalarForm.nullWords.contains text then .null
  else if ScalarForm.isTimestamp chars then .timestamp
  else if text = "=" then .value
  else .text

/-- The type of a plain scalar by its form; half of a surrogate pair belongs to no form. -/
def NodeType.ofText (text : Text) : NodeType :=
  match text.string? with
  | some s => ofPlain s
  | none => .text

namespace Scalar

/-- The words of truth values in small letters. -/
def boolOfWord? (word : Text) : Option Bool :=
  if word = "yes" ∨ word = "true" ∨ word = "on" then some true
  else if word = "no" ∨ word = "false" ∨ word = "off" then some false
  else none

/-- A truth value. -/
def bool (text : Text) : Except ScalarFault Value :=
  let word := Text.lower text
  match boolOfWord? word with
  | some b => .ok (.bool b)
  | none => .error (.noBool word)

/-- The letter that may stand behind a zero before the digits of a base. -/
def baseLetter? (base : Nat) : Option Char :=
  if base = 2 then some 'b' else if base = 8 then some 'o' else if base = 16 then some 'x' else none

/-- The text without the sign of its base. -/
def withoutBaseSign (base : Nat) (text : List Char) : List Char :=
  match text with
  | '0' :: c :: rest => if some c.toLower = baseLetter? base then rest else text
  | _ => text

/-- A character is a digit of a base. -/
def isDigitOf (base : Nat) (c : Char) : Bool :=
  (Text.digitValue? c).any (· < base)

/-- A whole number in a base, with blanks around it and a sign before it. In decimal digits it may
not be too long. -/
def intIn (base : Nat) (text : List Char) : Except ScalarFault Int :=
  let (negative, body) := Numeral.splitSign (Text.trimmed text)
  let digits := withoutBaseSign base body
  if !digits.isEmpty && digits.all (isDigitOf base) then
    if base = 10 ∧ Numeral.digitLimit < digits.length then .error (.oversizedInt digits.length)
    else
      let n : Int := Text.numberOf base digits
      .ok (if negative then -n else n)
  else .error (.noInt base (String.ofList text))

/-- The amount of parts in sixtieths, the most significant one first. -/
def sexagesimal (parts : List Int) : Int :=
  parts.foldl (fun amount part => amount * 60 + part) 0

/-- A number's text without underscores and sign, and whether the sign was a minus. -/
def splitNumber (text : List Char) : Except ScalarFault (Bool × List Char) :=
  match text.filter (· ≠ '_') with
  | [] => .error .emptyNumber
  | c :: rest =>
    if c = '-' then .ok (true, rest)
    else if c = '+' then .ok (false, rest)
    else .ok (false, c :: rest)

/-- The magnitude of a whole number. -/
def magnitude (text : List Char) : Except ScalarFault Int :=
  match text with
  | [] => .error .emptyNumber
  | ['0'] => .ok 0
  | '0' :: 'b' :: digits => intIn 2 digits
  | '0' :: 'x' :: digits => intIn 16 digits
  | '0' :: _ => intIn 8 text
  | _ =>
    if text.contains ':' then
      ((Text.pieces ':' text).mapM (intIn 10)).map sexagesimal
    else intIn 10 text

/-- A number's text without underscores and sign, whatever else it holds. -/
def withoutSign (text : List Point) : List Point :=
  match text.filter (· ≠ .char '_') with
  | .char '-' :: rest => rest
  | .char '+' :: rest => rest
  | all => all

/-- The first part between colons that is no number, and the fault in it; a part that holds half of
a surrogate pair never is one. -/
def firstFault {α : Type} (read : List Char → Except ScalarFault α)
    (halved : List Point → ScalarFault) (text : List Point) : ScalarFault :=
  let faultOf := fun (part : List Point) =>
    match Text.characters? part with
    | none => some (halved part)
    | some chars =>
      match read chars with
      | .error fault => some fault
      | .ok _ => none
  ((Text.pieces (.char ':') text).findSome? faultOf).getD (halved text)

/-- Why a text with half of a surrogate pair is no whole number. -/
def halvedInt (text : List Point) : ScalarFault :=
  let fault := fun base digits => ScalarFault.noInt base (Text.ofList digits)
  match withoutSign text with
  | .char '0' :: .char 'b' :: digits => fault 2 digits
  | .char '0' :: .char 'x' :: digits => fault 16 digits
  | .char '0' :: digits => fault 8 (.char '0' :: digits)
  | body => firstFault (intIn 10) (fault 10) body

/-- A whole number. -/
def int (text : Text) : Except ScalarFault Value :=
  match text.string? with
  | none => .error (halvedInt text.toList)
  | some s => do
    let (negative, body) ← splitNumber s.toList
    let n ← magnitude body
    .ok (.int (if negative then -n else n))

/-- A double in decimal digits. -/
def decimal (text : List Char) : Except ScalarFault Binary64 :=
  match Numeral.plainFloat? (Text.trimmed text) with
  | some x => .ok x
  | none => .error (.noFloat (String.ofList text))

/-- The rounded sum of parts in sixtieths, the least significant one first. -/
def sexagesimalFloat : Int → Binary64 → List Binary64 → Binary64
  | _, sum, [] => sum
  | unit, sum, part :: rest =>
    sexagesimalFloat (unit * 60) (sum.add (part.mul (Binary64.ofInt unit))) rest

/-- The magnitude of a double. -/
def floatMagnitude (text : List Char) : Except ScalarFault Binary64 :=
  if text = ".inf".toList then .ok (.infinite false)
  else if text = ".nan".toList then .ok .notANumber
  else if text.contains ':' then
    ((Text.pieces ':' text).mapM decimal).map fun parts =>
      sexagesimalFloat 1 (Binary64.zero false) parts.reverse
  else decimal text

/-- A double. -/
def float (text : Text) : Except ScalarFault Value :=
  let small := Text.lower text
  match small.string? with
  | none =>
    let fault := fun part => ScalarFault.noFloat (Text.ofList part)
    .error (firstFault decimal fault (withoutSign small.toList))
  | some s => do
    let (negative, body) ← splitNumber s.toList
    let x ← floatMagnitude body
    .ok (.float (if negative then x.neg else x))

/-- A day or a moment. -/
def timestamp (text : Text) : Except ScalarFault Value :=
  match text.string?.bind fun s => Moment.ofText? s.toList with
  | some m => m.value
  | none => .error .noTimestamp

/-- The value of a character in base 64. -/
def base64Value? (c : Char) : Option Nat :=
  if 'A' ≤ c ∧ c ≤ 'Z' then some (c.toNat - 65)
  else if 'a' ≤ c ∧ c ≤ 'z' then some (c.toNat - 71)
  else if Text.isDigit c then some (c.toNat + 4)
  else if c = '+' then some 62
  else if c = '/' then some 63
  else none

/-- Why a text is no base 64. -/
inductive Base64Fault where
  | padding
  | length (count : Nat)

/-- The words for a fault. -/
def Base64Fault.words : Base64Fault → String
  | .padding => "Incorrect padding"
  | .length count =>
    "Invalid base64-encoded string: number of data characters (" ++ toString count ++
      ") cannot be 1 more than a multiple of 4"

/-- The bytes of a text in base 64. Characters that mean nothing are passed over, as are further
ones after complete padding. `place` is the place in the group of four, `carried` the bits left
over, `pads` the padding met, and `count` the characters used. -/
def base64From (place carried pads count : Nat) : List Char → Except Base64Fault (List UInt8)
  | [] =>
    if place = 0 then .ok []
    else if place = 1 then .error (.length count)
    else .error .padding
  | c :: rest =>
    if c = '=' then
      if 2 ≤ place ∧ 4 ≤ place + pads + 1 then .ok []
      else base64From place carried (if 2 ≤ place then pads + 1 else pads) count rest
    else
      match base64Value? c with
      | none => base64From place carried pads count rest
      | some v =>
        if place = 0 then base64From 1 v 0 (count + 1) rest
        else
          let byte :=
            if place = 1 then carried * 4 + v / 16
            else if place = 2 then carried * 16 + v / 4
            else carried * 64 + v
          let left := if place = 1 then v % 16 else if place = 2 then v % 4 else 0
          match base64From (if place = 3 then 0 else place + 1) left 0 (count + 1) rest with
          | .error e => .error e
          | .ok bytes => .ok (UInt8.ofNat byte :: bytes)

/-- The words for code points that base 64 cannot hold: the first run of them. -/
def foreignWords (text : List Point) : String :=
  let isForeign := fun (p : Point) => 127 < p.code
  let before := text.takeWhile fun p => !isForeign p
  let run := (text.drop before.length).takeWhile isForeign
  let start := before.length
  "'ascii' codec can't encode " ++
    (match run with
      | [p] =>
        "character " ++
          (Text.singleQuote.toString ++
            (if p.code < 0x100 then "\\x" ++ Text.hexPadded 2 p.code
            else if p.code < 0x10000 then "\\u" ++ Text.hexPadded 4 p.code
            else "\\U" ++ Text.hexPadded 8 p.code) ++ Text.singleQuote.toString) ++
          " in position " ++ toString start
      | _ =>
        "characters in position " ++ toString start ++ "-" ++ toString (start + run.length - 1)) ++
    ": ordinal not in range(128)"

/-- The bytes of a text in base 64, or the problem with it. -/
def binary (text : Text) : Except Problem Value :=
  if text.toList.any fun p => 127 < p.code then .error (.foreignBase64 (foreignWords text.toList))
  else
    match base64From 0 0 0 0 (Text.characters text.toList) with
    | .ok bytes => .ok (.bytes bytes)
    | .error fault => .error (.badBase64 fault.words)

end Scalar

end ChartQuery.Yaml
