/-
# Reading JSON

The value that a JSON text stands for, or the first place where the text is no JSON. Of equal keys
the last value counts, at the place of the first. Beyond the standard the words `NaN`, `Infinity`
and `-Infinity` are numbers, one byte order mark may open the text, and the escape of half a
surrogate pair is kept. Whole numbers are read up to a number of digits.

The reader walks over a list of characters. Its recursion is bounded by a number that starts at the
length of the text and falls with every bracket, so the bound is never the reason of a failure.
-/

import ChartQuery.Number.Numeral
import ChartQuery.Value.Basic
import ChartQuery.Text.Quoted

namespace ChartQuery.Json

/-- What is wrong with a JSON text. -/
inductive Fault where
  | expectingValue
  | expectingKey
  | expectingColon
  | expectingComma
  | unterminatedString
  | controlCharacter
  | badEscape
  | badUnitEscape
  | extraData
  | oversizedNumber (digits : Nat)
  deriving DecidableEq, Repr

/-- The words for a fault. -/
def Fault.message : Fault → String
  | .expectingValue => "Expecting value"
  | .expectingKey => "Expecting property name enclosed in double quotes"
  | .expectingColon => "Expecting ':' delimiter"
  | .expectingComma => "Expecting ',' delimiter"
  | .unterminatedString => "Unterminated string starting at"
  | .controlCharacter => "Invalid control character at"
  | .badEscape => "Invalid \\escape"
  | .badUnitEscape => "Invalid \\uXXXX escape"
  | .extraData => "Extra data"
  | .oversizedNumber digits => Numeral.oversizedWords digits

/-- A fault with the part of the text that starts where it was found. -/
structure Failure where
  fault : Fault
  rest : List Char
  deriving Repr

/-- A reading step: the result and the part of the text after it. -/
abbrev Step (α : Type) := Except Failure (α × List Char)

/-- Blank space between tokens. -/
def isBlank (c : Char) : Bool :=
  c == ' ' || c == '\t' || c == '\n' || c == '\r'

/-- The text after its leading blank space. -/
def skipBlanks (text : List Char) : List Char :=
  text.dropWhile isBlank

/-- The code of a four-digit escape at the head of a text. -/
def unitAt? : List Char → Option (Nat × List Char)
  | a :: b :: c :: d :: rest =>
    if [a, b, c, d].all Text.isHexDigit then some (Text.numberOf 16 [a, b, c, d], rest) else none
  | _ => none

/-- The code point of an escape whose first unit has been read; two units that form a pair stand for
one character. -/
def pairedPoint (unit : Nat) (rest : List Char) : Point × List Char :=
  if 0xD800 ≤ unit ∧ unit < 0xDC00 then
    match rest with
    | '\\' :: 'u' :: more =>
      match unitAt? more with
      | some (low, after) =>
        if 0xDC00 ≤ low ∧ low < 0xE000 then
          (.char (Char.ofNat (0x10000 + (unit - 0xD800) * 0x400 + (low - 0xDC00))), after)
        else (.ofCode unit, rest)
      | none => (.ofCode unit, rest)
    | _ => (.ofCode unit, rest)
  else (.ofCode unit, rest)

/-- The character of a one-letter escape. -/
def shortEscape? (c : Char) : Option Char :=
  if c = Text.doubleQuote ∨ c = '\\' ∨ c = '/' then some c
  else if c = 'b' then some (Char.ofNat 8)
  else if c = 'f' then some (Char.ofNat 12)
  else if c = 'n' then some '\n'
  else if c = 'r' then some '\r'
  else if c = 't' then some '\t'
  else none

/-- The code points of a string up to its closing mark. `opening` is the text from the opening mark
on; `bound` is at least the number of characters left. -/
def stringPoints (opening : List Char) : Nat → List Point → List Char → Step (List Point)
  | 0, _, _ => .error ⟨.unterminatedString, opening⟩
  | bound + 1, read, text =>
    match text with
    | [] => .error ⟨.unterminatedString, opening⟩
    | c :: rest =>
      if c = Text.doubleQuote then .ok (read.reverse, rest)
      else if c.toNat < 32 then .error ⟨.controlCharacter, text⟩
      else if c = '\\' then
        match rest with
        | [] => .error ⟨.unterminatedString, opening⟩
        | 'u' :: more =>
          match unitAt? more with
          | some (unit, after) =>
            let (point, left) := pairedPoint unit after
            stringPoints opening bound (point :: read) left
          | none => .error ⟨.badUnitEscape, rest⟩
        | e :: more =>
          match shortEscape? e with
          | some char => stringPoints opening bound (.char char :: read) more
          | none => .error ⟨.badEscape, text⟩
      else stringPoints opening bound (.char c :: read) rest

/-- The string whose opening mark is the first of `text`. -/
def string (text rest : List Char) : Step Text :=
  match stringPoints text (rest.length + 1) [] rest with
  | .error e => .error e
  | .ok (points, after) => .ok (Text.ofList points, after)

/-- The digits at the head of a text. -/
def digitsOf (text : List Char) : List Char × List Char :=
  (text.takeWhile Text.isDigit, text.dropWhile Text.isDigit)

/-- The digits of a fraction at the head of a text, none when there is no point with a digit. -/
def fractionOf (text : List Char) : List Char × List Char :=
  match text with
  | '.' :: d :: rest => if Text.isDigit d then digitsOf (d :: rest) else ([], text)
  | _ => ([], text)

/-- The power of ten at the head of a text. -/
def exponentOf (text : List Char) : Option Int × List Char :=
  match text with
  | [] => (none, text)
  | e :: rest =>
    if e = 'e' ∨ e = 'E' then
      let (negative, body) :=
        match rest with
        | '-' :: more => (true, more)
        | '+' :: more => (false, more)
        | _ => (false, rest)
      match digitsOf body with
      | ([], _) => (none, text)
      | (digits, after) =>
        let n : Int := Text.numberOf 10 digits
        (some (if negative then -n else n), after)
    else (none, text)

/-- A whole number by its digits, unless there are too many of them. -/
def wholeNumber (negative : Bool) (digits after : List Char) : Step Value :=
  if Numeral.digitLimit < digits.length then .error ⟨.oversizedNumber digits.length, after⟩
  else
    let n : Int := Text.numberOf 10 digits
    .ok (.int (if negative then -n else n), after)

/-- The number at the head of a text behind its sign. It is whole when it has neither a fraction nor
a power. -/
def number? (negative : Bool) (text : List Char) : Option (Step Value) :=
  let integer :=
    match text with
    | '0' :: rest => (['0'], rest)
    | _ => digitsOf text
  match integer with
  | ([], _) => none
  | (whole, afterWhole) =>
    let (fraction, afterFraction) := fractionOf afterWhole
    let (power, after) := exponentOf afterFraction
    match fraction, power with
    | [], none => some (wholeNumber negative whole after)
    | _, _ =>
      let digits := Text.numberOf 10 (whole ++ fraction)
      let x := Binary64.ofDecimal negative digits (power.getD 0 - fraction.length)
      some (.ok (.float x, after))

/-- The words that stand for a value. -/
def words : List (String × Value) :=
  [("null", .null), ("true", .bool true), ("false", .bool false), ("NaN", .float .notANumber),
    ("Infinity", .float (.infinite false)), ("-Infinity", .float (.infinite true))]

/-- The word at the head of a text. -/
def word? (text : List Char) : Option (Value × List Char) :=
  (words.find? fun w => w.1.toList.isPrefixOf text).map fun w => (w.2, text.drop w.1.length)

/-- The value at the head of a text that is neither a string nor a collection. -/
def scalar (text : List Char) : Step Value :=
  match word? text with
  | some found => .ok found
  | none =>
    let found :=
      match text with
      | '-' :: rest => number? true rest
      | _ => number? false text
    match found with
    | some step => step
    | none => .error ⟨.expectingValue, text⟩

mutual

/-- The value at the head of a text. -/
def value : Nat → List Char → Step Value
  | 0, text => .error ⟨.expectingValue, text⟩
  | bound + 1, text =>
    match text with
    | '[' :: rest =>
      match skipBlanks rest with
      | ']' :: after => .ok (.list [], after)
      | more =>
        match items bound [] more with
        | .error e => .error e
        | .ok (xs, after) => .ok (.list xs, after)
    | '{' :: rest =>
      match skipBlanks rest with
      | '}' :: after => .ok (.object [], after)
      | more =>
        match fields bound [] more with
        | .error e => .error e
        | .ok (fs, after) => .ok (.object fs, after)
    | '"' :: rest =>
      match string text rest with
      | .error e => .error e
      | .ok (s, after) => .ok (.text s, after)
    | _ => scalar text
termination_by structural bound => bound

/-- The items of a list from one item on, behind those already read. -/
def items : Nat → List Value → List Char → Step (List Value)
  | 0, _, text => .error ⟨.expectingValue, text⟩
  | bound + 1, read, text =>
    match value bound text with
    | .error e => .error e
    | .ok (v, rest) =>
      match skipBlanks rest with
      | ']' :: after => .ok ((v :: read).reverse, after)
      | ',' :: after => items bound (v :: read) (skipBlanks after)
      | other => .error ⟨.expectingComma, other⟩
termination_by structural bound => bound

/-- The fields of an object from one key on, added to those already read. -/
def fields : Nat → Fields → List Char → Step Fields
  | 0, _, text => .error ⟨.expectingKey, text⟩
  | bound + 1, read, text =>
    match text with
    | '"' :: rest =>
      match string text rest with
      | .error e => .error e
      | .ok (key, afterKey) =>
        match skipBlanks afterKey with
        | ':' :: afterColon =>
          match value bound (skipBlanks afterColon) with
          | .error e => .error e
          | .ok (v, afterValue) =>
            let all := Value.setField (.text key) v read
            match skipBlanks afterValue with
            | '}' :: after => .ok (all, after)
            | ',' :: after => fields bound all (skipBlanks after)
            | other => .error ⟨.expectingComma, other⟩
        | other => .error ⟨.expectingColon, other⟩
    | _ => .error ⟨.expectingKey, text⟩
termination_by structural bound => bound

end

/-- The value of a whole text. -/
def readChars (text : List Char) : Except Failure Value :=
  match value (2 * text.length + 2) (skipBlanks text) with
  | .error e => .error e
  | .ok (v, rest) =>
    match skipBlanks rest with
    | [] => .ok v
    | other => .error ⟨.extraData, other⟩

/-- The text without a byte order mark at its head. -/
def withoutMark (text : List Char) : List Char :=
  match text with
  | c :: rest => if c.toNat = 0xFEFF then rest else text
  | [] => []

/-- The words for a failure, with the place in the whole text unless it is about a number. -/
def Failure.message (whole : List Char) (e : Failure) : String :=
  let offset := whole.length - e.rest.length
  let before := whole.take offset
  let line := before.count '\n' + 1
  let column := (before.reverse.takeWhile (· ≠ '\n')).length + 1
  match e.fault with
  | .oversizedNumber digits => Numeral.oversizedWords digits
  | fault =>
    fault.message ++ ": line " ++ toString line ++ " column " ++ toString column ++ " (char " ++
      toString offset ++ ")"

/-- What is wrong with a text, and the words for it. -/
structure Refusal where
  fault : Fault
  words : String
  deriving Repr

/-- The value of a text, or what is wrong with it. -/
def read (text : String) : Except Refusal Value :=
  let chars := withoutMark text.toList
  match readChars chars with
  | .ok v => .ok v
  | .error e => .error ⟨e.fault, e.message chars⟩

end ChartQuery.Json
