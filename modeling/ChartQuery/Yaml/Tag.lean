/-
# Tags

A tag says of what type a node is. A scalar that has none and is not quoted gets one from its form:
the forms of truth values, numbers, dates, null and the two keys with a meaning are recognised,
everything else is text. The forms are strict, so that `1e3`, `08` or `2020-1-1` are text.
-/

import ChartQuery.Text.Digit
import ChartQuery.Text.Piece

namespace ChartQuery.Yaml

/-- The types of nodes that have a meaning of their own. -/
inductive NodeType where
  | null
  | bool
  | int
  | float
  | binary
  | timestamp
  | orderedMap
  | pairs
  | set
  | text
  | sequence
  | mapping
  | merge
  | value
  deriving DecidableEq, Repr

/-- What the tags of these types begin with. -/
def coreTagHead : String := "tag:yaml.org,2002:"

/-- The last part of a type's tag. -/
def NodeType.tagEnd : NodeType → String
  | .null => "null"
  | .bool => "bool"
  | .int => "int"
  | .float => "float"
  | .binary => "binary"
  | .timestamp => "timestamp"
  | .orderedMap => "omap"
  | .pairs => "pairs"
  | .set => "set"
  | .text => "str"
  | .sequence => "seq"
  | .mapping => "map"
  | .merge => "merge"
  | .value => "value"

/-- All of these types. -/
def NodeType.all : List NodeType :=
  [.null, .bool, .int, .float, .binary, .timestamp, .orderedMap, .pairs, .set, .text, .sequence,
    .mapping, .merge, .value]

/-- The tag of a type. -/
def NodeType.tag (t : NodeType) : String :=
  coreTagHead ++ t.tagEnd

/-- A tag: of a type with a meaning, or any other. -/
inductive Tag where
  | known (type : NodeType)
  | foreign (tag : String)
  deriving DecidableEq, Repr

/-- The tag that a text writes down. -/
def Tag.ofText (text : String) : Tag :=
  match NodeType.all.find? (·.tag == text) with
  | some type => .known type
  | none => .foreign text

namespace ScalarForm

/-- The words that are truth values. -/
def boolWords : List String :=
  ["yes", "Yes", "YES", "no", "No", "NO", "true", "True", "TRUE", "false", "False", "FALSE", "on",
    "On", "ON", "off", "Off", "OFF"]

/-- The words that are null. -/
def nullWords : List String := ["", "~", "null", "Null", "NULL"]

/-- The text behind a sign, if it has one. -/
def unsigned (text : List Char) : List Char :=
  match text with
  | '-' :: rest => rest
  | '+' :: rest => rest
  | _ => text

/-- A digit or an underscore. -/
def isDigitOrGap (c : Char) : Bool :=
  Text.isDigit c || c == '_'

/-- A digit followed by digits and underscores. -/
def isGappedNumber : List Char → Bool
  | [] => false
  | c :: rest => Text.isDigit c && rest.all isDigitOrGap

/-- A digit other than zero followed by digits and underscores. -/
def isGappedNumberWithoutZero (text : List Char) : Bool :=
  isGappedNumber text && text.head? != some '0'

/-- A number below sixty in one or two digits. -/
def isSixtieth : List Char → Bool
  | [c] => Text.isDigit c
  | [c, d] => decide ('0' ≤ c ∧ c ≤ '5') && Text.isDigit d
  | _ => false

/-- Parts with colons between them, all but the first below sixty; there are at least two. -/
def isSexagesimal (first : List Char → Bool) (text : List Char) : Bool :=
  match Text.pieces ':' text with
  | head :: next :: rest => first head && (next :: rest).all isSixtieth
  | _ => false

/-- A power of ten with a sign, or nothing. -/
def isPower : List Char → Bool
  | [] => true
  | e :: sign :: digits =>
    (e == 'e' || e == 'E') && (sign == '-' || sign == '+') && !digits.isEmpty &&
      digits.all Text.isDigit
  | _ => false

/-- Digits and underscores with a power behind them. -/
def isFraction (text : List Char) : Bool :=
  isPower (text.dropWhile isDigitOrGap)

/-- The form of a double. -/
def isFloat (text : List Char) : Bool :=
  let body := unsigned text
  let whole := body.takeWhile (· ≠ '.')
  let rest := body.drop (whole.length + 1)
  let hasPoint := whole.length < body.length
  hasPoint &&
    ((isGappedNumber whole && isFraction rest) ||
      (isSexagesimal isGappedNumber whole && rest.all isDigitOrGap) ||
      (whole.isEmpty && (rest == "inf".toList || rest == "Inf".toList || rest == "INF".toList)) ||
      (text.head? == some '.' &&
        ((rest.head?.any Text.isDigit && isFraction rest) ||
          rest == "nan".toList || rest == "NaN".toList || rest == "NAN".toList)))

/-- The digits of a base behind its sign, at least one. -/
def isBased (sign : Char) (isDigit : Char → Bool) (body : List Char) : Bool :=
  match body with
  | '0' :: c :: digits => c == sign && !digits.isEmpty && digits.all fun d => isDigit d || d == '_'
  | _ => false

/-- A digit below eight. -/
def isOctalDigit (c : Char) : Bool :=
  decide ('0' ≤ c ∧ c ≤ '7')

/-- The form of a whole number: binary, octal, decimal, hexadecimal or in sixtieths. -/
def isInt (text : List Char) : Bool :=
  let body := unsigned text
  isBased 'b' (fun c => c == '0' || c == '1') body ||
    (match body with
      | '0' :: digits => digits.all fun c => isOctalDigit c || c == '_'
      | _ => false) ||
    isGappedNumberWithoutZero body ||
    isBased 'x' Text.isHexDigit body ||
    isSexagesimal isGappedNumberWithoutZero body

end ScalarForm

end ChartQuery.Yaml
