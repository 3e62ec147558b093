/-
# Writing JSON

The JSON text of a value in one of three layouts: on one line without blanks, or with one item to a
line and an indentation, with or without characters beyond ASCII. A value that JSON cannot express
is refused with the reason, a value that `Value.IsJson` holds of only for a number in it: a whole
one with too many digits, or one without a finite value in a layout that takes none. How deep a
value is nested is never a reason.
-/

import ChartQuery.Value.Display

namespace ChartQuery.Json

/-- How a JSON text is laid out. -/
structure Layout where
  /-- The blanks that one level of nesting adds; without it everything stands on one line. -/
  indent : Option Nat
  /-- Characters beyond ASCII are written as escapes. -/
  asciiOnly : Bool
  /-- Numbers without a finite value are refused. -/
  finiteOnly : Bool

/-- One line, all characters as they are. -/
def Layout.compact : Layout := ⟨none, false, true⟩

/-- Two blanks to a level, escapes beyond ASCII. -/
def Layout.listing : Layout := ⟨some 2, true, false⟩

/-- Two blanks to a level, all characters as they are. -/
def Layout.report : Layout := ⟨some 2, false, false⟩

/-- Why a value has no JSON text. -/
inductive Unwritable where
  | value (kind : String)
  | key (kind : String)
  | number (x : Binary64)
  | digits
  | circular
  deriving Repr

/-- The words for a refusal. -/
def Unwritable.message : Unwritable → String
  | .value kind => "Object of type " ++ kind ++ " is not JSON serializable"
  | .key kind => "keys must be str, int, float, bool or None, not " ++ kind
  | .number x => "Out of range float values are not JSON compliant: " ++ x.text
  | .digits =>
    "Exceeds the limit (4300 digits) for integer string conversion; use " ++
      "sys.set_int_max_str_digits() to increase the limit"
  | .circular => "Circular reference detected"

/-- The escape of a UTF-16 unit. -/
def unitEscape (unit : Nat) : List Char :=
  '\\' :: 'u' :: (Text.hexPadded 4 unit).toList

/-- The escape of a character, as two units beyond the sixteen-bit range. -/
def charEscape (c : Char) : List Char :=
  if c.toNat < 0x10000 then unitEscape c.toNat
  else
    let n := c.toNat - 0x10000
    unitEscape (0xD800 + n / 0x400) ++ unitEscape (0xDC00 + n % 0x400)

/-- One character of a string. -/
def stringChar (asciiOnly : Bool) (c : Char) : List Char :=
  if c = Text.doubleQuote ∨ c = '\\' then ['\\', c]
  else if c = '\n' then ['\\', 'n']
  else if c = '\r' then ['\\', 'r']
  else if c = '\t' then ['\\', 't']
  else if c.toNat = 8 then ['\\', 'b']
  else if c.toNat = 12 then ['\\', 'f']
  else if c.toNat < 32 then charEscape c
  else if asciiOnly && 126 < c.toNat then charEscape c
  else [c]

/-- One code point of a string. Half of a surrogate pair is a unit by itself. -/
def stringPoint (asciiOnly : Bool) : Point → List Point
  | .char c => (stringChar asciiOnly c).map .char
  | .half n => if asciiOnly then (unitEscape (Point.half n).code).map .char else [.half n]

/-- A string with its marks. -/
def stringText (asciiOnly : Bool) (s : Text) : Text :=
  Text.ofList
    (.char Text.doubleQuote ::
      (s.toList.flatMap (stringPoint asciiOnly) ++ [.char Text.doubleQuote]))

/-- The text of a number of the binary64 format. -/
def numberText : Binary64 → String
  | .infinite negative => if negative then "-Infinity" else "Infinity"
  | .notANumber => "NaN"
  | x => x.text

/-- The text of a whole number, unless it has too many digits. -/
def intText (n : Int) : Except Unwritable Text :=
  if Numeral.isWritable n then .ok (toString n) else .error .digits

/-- A number is finite. -/
def isFinite : Binary64 → Bool
  | .finite _ _ _ => true
  | _ => false

/-- The text under which a key is written. -/
def keyText : Value → Except Unwritable Text
  | .text s => .ok s
  | .null => .ok "null"
  | .bool b => .ok (if b then "true" else "false")
  | .int n => intText n
  | .float x => .ok (numberText x)
  | v => .error (.key v.kindName)

/-- What stands before an item at a depth of nesting. -/
def lineStart (layout : Layout) (depth : Nat) : Text :=
  match layout.indent with
  | none => ""
  | some width => Text.ofList (.char '\n' :: List.replicate (width * depth) (.char ' '))

/-- What stands between a key and its value. -/
def keySeparator (layout : Layout) : Text :=
  match layout.indent with
  | none => ":"
  | some _ => ": "

mutual

/-- The text of a value at a depth of nesting. A collection that holds itself is refused where it is
met again, unless something in front of that is. -/
def written (layout : Layout) (depth : Nat) : Value → Except Unwritable Text
  | .null => .ok "null"
  | .bool b => .ok (if b then "true" else "false")
  | .int n => intText n
  | .float x =>
    if layout.finiteOnly && !isFinite x then .error (.number x) else .ok (numberText x)
  | .text s => .ok (stringText layout.asciiOnly s)
  | .list [] => .ok "[]"
  | .list (x :: xs) =>
    match written layout (depth + 1) x with
    | .error e => .error e
    | .ok first =>
      match writtenItems layout (depth + 1) xs with
      | .error e => .error e
      | .ok rest =>
        .ok ("[" ++ lineStart layout (depth + 1) ++ first ++ rest ++ lineStart layout depth ++ "]")
  | .object [] => .ok "\x7b\x7d"
  | .object ((k, v) :: fs) =>
    match keyText k with
    | .error e => .error e
    | .ok key =>
      match written layout (depth + 1) v with
      | .error e => .error e
      | .ok value =>
        match writtenFields layout (depth + 1) fs with
        | .error e => .error e
        | .ok rest =>
          .ok ("\x7b" ++ lineStart layout (depth + 1) ++ stringText layout.asciiOnly key ++
            keySeparator layout ++ value ++ rest ++ lineStart layout depth ++ "\x7d")
  | .cyclic _ v =>
    match written layout depth v with
    | .error e => .error e
    | .ok _ => .error .circular
  | v => .error (.value v.kindName)
termination_by structural v => v

/-- The further items of a list, each after a comma. -/
def writtenItems (layout : Layout) (depth : Nat) : List Value → Except Unwritable Text
  | [] => .ok ""
  | x :: xs =>
    match written layout depth x with
    | .error e => .error e
    | .ok first =>
      match writtenItems layout depth xs with
      | .error e => .error e
      | .ok rest => .ok ("," ++ lineStart layout depth ++ first ++ rest)
termination_by structural xs => xs

/-- The further fields of an object, each after a comma. -/
def writtenFields (layout : Layout) (depth : Nat) :
    List (Value × Value) → Except Unwritable Text
  | [] => .ok ""
  | (k, v) :: fs =>
    match keyText k with
    | .error e => .error e
    | .ok key =>
      match written layout depth v with
      | .error e => .error e
      | .ok value =>
        match writtenFields layout depth fs with
        | .error e => .error e
        | .ok rest =>
          .ok ("," ++ lineStart layout depth ++ stringText layout.asciiOnly key ++
            keySeparator layout ++ value ++ rest)
termination_by structural fs => fs

end

/-- The JSON text of a value, or why there is none. -/
def write (layout : Layout) (v : Value) : Except Unwritable Text :=
  written layout 0 v

end ChartQuery.Json
