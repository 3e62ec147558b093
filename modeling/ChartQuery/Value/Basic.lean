/-
# Dynamic values

What a file or a reply can hold before anything is known about its meaning. An object is a list of
fields in the order in which their keys first appeared; a key may be any value, because mappings
outside JSON have such keys. A collection that holds itself further inside is unrolled as far as
anybody looks, and marked by the place where it begins (`Value.cyclic`). `Value.IsJson` singles out
the values that JSON can express.
-/

import ChartQuery.Number.Shortest
import ChartQuery.Text.Piece

namespace ChartQuery

/-- A calendar day. -/
structure Date where
  year : Nat
  month : Nat
  day : Nat
  deriving DecidableEq, Repr, Inhabited

/-- A moment of a day, with its distance from universal time in minutes if it states one. -/
structure Timestamp where
  date : Date
  hour : Nat
  minute : Nat
  second : Nat
  microsecond : Nat
  offset : Option Int
  deriving DecidableEq, Repr, Inhabited

/-- A value of unknown meaning. -/
inductive Value where
  | null
  | bool (b : Bool)
  | int (n : Int)
  | float (x : Binary64)
  | text (s : Text)
  | bytes (bs : List UInt8)
  | date (d : Date)
  | timestamp (t : Timestamp)
  | list (items : List Value)
  | set (items : List Value)
  | object (fields : List (Value × Value))
  | cyclic (place : Nat) (copy : Value)
  deriving Repr, Inhabited

/-- The fields of an object in order. -/
abbrev Fields := List (Value × Value)

namespace Value

/-- The value without the mark of a collection that holds itself. -/
def unmarked : Value → Value
  | .cyclic _ v => v
  | v => v

/-- The fields of an object; other values have none. -/
def fields : Value → Fields
  | .object fs => fs
  | .cyclic _ v => fields v
  | _ => []

/-- An object with text keys. -/
def ofFields (fields : List (Text × Value)) : Value :=
  .object (fields.map fun (k, v) => (.text k, v))

/-- A text, or null when there is none. -/
def ofText? : Option Text → Value
  | some s => .text s
  | none => .null

/-- A truth value, or null when there is none. -/
def ofBool? : Option Bool → Value
  | some b => .bool b
  | none => .null

/-- The number that a key stands for: truth values count as zero and one. -/
def numericKey? : Value → Option Binary64
  | .bool b => some (Binary64.ofInt (if b then 1 else 0))
  | .int n => some (Binary64.ofInt n)
  | .float x => some x
  | _ => none

/-- Two keys name the same field. Numbers and truth values are compared by their amount. -/
def sameKey : Value → Value → Bool
  | .null, .null => true
  | .text a, .text b => a == b
  | .int a, .int b => a == b
  | .bytes a, .bytes b => a == b
  | .date a, .date b => a == b
  | .timestamp a, .timestamp b => a == b
  | a, b =>
    match numericKey? a, numericKey? b with
    | some x, some y => x == y && x != .notANumber || (x.isZero && y.isZero)
    | _, _ => false

/-- A value that may be a key: collections may not. -/
def isKey : Value → Bool
  | .list _ => false
  | .set _ => false
  | .object _ => false
  | .cyclic _ _ => false
  | _ => true

/-- The value under a text key. -/
def field? (key : Text) : Fields → Option Value
  | [] => none
  | (.text k, v) :: rest => if k = key then some v else field? key rest
  | _ :: rest => field? key rest

/-- The fields with one more: a known key keeps its place and takes the new value. -/
def setField (key value : Value) : Fields → Fields
  | [] => [(key, value)]
  | (k, v) :: rest =>
    if sameKey k key then (k, value) :: rest else (k, v) :: setField key value rest

/-- The fields after a sequence of additions, where later values win and first places stay. -/
def ofEntries (entries : Fields) : Fields :=
  entries.foldl (fun fields (k, v) => setField k v fields) []

/-- The value counts as present: null, false, zero and everything empty do not. -/
def isTruthy : Value → Bool
  | .null => false
  | .bool b => b
  | .int n => n != 0
  | .float x => !x.isZero
  | .text s => !s.isEmpty
  | .bytes bs => !bs.isEmpty
  | .date _ => true
  | .timestamp _ => true
  | .list xs => !xs.isEmpty
  | .set xs => !xs.isEmpty
  | .object fs => !fs.isEmpty
  | .cyclic _ v => isTruthy v

/-- What a value gives one after another: the items of a list, the keys of an object, the characters
of a text. Other values give nothing that could be counted. -/
def items? : Value → Option (List Value)
  | .list xs => some xs
  | .set xs => some xs
  | .object fields => some (fields.map (·.1))
  | .text s => some (s.toList.map fun c => .text (Text.ofList [c]))
  | .bytes bs => some (bs.map fun b => .int b.toNat)
  | .cyclic _ v => items? v
  | _ => none

/-- A text is among the items or keys of a value, or is a part of it. Values that are no collections
hold nothing. -/
def holds? (needle : Text) : Value → Option Bool
  | .list xs => some (xs.any (sameKey (.text needle)))
  | .set xs => some (xs.any (sameKey (.text needle)))
  | .object fields => some (field? needle fields).isSome
  | .text s => some (Text.occursIn needle.toList s.toList)
  | .cyclic _ v => holds? needle v
  | _ => none

mutual

/-- The value is one of those that JSON can express. -/
def IsJson : Value → Prop
  | .null => True
  | .bool _ => True
  | .int _ => True
  | .float _ => True
  | .text _ => True
  | .bytes _ => False
  | .date _ => False
  | .timestamp _ => False
  | .list xs => AreJson xs
  | .set _ => False
  | .object fs => FieldsAreJson fs
  | .cyclic _ _ => False
termination_by structural v => v

/-- All items are values that JSON can express. -/
def AreJson : List Value → Prop
  | [] => True
  | x :: xs => IsJson x ∧ AreJson xs
termination_by structural xs => xs

/-- All fields have text keys and values that JSON can express. -/
def FieldsAreJson : List (Value × Value) → Prop
  | [] => True
  | (k, v) :: rest => (∃ s, k = .text s) ∧ IsJson v ∧ FieldsAreJson rest
termination_by structural fs => fs

end

mutual

/-- The value holds the mark of a place. -/
def isMarked (place : Nat) : Value → Bool
  | .list xs => areMarked place xs
  | .set xs => areMarked place xs
  | .object fs => fieldsAreMarked place fs
  | .cyclic here v => here == place || isMarked place v
  | _ => false
termination_by structural v => v

/-- One of the items holds the mark. -/
def areMarked (place : Nat) : List Value → Bool
  | [] => false
  | x :: xs => isMarked place x || areMarked place xs
termination_by structural xs => xs

/-- One of the fields holds the mark. -/
def fieldsAreMarked (place : Nat) : List (Value × Value) → Bool
  | [] => false
  | (k, v) :: rest => isMarked place k || isMarked place v || fieldsAreMarked place rest
termination_by structural fs => fs

end

end Value

namespace Date

/-- Year, month and day with dashes between them. -/
def iso (d : Date) : String :=
  Text.decimalPadded 4 d.year ++ "-" ++ Text.decimalPadded 2 d.month ++ "-" ++
    Text.decimalPadded 2 d.day

/-- The year has a day more in February. -/
def isLeapYear (year : Nat) : Bool :=
  year % 4 == 0 && (year % 100 != 0 || year % 400 == 0)

/-- The number of days of a month. -/
def daysIn (year month : Nat) : Nat :=
  if month == 2 then (if isLeapYear year then 29 else 28)
  else if month == 4 || month == 6 || month == 9 || month == 11 then 30
  else 31

end Date

namespace Timestamp

/-- The distance from universal time as hours and minutes with a sign. -/
def offsetText (minutes : Int) : String :=
  (if minutes < 0 then "-" else "+") ++ Text.decimalPadded 2 (minutes.natAbs / 60) ++ ":" ++
    Text.decimalPadded 2 (minutes.natAbs % 60)

/-- The day and the time of day with `separator` between them; a fraction of a second is written
only when there is one. -/
def written (separator : String) (t : Timestamp) : String :=
  t.date.iso ++ separator ++ Text.decimalPadded 2 t.hour ++ ":" ++ Text.decimalPadded 2 t.minute ++
    ":" ++ Text.decimalPadded 2 t.second ++
    (if t.microsecond = 0 then "" else "." ++ Text.decimalPadded 6 t.microsecond) ++
    (match t.offset with
      | some minutes => offsetText minutes
      | none => "")

/-- The day and the time of day with a `T` between them. -/
def iso (t : Timestamp) : String :=
  t.written "T"

end Timestamp

end ChartQuery
