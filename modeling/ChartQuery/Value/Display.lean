/-
# Values as text

Two texts of a value. `Value.literal` is the form with quotation marks around texts, as collections
show their items; `Value.display` is the form that stands alone in a cell or a message, where a text
is shown as it is. `Value.kindName` is the word by which complaints call the kind of a value.
-/

import ChartQuery.Number.Numeral
import ChartQuery.Value.Basic
import ChartQuery.Text.Piece
import ChartQuery.Text.Quoted

namespace ChartQuery.Value

/-- The literal of a calendar day. -/
def dateLiteral (d : Date) : String :=
  "datetime.date(" ++ toString d.year ++ ", " ++ toString d.month ++ ", " ++ toString d.day ++ ")"

/-- The literal of a length of time: days and seconds, each left out when zero. -/
def durationLiteral (minutes : Int) : String :=
  let days := Int.fdiv minutes 1440
  let seconds := Int.fmod minutes 1440 * 60
  let parts :=
    (if days = 0 then [] else ["days=" ++ toString days]) ++
      (if seconds = 0 then [] else ["seconds=" ++ toString seconds])
  "datetime.timedelta(" ++ String.intercalate ", " parts ++ ")"

/-- The literal of a distance from universal time. -/
def offsetLiteral (minutes : Int) : String :=
  if minutes = 0 then "datetime.timezone.utc"
  else "datetime.timezone(" ++ durationLiteral minutes ++ ")"

/-- The literal of a moment; seconds and their fraction are left out when zero. -/
def timestampLiteral (t : Timestamp) : String :=
  let seconds :=
    if t.microsecond = 0 then if t.second = 0 then [] else [t.second]
    else [t.second, t.microsecond]
  let numbers := [t.date.year, t.date.month, t.date.day, t.hour, t.minute] ++ seconds
  let zone :=
    match t.offset with
    | some minutes => ["tzinfo=" ++ offsetLiteral minutes]
    | none => []
  "datetime.datetime(" ++ String.intercalate ", " (numbers.map toString ++ zone) ++ ")"

/-- What stands in a literal for a collection inside itself. -/
def selfLiteral : Value → String
  | .list _ => "[...]"
  | _ => "\x7b...\x7d"

mutual

/-- The literal of a value inside the collections that begin at the given places. -/
def literalWithin (around : List Nat) : Value → String
  | .null => "None"
  | .bool true => "True"
  | .bool false => "False"
  | .int n => toString n
  | .float x => x.text
  | .text s => Text.quoted s
  | .bytes bs => Text.quotedBytes bs
  | .date d => dateLiteral d
  | .timestamp t => timestampLiteral t
  | .list xs => "[" ++ String.intercalate ", " (literals around xs) ++ "]"
  | .set [] => "set()"
  | .set (x :: xs) =>
    "\x7b" ++ String.intercalate ", " (literalWithin around x :: literals around xs) ++ "\x7d"
  | .object fs => "\x7b" ++ String.intercalate ", " (fieldLiterals around fs) ++ "\x7d"
  | .cyclic place v =>
    if around.contains place then selfLiteral v else literalWithin (place :: around) v
termination_by structural v => v

/-- The literals of several values. -/
def literals (around : List Nat) : List Value → List String
  | [] => []
  | x :: xs => literalWithin around x :: literals around xs
termination_by structural xs => xs

/-- The literals of fields, a colon between key and value. -/
def fieldLiterals (around : List Nat) : List (Value × Value) → List String
  | [] => []
  | (k, v) :: rest =>
    (literalWithin around k ++ ": " ++ literalWithin around v) :: fieldLiterals around rest
termination_by structural fs => fs

end

mutual

/-- Every whole number in the value is short enough to be written. -/
def isWritable : Value → Bool
  | .int n => Numeral.isWritable n
  | .list xs => areWritable xs
  | .set xs => areWritable xs
  | .object fs => fieldsAreWritable fs
  | .cyclic _ v => isWritable v
  | _ => true
termination_by structural v => v

/-- All items can be written. -/
def areWritable : List Value → Bool
  | [] => true
  | x :: xs => isWritable x && areWritable xs
termination_by structural xs => xs

/-- All keys and values can be written. -/
def fieldsAreWritable : List (Value × Value) → Bool
  | [] => true
  | (k, v) :: rest => isWritable k && isWritable v && fieldsAreWritable rest
termination_by structural fs => fs

end

/-- The literal of a value. -/
def literal (v : Value) : String :=
  literalWithin [] v

/-- The text of a value that stands alone. -/
def display : Value → Text
  | .text s => s
  | .date d => d.iso
  | .timestamp t => t.written " "
  | v => literal v

/-- The name of the kind of a value. -/
def kindName : Value → String
  | .null => "NoneType"
  | .bool _ => "bool"
  | .int _ => "int"
  | .float _ => "float"
  | .text _ => "str"
  | .bytes _ => "bytes"
  | .date _ => "date"
  | .timestamp _ => "datetime"
  | .list _ => "list"
  | .set _ => "set"
  | .object _ => "dict"
  | .cyclic _ v => kindName v

/-- The name of the kind of a value with the family that it belongs to. -/
def fullKindName : Value → String
  | .date _ => "datetime.date"
  | .timestamp _ => "datetime.datetime"
  | v => v.kindName

/-- The words for a value that gives no items. -/
def notIterableWords (v : Value) : String :=
  "'" ++ v.fullKindName ++ "' object is not iterable"

end ChartQuery.Value
