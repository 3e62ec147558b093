/-
# Dates and times

The written form of a day or a moment, and the value that it stands for. A day alone has two digits
for its month and its day when it is to be recognised (`Moment.isRecognised`); in front of a time,
or under a tag, one digit is enough. The distance from universal time is kept as it is written.
-/

import ChartQuery.Value.Display
import ChartQuery.Yaml.Failure

namespace ChartQuery.Yaml

/-- A time of day as it is written; the fraction is without its point. -/
structure MomentTime where
  hour : List Char
  minute : List Char
  second : List Char
  fraction : List Char
  /-- The minutes from universal time, if they are stated. -/
  offset : Option Int
  deriving Repr

/-- A day or a moment as it is written. -/
structure Moment where
  year : List Char
  month : List Char
  day : List Char
  time : Option MomentTime
  deriving Repr

namespace Moment

/-- The leading digits of a text, at most so many and at least so many. -/
def digits? (least most : Nat) (text : List Char) : Option (List Char × List Char) :=
  let found := (text.take most).takeWhile Text.isDigit
  if least ≤ found.length then some (found, text.drop found.length) else none

/-- The text behind a sign that has to stand at its head. -/
def behind? (sign : Char) : List Char → Option (List Char)
  | c :: rest => if c = sign then some rest else none
  | [] => none

/-- A blank or a tab. -/
def isGap (c : Char) : Bool :=
  c == ' ' || c == '\t'

/-- The distance from universal time at the end of a text, which is nothing else. -/
def offset? (text : List Char) : Option (Option Int) := do
  if text.isEmpty then return none
  match text.dropWhile isGap with
  | ['Z'] => return some 0
  | sign :: rest =>
    let negative ← if sign = '-' then some true else if sign = '+' then some false else none
    let (hours, rest) ← digits? 1 2 rest
    let minutes ←
      if rest.isEmpty then some []
      else do
        let (minutes, rest) ← digits? 2 2 (← behind? ':' rest)
        if rest.isEmpty then some minutes else none
    let total : Int := Text.numberOf 10 hours * 60 + Text.numberOf 10 minutes
    return some (if negative then -total else total)
  | [] => none

/-- The time behind a day. -/
def time? (text : List Char) : Option MomentTime := do
  let (hour, rest) ← digits? 1 2 text
  let (minute, rest) ← digits? 2 2 (← behind? ':' rest)
  let (second, rest) ← digits? 2 2 (← behind? ':' rest)
  let (fraction, rest) :=
    match rest with
    | '.' :: more => (more.takeWhile Text.isDigit, more.dropWhile Text.isDigit)
    | _ => ([], rest)
  return ⟨hour, minute, second, fraction, ← offset? rest⟩

/-- The text behind the separator of day and time. -/
def behindDay? (text : List Char) : Option (List Char) :=
  match text with
  | 'T' :: rest => some rest
  | 't' :: rest => some rest
  | c :: rest => if isGap c then some (rest.dropWhile isGap) else none
  | [] => none

/-- The day or moment that a text writes down. -/
def ofText? (text : List Char) : Option Moment := do
  let (year, rest) ← digits? 4 4 text
  let (month, rest) ← digits? 1 2 (← behind? '-' rest)
  let (day, rest) ← digits? 1 2 (← behind? '-' rest)
  if rest.isEmpty then return ⟨year, month, day, none⟩
  return ⟨year, month, day, some (← time? (← behindDay? rest))⟩

/-- A plain scalar of this form is a day or a moment. -/
def isRecognised (m : Moment) : Bool :=
  m.time.isSome || (m.month.length == 2 && m.day.length == 2)

/-- The number of microseconds in a fraction of a second; further digits are dropped. -/
def microseconds (fraction : List Char) : Nat :=
  Text.numberOf 10 ((fraction ++ List.replicate 6 '0').take 6)

/-- The value of a day. -/
def date (m : Moment) : Except ScalarFault Date :=
  let year := Text.numberOf 10 m.year
  let month := Text.numberOf 10 m.month
  let day := Text.numberOf 10 m.day
  if year = 0 then .error (.yearRange year)
  else if month = 0 ∨ 12 < month then .error .monthRange
  else if day = 0 ∨ Date.daysIn year month < day then .error .dayRange
  else .ok ⟨year, month, day⟩

/-- The value of a day with a time. -/
def timestamp (m : Moment) (t : MomentTime) : Except ScalarFault Value :=
  let hour := Text.numberOf 10 t.hour
  let minute := Text.numberOf 10 t.minute
  let second := Text.numberOf 10 t.second
  if t.offset.any fun minutes => 1440 ≤ minutes.natAbs then
    .error (.offsetRange (Value.durationLiteral (t.offset.getD 0)))
  else
    match m.date with
    | .error e => .error e
    | .ok day =>
      if 23 < hour then .error .hourRange
      else if 59 < minute then .error .minuteRange
      else if 59 < second then .error .secondRange
      else .ok (.timestamp ⟨day, hour, minute, second, microseconds t.fraction, t.offset⟩)

/-- The value of a day or a moment. -/
def value (m : Moment) : Except ScalarFault Value :=
  match m.time with
  | some t => m.timestamp t
  | none => m.date.map .date

end Moment

end ChartQuery.Yaml
