/-
# Letter case

Capitals and small letters of a whole text by Unicode's full case mappings: a letter may become
several letters, and a capital sigma becomes the final form at the end of a word. Aggregation names
are written in capitals inside expressions and in small letters inside metric names.
-/

import ChartQuery.Text.Basic
import ChartQuery.Text.CaseTable
import ChartQuery.Text.CharTable

namespace ChartQuery.Text

/-- The image of a code point under a table of runs, or the code point itself. -/
def shifted (runs : Array (Nat × Nat × Nat × Int)) (code : Nat) : Nat :=
  match runs.find? fun (first, last, step, _) =>
      first ≤ code && code ≤ last && (code - first) % step == 0 with
  | some (_, _, _, distance) => (Int.ofNat code + distance).toNat
  | none => code

/-- The capital form of one character, possibly several letters. -/
def upperChar (c : Char) : List Char :=
  if c.toNat < 128 then [c.toUpper]
  else
    match upperExpansions.find? (·.1 == c.toNat) with
    | some (_, images) => images.map Char.ofNat
    | none => [Char.ofNat (shifted upperRuns c.toNat)]

/-- The capital form of one code point. -/
def upperPoint : Point → List Point
  | .char c => (upperChar c).map .char
  | .half n => [.half n]

/-- A text in capitals. -/
def upper (text : Text) : Text :=
  ofList (text.toList.flatMap upperPoint)

/-- The nearest character of a list that is not skipped is a letter with a case. -/
def meetsCased (neighbours : List Point) : Bool :=
  match neighbours.dropWhile (·.meets (inRuns caseIgnorableRuns)) with
  | p :: _ => p.meets (inRuns casedRuns)
  | [] => false

/-- The small form of one character between its neighbours, the nearest first on both sides. -/
def lowerChar (before : List Point) (c : Char) (after : List Point) : List Char :=
  if c.toNat < 128 then [c.toLower]
  else if c.toNat = 0x3A3 then
    if meetsCased before && !meetsCased after then [Char.ofNat 0x3C2] else [Char.ofNat 0x3C3]
  else if c.toNat = 0x130 then ['i', Char.ofNat 0x307]
  else [Char.ofNat (shifted lowerRuns c.toNat)]

/-- The small form of one code point between its neighbours. -/
def lowerPoint (before : List Point) (p : Point) (after : List Point) : List Point :=
  match p with
  | .char c => (lowerChar before c after).map .char
  | .half n => [.half n]

/-- The small forms of a text whose already read part is given backwards. -/
def lowerFrom (before : List Point) : List Point → List Point
  | [] => []
  | p :: after => lowerPoint before p after ++ lowerFrom (p :: before) after

/-- A text in small letters. -/
def lower (text : Text) : Text :=
  ofList (lowerFrom [] text.toList)

end ChartQuery.Text
