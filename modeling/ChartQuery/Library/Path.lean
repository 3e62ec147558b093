/-
# Paths

A path as a list of names. Empty names and single points mean nothing and are dropped, so that equal
paths have equal texts; two points are kept. A file is known by the last name without its ending.
-/

import ChartQuery.Text.Piece

namespace ChartQuery

/-- A path from the root or from where the program stands. -/
structure Path where
  absolute : Bool
  parts : List Text
  deriving DecidableEq, Repr, Inhabited

namespace Path

/-- The names of a path. -/
def partsOf (text : Text) : List Text :=
  ((Text.pieces (.char '/') text.toList).map Text.ofList).filter fun name =>
    name ≠ ("" : Text) ∧ name ≠ ("." : Text)

/-- The path that a text writes down. -/
def ofText (text : Text) : Path :=
  ⟨text.toList.head? == some (.char '/'), partsOf text⟩

/-- The text of a path. -/
def text (p : Path) : Text :=
  if p.absolute then "/" ++ Text.joined "/" p.parts
  else if p.parts.isEmpty then "."
  else Text.joined "/" p.parts

/-- A path with further names behind it. -/
def below (p : Path) (more : List Text) : Path :=
  { p with parts := p.parts ++ more }

/-- The path behind another one, unless it starts at the root. -/
def behind (p : Path) (other : Path) : Path :=
  if other.absolute then other else p.below other.parts

/-- The last name. -/
def name (p : Path) : Text :=
  p.parts.getLast?.getD ""

/-- The place of the point before the ending of a name. A point at the head or at the end of the
name opens no ending. -/
def endingAt? (name : List Point) : Option Nat :=
  let after := (Text.afterLast (.char '.') name).length
  let place := name.length - after - 1
  if name.contains (.char '.') && 0 < place && 0 < after then some place else none

/-- The last name without its ending. -/
def stem (p : Path) : Text :=
  match endingAt? p.name.toList with
  | some place => Text.ofList (p.name.toList.take place)
  | none => p.name

/-- The ending of the last name with its point, or nothing. -/
def ending (p : Path) : Text :=
  match endingAt? p.name.toList with
  | some place => Text.ofList (p.name.toList.drop place)
  | none => ""

/-- Names come one after another by their first difference; a path comes before what is below it. -/
def namesLe : List Text → List Text → Bool
  | [], _ => true
  | _ :: _, [] => false
  | a :: as, b :: bs => if a = b then namesLe as bs else decide (a < b)

/-- The order of paths, name by name. -/
def le (p q : Path) : Bool :=
  namesLe p.parts q.parts

end Path

end ChartQuery
