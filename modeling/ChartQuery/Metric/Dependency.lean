/-
# The order of definitions

The server creates definitions in the order in which it gets them, so a definition that refers to
another generated metric has to come after it. Of several definitions with one identifier the first
is kept. As long as some definition refers to no other one that is still waiting, the first such is
next; definitions that wait for each other in a circle stay at the end as they are.
-/

import ChartQuery.Metric.Definition
import ChartQuery.Text.Piece

namespace ChartQuery.Definition

/-- How an expression refers to a generated metric: its identifier in braces. -/
def referenceTo (identifier : Text) : List Point :=
  .char '{' :: identifier.toList ++ [.char '}']

/-- The expression of a definition refers to an identifier. -/
def refersTo (d : Definition) (identifier : Text) : Bool :=
  Text.occursIn (referenceTo identifier) d.expression.toList

/-- The definitions without those whose identifier came before; `seen` holds the earlier ones. -/
def firstsAfter (seen : List Text) : List Definition → List Definition
  | [] => []
  | d :: rest =>
    if seen.contains d.identifier then firstsAfter seen rest
    else d :: firstsAfter (d.identifier :: seen) rest

/-- The first definition of each identifier, in order. -/
def firsts (definitions : List Definition) : List Definition :=
  firstsAfter [] definitions

/-- A definition refers to none of the waiting ones but itself. -/
def isReady (waiting : List Definition) (d : Definition) : Bool :=
  waiting.all fun other => other.identifier == d.identifier || !d.refersTo other.identifier

/-- The first member of a list with a property, and the list without it. -/
def extract? (p : Definition → Bool) : List Definition → Option (Definition × List Definition)
  | [] => none
  | d :: rest =>
    if p d then some (d, rest)
    else (extract? p rest).map fun (found, others) => (found, d :: others)

/-- The waiting definitions in order; `count` is at least their number. -/
def arrangedWithin : Nat → List Definition → List Definition
  | 0, waiting => waiting
  | count + 1, waiting =>
    match extract? (isReady waiting) waiting with
    | some (next, others) => next :: arrangedWithin count others
    | none => waiting

/-- Definitions each once, every one after those it refers to. -/
def arranged (definitions : List Definition) : List Definition :=
  let unique := firsts definitions
  arrangedWithin unique.length unique

end ChartQuery.Definition
