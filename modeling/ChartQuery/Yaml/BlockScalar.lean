/-
# Block scalars

Reading a scalar whose lines stand below its sign, indented more than the collection around it. A
literal scalar keeps its line breaks, a folded one joins lines by blanks. Indicators behind the sign
may give the indentation and say what becomes of the line breaks at the end: all kept, all dropped,
or one kept.
-/

import ChartQuery.Yaml.Property

namespace ChartQuery.Yaml

open Scan

/-- What becomes of the line breaks at the end of a block scalar. -/
inductive Chomping where
  | clip
  | keep
  | strip
  deriving DecidableEq, Repr

/-- The chomping that a sign asks for. -/
def Chomping.ofSign? (c : Option Char) : Option Chomping :=
  if c = some '+' then some .keep else if c = some '-' then some .strip else none

/-- The sign of the chomping, if one stands here. -/
def scanChomping : Scan (Option Chomping) := do
  match Chomping.ofSign? (← peek 0) with
  | some chomping =>
    skip 1
    return some chomping
  | none => return none

/-- The digit of the indentation, if one stands here. -/
def scanIndentation (began : Mark) : Scan (Option Nat) := do
  match ← peek 0 with
  | some c =>
    if Text.isDigit c then
      if c = '0' then refuseIn .blockScalar began .zeroIndentation
      skip 1
      return some (c.toNat - 48)
    else return none
  | none => return none

/-- Both indicators, in either order. -/
def scanIndicators (began : Mark) : Scan (Chomping × Option Nat) := do
  let first ← scanChomping
  let indentation ← scanIndentation began
  let second ← if first.isNone && indentation.isSome then scanChomping else pure none
  if !endsWord (← peek 0) then
    refuseIn .blockScalar began (.expectedIndicators (← peek 0))
  return ((first.or second).getD .clip, indentation)

/-- The blank lines before the first line of text, and the deepest indentation among them and that
line. The bound is at least the number of characters left. -/
def scanLeadingLines : Nat → Nat → Scan (List Char × Nat)
  | 0, deepest => return ([], deepest)
  | bound + 1, deepest => do
    match ← peek 0 with
    | some ' ' =>
      skip 1
      scanLeadingLines bound (max deepest (← here).column)
    | _ =>
      match ← lineBreak with
      | none => return ([], deepest)
      | some b =>
        let (breaks, found) ← scanLeadingLines bound deepest
        return (b :: breaks, found)

/-- Pass over blanks up to an indentation. -/
def skipIndentation (indent : Nat) : Scan Unit := do
  let c ← get
  let blanks := (c.rest.takeWhile (· == ' ')).length
  skip (min blanks (indent - c.mark.column))

/-- The blank lines before a line of text, up to its indentation. The bound exceeds the number of
characters left. -/
def scanBlankLines (indent : Nat) : Nat → Scan (List Char)
  | 0 => return []
  | bound + 1 => do
    skipIndentation indent
    match ← lineBreak with
    | none => return []
    | some b => return b :: (← scanBlankLines indent bound)

/-- A line of text goes on with a blank. -/
def startsBlank (c : Option Char) : Bool :=
  c = some ' ' || c = some '\t'

/-- A line of text begins here. -/
def atTextLine (indent : Nat) : Scan Bool := do
  return (← here).column = indent && (← peek 0).isSome

/-- The lines of text with what lies between them; the last line break; and the blank lines at the
end. The bound is at least the number of characters left. -/
def scanTextLines (folded : Bool) (indent : Nat) (blank : List Char) :
    Nat → Scan (List Char × List Char × List Char)
  | 0 => return ([], [], blank)
  | bound + 1 => do
    let opensBlank := startsBlank (← peek 0)
    let line ← taking fun c => !isBreak c
    let lineEnd := (← lineBreak).toList
    let between ← scanBlankLines indent ((← get).rest.length + 1)
    if ← atTextLine indent then
      let joint :=
        if folded && lineEnd == ['\n'] && !opensBlank && !startsBlank (← peek 0) then
          if between.isEmpty then [' '] else []
        else lineEnd
      let (text, last, rest) ← scanTextLines folded indent between bound
      return (blank ++ line ++ joint ++ text, last, rest)
    else return (blank ++ line, lineEnd, between)

/-- A block scalar in a collection of the given indentation. -/
def scanBlock (folded : Bool) (outer : Int) : Scan String := do
  let began ← here
  skip 1
  let (chomping, indentation) ← scanIndicators began
  scanLineEnd .blockScalar began
  let least := (max (outer + 1) 1).toNat
  let bound := (← get).rest.length + 1
  let (blank, indent) ←
    match indentation with
    | some more => do
      let indent := least + more - 1
      pure (← scanBlankLines indent bound, indent)
    | none => do
      let (blank, deepest) ← scanLeadingLines bound 0
      pure (blank, max least deepest)
  let (text, last, rest) ←
    if ← atTextLine indent then scanTextLines folded indent blank bound else pure ([], [], blank)
  return String.ofList
    (match chomping with
      | .strip => text
      | .clip => text ++ last
      | .keep => text ++ last ++ rest)

end ChartQuery.Yaml
