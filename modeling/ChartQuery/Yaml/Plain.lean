/-
# Plain scalars

Reading a scalar without quotation marks. It ends at a colon in front of white space, at a comment,
and inside brackets also at their signs. It may go on over several lines as long as these are
indented; a single line break between two words counts as a blank, of several all but the first are
kept.
-/

import ChartQuery.Yaml.Cursor

namespace ChartQuery.Yaml

open Scan

/-- The signs that end a plain scalar inside brackets. -/
def flowEnds : List Char := ",?[]\x7b\x7d".toList

/-- The signs before which a colon ends a plain scalar inside brackets. -/
def colonEnds : List Char := ",[]\x7b\x7d".toList

/-- A word of a plain scalar ends at a character, before the one that follows. -/
def endsPlainWord (inFlow : Bool) (c : Char) (next : Option Char) : Bool :=
  atSpace (some c) ||
    (c == ':' && (atSpace next || (inFlow && next.any colonEnds.contains))) ||
    (inFlow && flowEnds.contains c)

/-- The number of leading characters that form a word. -/
def plainWordLength (inFlow : Bool) : List Char → Nat
  | [] => 0
  | c :: rest => if endsPlainWord inFlow c rest.head? then 0 else plainWordLength inFlow rest + 1

/-- What lies between two words of a plain scalar. -/
structure PlainGap where
  /-- The characters it counts as; without any the scalar is at its end. -/
  text : List Char
  crossesLine : Bool

/-- The further breaks behind a first one, unless documents are separated here. The bound is at
least the number of characters left. -/
def scanPlainBreaks : Nat → Scan (Option (List Char))
  | 0 => return some []
  | bound + 1 => do
    match ← peek 0 with
    | some ' ' => do
      skip 1
      scanPlainBreaks bound
    | _ =>
      match ← lineBreak with
      | none => return some []
      | some b =>
        if (← get).atSeparator then return none
        return (← scanPlainBreaks bound).map (b :: ·)

/-- Pass over the gap behind a word. -/
def scanPlainGap : Scan PlainGap := do
  let blanks ← taking (· == ' ')
  match ← lineBreak with
  | none => return ⟨blanks, false⟩
  | some first =>
    if (← get).atSeparator then return ⟨[], true⟩
    match ← scanPlainBreaks (← get).rest.length with
    | none => return ⟨[], true⟩
    | some breaks =>
      let lead := if first ≠ '\n' then [first] else if breaks.isEmpty then [' '] else []
      return ⟨lead ++ breaks, true⟩

/-- The words of a plain scalar from a place on, where `gap` lies before the first of them; and
whether the gap behind the last one crosses a line. The bound is at least the number of characters
left. -/
def scanPlainWords (inFlow : Bool) (indent : Int) (gap : PlainGap) : Nat → Scan (List Char × Bool)
  | 0 => return ([], gap.crossesLine)
  | bound + 1 => do
    let length := plainWordLength inFlow (← get).rest
    if (← peek 0) = some '#' || length = 0 then return ([], gap.crossesLine)
    let word := (← get).rest.take length
    skip length
    let after ← scanPlainGap
    if after.text.isEmpty || (← peek 0) = some '#' ||
        (!inFlow && ((← here).column : Int) < indent) then
      return (gap.text ++ word, after.crossesLine)
    let (rest, crosses) ← scanPlainWords inFlow indent after bound
    return (gap.text ++ word ++ rest, crosses)

/-- A plain scalar in a collection of the given indentation, and whether a line ends behind it. -/
def scanPlain (inFlow : Bool) (indent : Int) : Scan (String × Bool) := do
  let (text, crosses) ← scanPlainWords inFlow (indent + 1) ⟨[], false⟩ ((← get).rest.length + 1)
  return (String.ofList text, crosses)

end ChartQuery.Yaml
