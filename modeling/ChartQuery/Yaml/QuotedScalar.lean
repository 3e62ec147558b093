/-
# Quoted scalars

Reading a scalar in quotation marks. Between single marks only a doubled mark has a meaning of its
own; between double marks a backslash opens an escape. Line breaks are folded: a single one counts
as a blank, of several all but the first are kept, and blanks around them are dropped.
-/

import ChartQuery.Yaml.Cursor

namespace ChartQuery.Yaml

open Scan

/-- The characters of one-letter escapes. -/
def namedEscapes : List (Char × Nat) := [
  ('0', 0), ('a', 7), ('b', 8), ('t', 9), ('\t', 9), ('n', 10), ('v', 11), ('f', 12), ('r', 13),
  ('e', 27), (' ', 32), (Text.doubleQuote, 34), ('\\', 92), ('/', 47), ('N', 0x85), ('_', 0xA0),
  ('L', 0x2028), ('P', 0x2029)]

/-- How many digits follow the letter of an escape by code. -/
def escapeDigits? (c : Char) : Option Nat :=
  if c = 'x' then some 2 else if c = 'u' then some 4 else if c = 'U' then some 8 else none

/-- The digits of an escape by code, from a distance on. -/
def peekCodeDigits (began : Mark) (total : Nat) : Nat → Nat → Scan (List Char)
  | 0, _ => return []
  | count + 1, distance => do
    let next ← peek distance
    match next with
    | some c =>
      if Text.isHexDigit c then
        return c :: (← peekCodeDigits began total count (distance + 1))
      else refuseIn .doubleQuoted began (.badEscapeCode total next)
    | none => refuseIn .doubleQuoted began (.badEscapeCode total next)

/-- The code that an escape with so many digits stands for. -/
def scanCode (began : Mark) (count : Nat) : Scan Nat := do
  let code := Text.numberOf 16 (← peekCodeDigits began count count 0)
  if 0x7FFFFFFF < code then throw (.unreadable .codeSize)
  if 0x10FFFF < code then throw (.unreadable .codeRange)
  skip count
  return code

/-- The further breaks behind a first one. The bound is at least the number of characters left. -/
def scanQuotedBreaks (began : Mark) : Nat → Scan (List Nat)
  | 0 => return []
  | bound + 1 => do
    if (← get).atSeparator then refuseIn .quoted began .separatorInQuotes
    skipping fun c => c == ' ' || c == '\t'
    match ← lineBreak with
    | none => return []
    | some b => return b.toNat :: (← scanQuotedBreaks began bound)

/-- White space inside quotation marks, as the codes that it counts as. -/
def scanQuotedGap (began : Mark) : Scan (List Nat) := do
  let blanks ← taking fun c => c == ' ' || c == '\t'
  if (← peek 0).isNone then refuseIn .quoted began .endInQuotes
  match ← lineBreak with
  | none => return blanks.map Char.toNat
  | some first =>
    let breaks ← scanQuotedBreaks began (← get).rest.length
    let lead := if first ≠ '\n' then [first.toNat] else if breaks.isEmpty then [32] else []
    return lead ++ breaks

/-- What an escape between double marks stands for; its backslash has been passed. -/
def scanEscape (began : Mark) : Scan (List Nat) := do
  let next ← peek 0
  match next with
  | none => refuseIn .doubleQuoted began (.badEscape none)
  | some c =>
    match namedEscapes.find? (·.1 == c), escapeDigits? c with
    | some (_, code), _ =>
      skip 1
      return [code]
    | none, some count =>
      skip 1
      return [← scanCode began count]
    | none, none =>
      match ← lineBreak with
      | some _ => scanQuotedBreaks began (← get).rest.length
      | none => refuseIn .doubleQuoted began (.badEscape next)

/-- The character ends a run of ordinary characters between quotation marks. -/
def endsQuotedRun (c : Char) : Bool :=
  c == Text.singleQuote || c == Text.doubleQuote || c == '\\' || atSpace (some c)

/-- The codes up to the closing mark, which is passed. The bound exceeds the number of characters
left. -/
def scanQuotedRest (double : Bool) (began : Mark) : Nat → Scan (List Nat)
  | 0 => return []
  | bound + 1 => do
    let plain ← taking fun c => !endsQuotedRun c
    let following ←
      match ← peek 0 with
      | some c =>
        if double then
          if c = Text.doubleQuote then
            skip 1
            return plain.map Char.toNat
          else if c = Text.singleQuote then
            skip 1
            pure [c.toNat]
          else if c = '\\' then
            skip 1
            scanEscape began
          else scanQuotedGap began
        else if c = Text.singleQuote then
          if (← peek 1) = some Text.singleQuote then
            skip 2
            pure [c.toNat]
          else
            skip 1
            return plain.map Char.toNat
        else if c = Text.doubleQuote ∨ c = '\\' then
          skip 1
          pure [c.toNat]
        else scanQuotedGap began
      | none => scanQuotedGap began
    return plain.map Char.toNat ++ following ++ (← scanQuotedRest double began bound)

/-- A scalar in quotation marks. Every escape is a code point of its own, half of a surrogate pair
included, also when the other half follows. -/
def scanQuoted (double : Bool) : Scan Text := do
  let began ← here
  skip 1
  let codes ← scanQuotedRest double began ((← get).rest.length + 1)
  return Text.ofList (codes.map Point.ofCode)

end ChartQuery.Yaml
