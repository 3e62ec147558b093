/-
# Reading a text with places

A cursor is the rest of a text with the place where it begins. `Scan` is a computation that moves a
cursor forward and may fail with a complaint about a place. Line breaks are the line feed and three
characters of Unicode; other forms of line ends are expected to be gone already.
-/

import ChartQuery.Yaml.Failure

namespace ChartQuery.Yaml

/-- The rest of a text and the place where it begins. -/
structure Cursor where
  rest : List Char
  mark : Mark
  deriving Repr

/-- The mark of the byte order, which takes no column. -/
def byteOrderMark : Char := Char.ofNat 0xFEFF

/-- The character ends a line. -/
def isBreak (c : Char) : Bool :=
  c == '\n' || c.toNat == 0x85 || c.toNat == 0x2028 || c.toNat == 0x2029

/-- A line ends here. -/
def endsLine : Option Char → Bool
  | none => true
  | some c => isBreak c

/-- A word ends here: at a blank or with the line. -/
def endsWord : Option Char → Bool
  | none => true
  | some c => c == ' ' || isBreak c

/-- White space begins here, or the text ends. -/
def atSpace : Option Char → Bool
  | none => true
  | some c => c == ' ' || c == '\t' || isBreak c

/-- A character of names. -/
def isNameChar (c : Char) : Bool :=
  c.isAlphanum || c == '-' || c == '_'

/-- The place behind a character. -/
def Mark.after (m : Mark) (c : Char) : Mark :=
  if isBreak c then ⟨m.index + 1, m.line + 1, 0⟩
  else if c = byteOrderMark then ⟨m.index + 1, m.line, m.column⟩
  else ⟨m.index + 1, m.line, m.column + 1⟩

namespace Cursor

/-- The cursor at the head of a text. -/
def ofText (text : List Char) : Cursor := ⟨text, .start⟩

/-- The character at a distance. -/
def peek (c : Cursor) (distance : Nat) : Option Char :=
  c.rest[distance]?

/-- The cursor behind the leading characters with a property, and these characters. -/
def span (p : Char → Bool) (c : Cursor) : List Char × Cursor :=
  let taken := c.rest.takeWhile p
  (taken, ⟨c.rest.dropWhile p, taken.foldl Mark.after c.mark⟩)

/-- The cursor behind some characters. -/
def advance (count : Nat) (c : Cursor) : Cursor :=
  ⟨c.rest.drop count, (c.rest.take count).foldl Mark.after c.mark⟩

/-- Three equal signs that separate documents stand here. -/
def atSeparator (c : Cursor) : Bool :=
  (c.rest.take 3 == ['-', '-', '-'] || c.rest.take 3 == ['.', '.', '.']) && atSpace (c.peek 3)

end Cursor

/-- A computation that reads on. -/
abbrev Scan (α : Type) := StateT Cursor (Except Failure) α

namespace Scan

/-- The character at a distance. -/
def peek (distance : Nat) : Scan (Option Char) := do
  return (← get).peek distance

/-- The place that is reached. -/
def here : Scan Mark := do
  return (← get).mark

/-- Pass over some characters. -/
def skip (count : Nat) : Scan Unit :=
  modify (Cursor.advance count)

/-- The next characters as long as they have a property. -/
def taking (p : Char → Bool) : Scan (List Char) := do
  let (taken, next) := (← get).span p
  set next
  return taken

/-- Pass over characters as long as they have a property. -/
def skipping (p : Char → Bool) : Scan Unit := do
  let _ ← taking p

/-- Pass over a line break, if one stands here. The two characters of Unicode that separate lines
and paragraphs are kept as they are, others count as a line feed. -/
def lineBreak : Scan (Option Char) := do
  match ← peek 0 with
  | some c =>
    if isBreak c then
      skip 1
      return some (if c = '\n' ∨ c.toNat = 0x85 then '\n' else c)
    else return none
  | none => return none

/-- Fail with a complaint about the place that is reached. -/
def refuse {α : Type} (activity : Option Activity) (began : Option Mark) (problem : Problem) :
    Scan α := do
  throw (.malformed ⟨activity, began, problem, ← here⟩)

/-- Fail while reading something that began at a place. -/
def refuseIn {α : Type} (activity : Activity) (began : Mark) (problem : Problem) : Scan α :=
  refuse (some activity) (some began) problem

end Scan

end ChartQuery.Yaml
