/-
# Cells of a screen

A screen, and how much room a text takes on it when all its characters have the same width: most
characters fill one cell, East Asian ones two, accents and controls none. `fitted` cuts or fills a
line to an exact number of cells; a wide character that the cut would halve gives way to a blank.
-/

import ChartQuery.Text.Basic
import ChartQuery.Text.CharTable

namespace ChartQuery.Terminal

/-- A screen: the width of its lines, and what the library that draws on it makes of the words in
the tags of a text. -/
structure Screen where
  /-- The cells of a line. -/
  width : Nat
  /-- A line has room for a character of two cells. -/
  room : 2 ≤ width
  /-- The name of a style in the form by which styles are compared. -/
  usualName : Text → Text
  /-- The parameter of a handler can be evaluated. -/
  evaluates : Text → Bool

/-- The cells that a character fills. -/
def charCells (c : Char) : Nat :=
  if c.toNat < 32 then 0
  else if c.toNat < 127 then 1
  else if c.toNat < 160 then 0
  else if Text.inRuns Text.wideRuns c then 2
  else if Text.inRuns Text.zeroWidthRuns c then 0
  else 1

/-- The cells that a code point fills. -/
def pointCells : Point → Nat
  | .char c => charCells c
  | .half _ => 1

/-- The sum of several numbers. -/
def total (numbers : List Nat) : Nat :=
  numbers.foldr (· + ·) 0

/-- The cells that a text fills. -/
def cells (text : List Point) : Nat :=
  total (text.map pointCells)

/-- So many blanks. -/
def blanks (count : Nat) : List Point :=
  List.replicate count (.char ' ')

/-- The text in exactly `width` cells: cut at the end, or filled up with blanks. -/
def fitted : Nat → List Point → List Point
  | width, [] => blanks width
  | width, c :: rest =>
    if pointCells c ≤ width then c :: fitted (width - pointCells c) rest else blanks width

/-- The text with blanks behind it up to `width` cells. -/
def filled (width : Nat) (text : List Point) : List Point :=
  text ++ blanks (width - cells text)

theorem cells_nil : cells [] = 0 := rfl

theorem cells_cons (c : Point) (text : List Point) :
    cells (c :: text) = pointCells c + cells text := rfl

theorem cells_append (a b : List Point) : cells (a ++ b) = cells a + cells b := by
  induction a with
  | nil => rw [List.nil_append, cells_nil, Nat.zero_add]
  | cons c rest ih => rw [List.cons_append, cells_cons, cells_cons, ih, Nat.add_assoc]

theorem cells_blanks (count : Nat) : cells (blanks count) = count := by
  induction count with
  | zero => rfl
  | succ n ih =>
    have h : blanks (n + 1) = .char ' ' :: blanks n := rfl
    have one : pointCells (.char ' ') = 1 := rfl
    rw [h, cells_cons, ih, one]
    omega

theorem cells_fitted (width : Nat) (text : List Point) : cells (fitted width text) = width := by
  induction text generalizing width with
  | nil => exact cells_blanks width
  | cons c rest ih =>
    unfold fitted
    split
    · rw [cells_cons, ih]
      omega
    · exact cells_blanks width

end ChartQuery.Terminal
