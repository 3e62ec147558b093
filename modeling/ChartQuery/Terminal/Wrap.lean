/-
# Lines of a given width

A text as the lines that a screen or a column of a table shows. A line breaks where a word does not
fit any more; a word that is wider than a whole line is folded, or it is cut off with an ellipsis at
its end. Blanks at a break stay at the end of the upper line unless they would stick out. Tabs reach
to the next multiple of eight cells, and some controls are not shown at all.
-/

import ChartQuery.Terminal.Cell
import ChartQuery.Text.Blank
import ChartQuery.Text.Piece

namespace ChartQuery.Terminal

/-- What happens to a word that is wider than a line. -/
inductive Overflow where
  | fold
  | ellipsis
  deriving DecidableEq, Repr

/-- Where a line stands in its room; a ragged one keeps its own width. -/
inductive Alignment where
  | ragged
  | left
  | center
  | right
  deriving DecidableEq, Repr, Inhabited

/-- The distance of tab stops. -/
def tabStop : Nat := 8

/-- Bell, backspace, vertical tab, form feed and carriage return are not shown. -/
def isHidden (c : Point) : Bool :=
  [7, 8, 11, 12, 13].contains c.code

/-- The text without the controls that are not shown. -/
def visible (text : List Point) : List Point :=
  text.filter (!isHidden ·)

/-- A line with blanks for its tabs, from a column on. -/
def withoutTabs (column : Nat) : List Point → List Point
  | [] => []
  | c :: rest =>
    if c = .char '\t' then
      let count := tabStop - column % tabStop
      blanks count ++ withoutTabs (column + count) rest
    else c :: withoutTabs (column + pointCells c) rest

/-- The text without gaps at its end. -/
def closed (text : List Point) : List Point :=
  (text.reverse.dropWhile (·.meets Text.isGap)).reverse

/-- The words of a line, each with the gaps behind it, the first one also with the gaps before it.
-/
def words (line : List Point) : List (List Point) :=
  match line.splitBy fun a b => !(a.meets Text.isGap && !b.meets Text.isGap) with
  | gap :: word :: rest =>
    if gap.all (·.meets Text.isGap) then (gap ++ word) :: rest else gap :: word :: rest
  | short => short

/-- The parts of a word that fill at most `width` cells each; `used` cells of the first are taken.
-/
def chopped (width used : Nat) : List Point → List (List Point)
  | [] => [[]]
  | c :: rest =>
    if used + pointCells c ≤ width then
      match chopped width (used + pointCells c) rest with
      | [] => [[c]]
      | first :: others => (c :: first) :: others
    else
      match chopped width (pointCells c) rest with
      | [] => [[], [c]]
      | first :: others => [] :: (c :: first) :: others

/-- Lines in the making: those that are finished, the last one first, and the current one with the
cells that it has used. -/
structure Broken where
  done : List (List Point)
  line : List Point
  used : Nat

namespace Broken

/-- Before the first word. -/
def start : Broken := ⟨[], [], 0⟩

/-- Nothing has been placed yet. -/
def isUntouched (b : Broken) : Bool :=
  b.done.isEmpty && b.line.isEmpty

/-- A part on a line of its own; the very first line needs no break before it. -/
def onNewLine (b : Broken) (part : List Point) : Broken :=
  if b.isUntouched then { b with line := part, used := cells part }
  else ⟨b.line :: b.done, part, cells part⟩

/-- A part behind what the current line has. -/
def onSameLine (b : Broken) (part : List Point) : Broken :=
  { b with line := b.line ++ part, used := b.used + cells part }

/-- Place the next word. -/
def place (width : Nat) (overflow : Overflow) (b : Broken) (word : List Point) : Broken :=
  let size := cells (closed word)
  if b.used + size ≤ width then b.onSameLine word
  else if width < size then
    match overflow with
    | .fold => (chopped width 0 word).foldl onNewLine b
    | .ellipsis => b.onNewLine word
  else b.onNewLine word

/-- The lines in order. -/
def lines (b : Broken) : List (List Point) :=
  (b.line :: b.done).reverse

end Broken

/-- A line broken where words do not fit. -/
def broken (width : Nat) (overflow : Overflow) (line : List Point) : List (List Point) :=
  ((words line).foldl (Broken.place width overflow) .start).lines

/-- A line without the blanks at its end that stick out. -/
def withoutOverhang (width : Nat) (line : List Point) : List Point :=
  let gaps := line.length - (closed line).length
  line.take (line.length - min gaps (line.length - width))

/-- A line cut to its room when it is too wide. -/
def cut (width : Nat) (overflow : Overflow) (line : List Point) : List Point :=
  if width < cells line then
    match overflow with
    | .fold => fitted width line
    | .ellipsis => fitted (width - 1) line ++ [.char '…']
  else line

/-- A line at its place in its room. -/
def aligned (width : Nat) (alignment : Alignment) (overflow : Overflow) (line : List Point) :
    List Point :=
  match alignment with
  | .ragged => cut width overflow line
  | .left => filled width (cut width overflow line)
  | .center =>
    let short := cut width overflow (closed line)
    filled width (blanks ((width - cells short) / 2) ++ short)
  | .right =>
    let short := cut width overflow (closed line)
    blanks (width - cells short) ++ short

/-- The lines of a text in a room of `width` cells. -/
def wrapped (width : Nat) (alignment : Alignment) (overflow : Overflow) (text : List Point) :
    List (List Point) :=
  (Text.pieces (.char '\n') text).flatMap fun line =>
    (broken width overflow (withoutTabs 0 line)).map fun part =>
      aligned width alignment overflow (withoutOverhang width part)

/-- A text as it comes out on a screen of some width. -/
def shown (width : Nat) (text : Text) : Text :=
  let lines := wrapped width .ragged .fold (visible text.toList)
  Text.joined "\n" (lines.map Text.ofList)

end ChartQuery.Terminal
