/-
# Tables

A table with a title, a heading and rows, drawn with lines around its cells. A column is as wide as
its widest line, with a blank at both sides. Rows may be longer than the heading, which then gets
empty places, or shorter. When the screen is too narrow, the widest columns give way first, all of
them alike.
-/

import ChartQuery.Terminal.Wrap

namespace ChartQuery.Terminal

/-- A column with its heading. -/
structure Column where
  heading : Text
  alignment : Alignment
  deriving Repr, Inhabited

/-- A table of texts. -/
structure Table where
  title : Text
  columns : List Column
  rows : List (List Text)
  deriving Repr, Inhabited

/-- The marks of a horizontal line: its left end, its body, its crossings and its right end. -/
structure Rule where
  left : Char
  body : Char
  crossing : Char
  right : Char

/-- The line above the heading. -/
def Rule.top : Rule := ⟨'┏', '━', '┳', '┓'⟩

/-- The line below the heading. -/
def Rule.middle : Rule := ⟨'┡', '━', '╇', '┩'⟩

/-- The line below the rows. -/
def Rule.bottom : Rule := ⟨'└', '─', '┴', '┘'⟩

/-- The mark between the cells of the heading. -/
def headingMark : Char := '┃'

/-- The mark between the cells of a row. -/
def rowMark : Char := '│'

/-- Parts of a line with a mark between neighbours. -/
def separated (mark : Point) : List (List Point) → List Point
  | [] => []
  | [only] => only
  | first :: rest => first ++ mark :: separated mark rest

/-- A horizontal line over columns of some widths. -/
def Rule.drawn (r : Rule) (widths : List Nat) : List Point :=
  let bodies := widths.map fun width => List.replicate width (.char r.body)
  .char r.left :: separated r.crossing bodies ++ [.char r.right]

/-- A character that ends a line when the width of a text is taken. -/
def endsLine (c : Point) : Bool :=
  c == .char '\n' || [0x1C, 0x1D, 0x1E, 0x85, 0x2028, 0x2029].contains c.code

/-- The cells of the widest line of a text, when its first line has used some already. -/
def widestLine (used : Nat) : List Point → Nat
  | [] => used
  | c :: rest =>
    if endsLine c then max used (widestLine 0 rest) else widestLine (used + pointCells c) rest

/-- The quotient rounded to the nearest whole number, a half to the even one. -/
def roundedQuotient (n d : Nat) : Nat :=
  let q := n / d
  let r := n % d
  if 2 * r < d then q
  else if d < 2 * r then q + 1
  else q + q % 2

/-- Take `excess` away from the widths that are `chosen`, evenly and at most `most` from each;
`count` is the number of chosen ones. -/
def reduced (most excess count : Nat) : List (Nat × Bool) → List Nat
  | [] => []
  | (width, chosen) :: rest =>
    if chosen then
      let share := min most (roundedQuotient excess count)
      (width - share) :: reduced most (excess - share) (count - 1) rest
    else width :: reduced most excess count rest

/-- The largest of several numbers, zero when there is none. -/
def largest (numbers : List Nat) : Nat :=
  numbers.foldl max 0

/-- Widths with a sum of at most `room`, if that can be reached: the largest ones come down to the
next largest, again and again. `bound` is at least the amount that is too much. -/
def narrowed (room : Nat) : Nat → List Nat → List Nat
  | 0, widths => widths
  | bound + 1, widths =>
    let excess := total widths - room
    if excess = 0 then widths
    else
      let top := largest widths
      let next := largest (widths.filter (· ≠ top))
      narrowed room bound
        (reduced (min excess (top - next)) excess (widths.count top)
          (widths.map fun width => (width, width == top)))

namespace Table

/-- The columns, with one for every cell of the longest row. -/
def allColumns (t : Table) : List Column :=
  let count := largest (t.rows.map List.length)
  t.columns ++ List.replicate (count - t.columns.length) ⟨"", .left⟩

/-- The texts of a row, one for each column, without controls. -/
def rowTexts (count : Nat) (row : List Text) : List (List Point) :=
  (List.range count).map fun place => visible (row.getD place "").toList

/-- The width of each column: its widest line and a blank at both sides, but not more than there is
room. -/
def naturalWidths (room : Nat) (count : Nat) (lines : List (List (List Point))) : List Nat :=
  (List.range count).map fun place =>
    min room (largest (lines.map fun texts => widestLine 0 (texts.getD place [])) + 2)

/-- The lines of a cell of some width. -/
def cellLines (width : Nat) (alignment : Alignment) (text : List Point) : List (List Point) :=
  if width ≤ 2 then []
  else
    (wrapped (width - 2) alignment .ellipsis text).map fun line =>
      .char ' ' :: (fitted (width - 2) line ++ [.char ' '])

/-- A cell filled with empty lines, below its own or above them. -/
def filledCell (height width : Nat) (below : Bool) (lines : List (List Point)) :
    List (List Point) :=
  let missing := List.replicate (height - lines.length) (blanks width)
  if below then lines ++ missing else missing ++ lines

/-- The lines of a row of cells. The texts of a heading stand at the bottom, all others at the top.
-/
def rowLines (mark : Point) (below : Bool) (columns : List (Column × Nat))
    (texts : List (List Point)) : List (List Point) :=
  let cellsOfRow := (columns.zip texts).map fun ((column, width), text) =>
    (width, cellLines width column.alignment text)
  let height := max 1 (largest (cellsOfRow.map fun (_, lines) => lines.length))
  let filledCells := cellsOfRow.map fun (width, lines) => filledCell height width below lines
  (List.range height).map fun line =>
    mark :: separated mark (filledCells.map fun cell => cell.getD line []) ++ [mark]

/-- All lines of a table on a screen of some width. Without columns only an empty line remains. -/
def lines (width : Nat) (t : Table) : List (List Point) :=
  let columns := t.allColumns
  let count := columns.length
  if count = 0 then [[]]
  else
    let heading := rowTexts count (columns.map (·.heading))
    let body := t.rows.map (rowTexts count)
    let room := width - (count + 1)
    let natural := naturalWidths room count (heading :: body)
    let widths := narrowed room (total natural - room) natural
    let sized := columns.zip widths
    let title := wrapped (total widths + count + 1) .center .fold (visible t.title.toList)
    title ++ [Rule.top.drawn widths] ++ rowLines headingMark false sized heading ++
      [Rule.middle.drawn widths] ++ body.flatMap (rowLines rowMark true sized) ++
      [Rule.bottom.drawn widths]

/-- The table as it comes out on a screen of some width, with a line feed at its end. -/
def text (width : Nat) (t : Table) : Text :=
  Text.joined "\n" ((t.lines width).map Text.ofList) ++ "\n"

end Table

end ChartQuery.Terminal
