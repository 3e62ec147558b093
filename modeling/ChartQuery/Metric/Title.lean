/-
# Titles of generated metrics

The server takes titles of at most 255 characters. A title is cut so that it fits together with its
suffix; the cut is marked by an ellipsis, and a closing parenthesis at the end of the title is kept
behind the mark.
-/

import ChartQuery.Text.Basic

namespace ChartQuery.Title

/-- The longest title that the server takes. -/
def limit : Nat := 255

/-- The mark of a cut. -/
def ellipsis : Char := '…'

/-- The suffix of titles for the previous period. -/
def previousSuffix : Text := " - previous year"

/-- The first `n` code points; a negative `n` leaves out as many at the end. -/
def leading (n : Int) (text : List Point) : List Point :=
  match n with
  | .ofNat k => text.take k
  | .negSucc k => text.take (text.length - (k + 1))

/-- The title ends with a closing parenthesis. -/
def endsClosed (title : Text) : Bool :=
  title.toList.getLast? == some (.char ')')

/-- A title followed by a suffix, cut to fit if it is too long. -/
def fitted (title suffix : Text) : Text :=
  let room : Int := (limit : Int) - suffix.length
  if (title.length : Int) ≤ room then title ++ suffix
  else if endsClosed title then
    Text.ofList (leading (room - 2) title.toList ++ [.char ellipsis, .char ')']) ++ suffix
  else Text.ofList (leading (room - 1) title.toList ++ [.char ellipsis]) ++ suffix

/-- The title of a metric that shows the measure itself. -/
def base (title : Option Text) : Text :=
  fitted (title.getD "") ""

/-- The title of a metric that shows the previous period. -/
def previous (title : Option Text) : Text :=
  fitted (title.getD "") previousSuffix

end ChartQuery.Title
