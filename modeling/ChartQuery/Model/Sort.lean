/-
# Sort settings

The direction in which a column is sorted, and the setting by which a measure asks for it: a plain
direction holds for every column of the measure, a targeted one either for the column of the
previous period or for the measure's own column.
-/

import ChartQuery.Text.Basic

namespace ChartQuery

/-- A sort direction. -/
inductive Direction where
  | ascending
  | descending
  deriving DecidableEq, Repr, Inhabited

/-- The word for a direction. -/
def Direction.word : Direction → Text
  | .ascending => "asc"
  | .descending => "desc"

/-- The direction of a word; case matters. -/
def Direction.ofWord? (word : Text) : Option Direction :=
  if word = "asc" then some .ascending
  else if word = "desc" then some .descending
  else none

/-- The sort setting of a measure. A direction that a caller hands over as text is used as it is. -/
inductive SortSetting where
  | plain (direction : Direction)
  | targeted (direction : Direction) (byPrevious : Bool)
  | asText (direction : Text)
  deriving DecidableEq, Repr, Inhabited

/-- The direction that a setting asks for, for the column of the previous period (`isPrevious`) or
for the measure's own column. -/
def SortSetting.directionFor (isPrevious : Bool) : SortSetting → Option Text
  | .plain d => some d.word
  | .targeted d byPrevious => if isPrevious = byPrevious then some d.word else none
  | .asText s => some s

end ChartQuery
