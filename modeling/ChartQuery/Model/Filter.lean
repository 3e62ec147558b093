/-
# Filters

Restrictions of a chart or of one measure. An attribute filter selects elements of an attribute, or
everything but them; a date filter gives a range on a date dimension. A filter is executable when it
restricts something: an attribute filter by naming an element, a date filter by giving both bounds,
where a bound given as null is given all the same.
-/

import ChartQuery.Value.Basic

namespace ChartQuery

/-- The selected elements of an attribute; a negative selection leaves them out. -/
structure Selection where
  elements : List Text
  negative : Bool
  deriving DecidableEq, Repr, Inhabited

/-- A list filter over the elements of an attribute. -/
structure AttributeFilter where
  attributeUri : Option Text
  displayForm : Option Text
  selection : Selection
  deriving DecidableEq, Repr, Inhabited

/-- The filter names at least one element. -/
def AttributeFilter.isExecutable (f : AttributeFilter) : Bool :=
  !f.selection.elements.isEmpty

/-- A range filter on a date dimension. A bound is `none` when it was not given; the dimension may
come under any of three names. -/
structure DateFilter where
  attributeUri : Option Text
  dimension : Option Text
  dataSet : Option Text
  lowercaseDataSet : Option Text
  granularity : Option Text
  lower : Option Value
  upper : Option Value
  deriving Repr, Inhabited

/-- A text that is there and not empty. -/
def nonEmpty? : Option Text → Option Text
  | some s => if s = "" then none else some s
  | none => none

/-- The dimension that the filter restricts: the first name that is given and not empty, or the last
one as it is. -/
def DateFilter.dateUri (f : DateFilter) : Option Text :=
  match nonEmpty? f.dimension with
  | some uri => some uri
  | none =>
    match nonEmpty? f.dataSet with
    | some uri => some uri
    | none => f.lowercaseDataSet

/-- Both bounds were given. -/
def DateFilter.isExecutable (f : DateFilter) : Bool :=
  f.lower.isSome && f.upper.isSome

/-- One entry in a list of filters; normally one of the two is there. -/
structure BucketFilter where
  attributeFilter : Option AttributeFilter
  dateFilter : Option DateFilter
  deriving Repr, Inhabited

/-- The executable attribute filter of an entry. -/
def BucketFilter.selecting? (f : BucketFilter) : Option AttributeFilter :=
  f.attributeFilter.filter AttributeFilter.isExecutable

/-- The executable date filter of an entry. -/
def BucketFilter.ranging? (f : BucketFilter) : Option DateFilter :=
  f.dateFilter.filter DateFilter.isExecutable

end ChartQuery
