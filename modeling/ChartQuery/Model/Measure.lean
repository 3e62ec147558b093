/-
# Measures and categories

A measure is something to be computed from an object of the project; a category is something to
slice it by. The kind of a measure is any text, so that an unknown kind reaches the rules, which
reject it.
-/

import ChartQuery.Model.Filter
import ChartQuery.Model.Sort

namespace ChartQuery

/-- The format of a number. What a server states as a format need not be text. -/
inductive NumberFormat where
  | text (s : Text)
  | foreign (v : Value)
  deriving Repr, Inhabited

/-- A measure of a chart. -/
structure Measure where
  objectUri : Text
  kind : Text
  aggregation : Option Text
  title : Option Text
  format : Option NumberFormat
  sort : Option SortSetting
  showsPrevious : Bool
  showsShare : Bool
  filters : List BucketFilter
  deriving Repr, Inhabited

namespace Measure

/-- The kind of measures that are facts. -/
def factKind : Text := "fact"

/-- The kind of measures that are attributes. -/
def attributeKind : Text := "attribute"

/-- The kind of measures that are metrics of the project. -/
def metricKind : Text := "metric"

/-- The attribute filters of the measure that restrict something, in order. -/
def selections (m : Measure) : List AttributeFilter :=
  m.filters.filterMap BucketFilter.selecting?

/-- Some filter of the measure selects elements. -/
def hasSelection (m : Measure) : Bool :=
  !m.selections.isEmpty

/-- The measure needs a generated metric: it is a fact or an attribute, or it is filtered. -/
def isDerived (m : Measure) : Bool :=
  m.kind == factKind || m.kind == attributeKind || m.hasSelection

/-- The direction in which a column of the measure is sorted. -/
def directionFor (m : Measure) (isPrevious : Bool) : Option Text :=
  m.sort.bind (·.directionFor isPrevious)

end Measure

/-- A category of a chart. -/
structure Category where
  displayForm : Text
  kind : Text
  attributeUri : Option Text
  sort : Option Direction
  deriving DecidableEq, Repr, Inhabited

namespace Category

/-- The kind of categories that are dates. -/
def dateKind : Text := "date"

/-- The kind of a category that does not state one. -/
def attributeKind : Text := "attribute"

/-- The category is a date. -/
def isDate (c : Category) : Bool :=
  c.kind == dateKind

end Category

end ChartQuery
