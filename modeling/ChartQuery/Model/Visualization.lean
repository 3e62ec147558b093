/-
# Visualizations

A visualization is a chart as it is described: a name, a type, and three buckets of measures,
categories and filters. Only the type of a bar chart changes how it is compiled.
-/

import ChartQuery.Model.Measure

namespace ChartQuery

/-- What a chart shows, by what it is sliced, and how it is restricted. -/
structure Buckets where
  measures : List Measure
  categories : List Category
  filters : List BucketFilter
  deriving Repr, Inhabited

namespace Buckets

/-- Buckets with nothing in them. -/
def empty : Buckets := ⟨[], [], []⟩

/-- The first category that is a date. -/
def dateCategory (b : Buckets) : Option Category :=
  b.categories.find? Category.isDate

/-- The first date filter of the chart, executable or not. -/
def dateFilter (b : Buckets) : Option DateFilter :=
  b.filters.findSome? (·.dateFilter)

/-- The attribute whose previous period is shown: that of the date category, or of the date filter
when there is no date category. -/
def dateAttribute (b : Buckets) : Option Text :=
  match b.dateCategory with
  | some c => nonEmpty? c.attributeUri
  | none => b.dateFilter.bind fun f => nonEmpty? f.attributeUri

/-- The attribute over whose values a share is taken: that of the first category. -/
def shareAttribute (b : Buckets) : Option Text :=
  b.categories.head?.bind fun c => nonEmpty? c.attributeUri

/-- The buckets without dates: no date categories, and no filter entries that hold a date filter. -/
def withoutDates (b : Buckets) : Buckets :=
  { b with
    categories := b.categories.filter fun c => !c.isDate
    filters := b.filters.filter fun f => f.dateFilter.isNone }

end Buckets

/-- A chart as it is described. -/
structure Visualization where
  name : Option Text
  kind : Option Text
  buckets : Buckets
  deriving Repr, Inhabited

/-- The chart with other measures. -/
def Visualization.withMeasures (v : Visualization) (measures : List Measure) : Visualization :=
  { v with buckets := { v.buckets with measures := measures } }

end ChartQuery
