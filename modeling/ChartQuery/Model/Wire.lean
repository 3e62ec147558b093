/-
# Chart descriptions as values

The value of a visualization or one of its parts with every field under the key that travels, fields
that were not given with the value to fall back on. Reading the value gives the part back, except
that a bound of a date filter counts as given afterwards.
-/

import ChartQuery.Model.Visualization

namespace ChartQuery

/-- The value of a sort setting: a word, or an object when it is targeted. -/
def SortSetting.toValue : SortSetting → Value
  | .plain d => .text d.word
  | .targeted d byPrevious =>
    .ofFields [("direction", .text d.word), ("sortByPoP", .bool byPrevious)]
  | .asText s => .text s

/-- The value of a number format. -/
def NumberFormat.toValue : NumberFormat → Value
  | .text s => .text s
  | .foreign v => v

/-- What another function makes of a value that is there, and null otherwise. -/
def Value.ofOption {α : Type} (toValue : α → Value) : Option α → Value
  | some a => toValue a
  | none => .null

/-- The value of a selection. -/
def Selection.toValue (s : Selection) : Value :=
  .ofFields [("attributeElements", .list (s.elements.map .text)),
    ("negativeSelection", .bool s.negative)]

/-- The value of an attribute filter. -/
def AttributeFilter.toValue (f : AttributeFilter) : Value :=
  .ofFields [("attribute", .ofText? f.attributeUri), ("displayForm", .ofText? f.displayForm),
    ("default", f.selection.toValue)]

/-- The value of a date filter. -/
def DateFilter.toValue (f : DateFilter) : Value :=
  .ofFields [("attribute", .ofText? f.attributeUri), ("dimension", .ofText? f.dimension),
    ("dataSet", .ofText? f.dataSet), ("dataset", .ofText? f.lowercaseDataSet),
    ("granularity", .ofText? f.granularity), ("from", f.lower.getD .null),
    ("to", f.upper.getD .null)]

/-- The value of a filter entry. -/
def BucketFilter.toValue (f : BucketFilter) : Value :=
  .ofFields [("listAttributeFilter", .ofOption AttributeFilter.toValue f.attributeFilter),
    ("dateFilter", .ofOption DateFilter.toValue f.dateFilter)]

/-- The value of a measure. -/
def Measure.toValue (m : Measure) : Value :=
  .ofFields [("objectUri", .text m.objectUri), ("type", .text m.kind),
    ("aggregation", .ofText? m.aggregation), ("title", .ofText? m.title),
    ("format", .ofOption NumberFormat.toValue m.format),
    ("sort", .ofOption SortSetting.toValue m.sort), ("showPoP", .bool m.showsPrevious),
    ("showInPercent", .bool m.showsShare),
    ("measureFilters", .list (m.filters.map BucketFilter.toValue))]

/-- The value of a category. -/
def Category.toValue (c : Category) : Value :=
  .ofFields [("displayForm", .text c.displayForm), ("type", .text c.kind),
    ("attribute", .ofText? c.attributeUri), ("sort", .ofText? (c.sort.map Direction.word))]

/-- A measure inside its wrapper. -/
def Measure.toItem (m : Measure) : Value :=
  .ofFields [("measure", m.toValue)]

/-- A category inside its wrapper. -/
def Category.toItem (c : Category) : Value :=
  .ofFields [("category", c.toValue)]

/-- The value of the buckets. -/
def Buckets.toValue (b : Buckets) : Value :=
  .ofFields [("measures", .list (b.measures.map Measure.toItem)),
    ("categories", .list (b.categories.map Category.toItem)),
    ("filters", .list (b.filters.map BucketFilter.toValue))]

/-- The value of a visualization. -/
def Visualization.toValue (v : Visualization) : Value :=
  .ofFields [("name", .ofText? v.name), ("type", .ofText? v.kind), ("buckets", v.buckets.toValue)]

end ChartQuery
