/-
# Where clauses

What restricts a whole query. Each executable date filter becomes a range under its dimension, a
later one in the place of an earlier one with the same dimension; the executable attribute filters
become a list of clauses under `$and`, which is there even when no filter restricts anything.
-/

import ChartQuery.Model.Visualization
import ChartQuery.Text.Piece

namespace ChartQuery.WhereClause

/-- The key that holds the attribute clauses. -/
def conjunctionKey : Value :=
  .text "$and"

/-- A selected element: what follows the last equals sign of its uri. -/
def elementEntry (element : Text) : Value :=
  .ofFields [("id", .text (Text.ofList (Text.afterLast (.char '=') element.toList)))]

/-- The test of a selection. -/
def selectionTest (s : Selection) : Value :=
  let test := Value.ofFields [("$in", .list (s.elements.map elementEntry))]
  if s.negative then .ofFields [("$not", test)] else test

/-- The clause of an attribute filter, under its display form. -/
def attributeClause (f : AttributeFilter) : Value :=
  .object [(.ofText? f.displayForm, selectionTest f.selection)]

/-- The range of a date filter. -/
def rangeTest (f : DateFilter) : Value :=
  .ofFields [("$between", .list [f.lower.getD .null, f.upper.getD .null]),
    ("$granularity", .ofText? f.granularity)]

/-- The clause of a date filter, under its dimension. -/
def dateEntry (f : DateFilter) : Value × Value :=
  (.ofText? f.dateUri, rangeTest f)

/-- The executable attribute filters of a list of entries, in order. -/
def selections (filters : List BucketFilter) : List AttributeFilter :=
  filters.filterMap BucketFilter.selecting?

/-- The executable date filters of a list of entries, in order. -/
def ranges (filters : List BucketFilter) : List DateFilter :=
  filters.filterMap BucketFilter.ranging?

/-- The restrictions of all executable filters in a single object. -/
def ofFilters (filters : List BucketFilter) : Fields :=
  Value.setField conjunctionKey (.list ((selections filters).map attributeClause))
    (Value.ofEntries ((ranges filters).map dateEntry))

/-- Some range stands under no dimension at all. -/
def hasUnnamedRange (fields : Fields) : Bool :=
  fields.any fun (key, _) => key.sameKey .null

end ChartQuery.WhereClause
