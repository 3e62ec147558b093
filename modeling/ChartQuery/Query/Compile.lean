/-
# Compiling a chart

A chart becomes a query in steps that are functions of their own: the metric columns of all
measures, the categories and filters that take part, the columns, the order, the definitions and the
restrictions. Compiling keeps nothing between two charts.

Metrics are always made from the full buckets, also when dates are left out; only columns, order and
restrictions leave them out.
-/

import ChartQuery.Metric.Dependency
import ChartQuery.Metric.Dispatch
import ChartQuery.Query.Configuration
import ChartQuery.Query.Where

namespace ChartQuery.Compile

/-- The type of charts that are always sorted by their first metric. -/
def barKind : Text := "bar"

/-- The buckets that take part in columns, order and restrictions. -/
def shown (b : Buckets) (options : CompileOptions) : Buckets :=
  if options.removeDateItems then b.withoutDates else b

/-- The columns that can be sorted, each with the direction that is asked for. -/
abbrev SortItem := Text × Option Text

/-- The columns of the categories. -/
def categoryItems (categories : List Category) : List SortItem :=
  categories.map fun c => (c.displayForm, c.sort.map Direction.word)

/-- The columns of the metrics. -/
def metricItems (metrics : List GeneratedMetric) : List SortItem :=
  metrics.map fun g => (g.element, g.sort)

/-- The columns to request: all that have a name. -/
def columns (items : List SortItem) : List Text :=
  (items.map (·.1)).filter (· ≠ "")

/-- The order entry of an item that asks for a direction. -/
def orderEntry? (item : SortItem) : Option OrderEntry :=
  (nonEmpty? item.2).map fun direction => ⟨item.1, direction⟩

/-- The order of the query. A bar chart with metrics is sorted by the first one that has a name, the
greatest value first, whatever else is asked for. -/
def orderBy (kind : Option Text) (categories metrics : List SortItem) :
    Except CompileFailure (List OrderEntry) :=
  if kind = some barKind ∧ metrics ≠ [] then
    match (columns metrics).head? with
    | some first => .ok [⟨first, Direction.descending.word⟩]
    | none => .error .noColumnToSort
  else .ok ((categories ++ metrics).filterMap orderEntry?)

/-- The definitions of the metrics that have one. -/
def definitions (metrics : List GeneratedMetric) : List Definition :=
  metrics.filterMap (·.definition)

/-- The mapping of a metric column. -/
def mapping (g : GeneratedMetric) : MetricMapping :=
  ⟨g.element, g.measureIndex, if g.isPrevious then some true else none⟩

/-- The restrictions of a query; a query without columns has none. -/
def restrictions (columns : List Text) (filters : List BucketFilter) : Fields :=
  if columns.isEmpty then [] else WhereClause.ofFilters filters

/-- The query for the metrics of a chart. -/
def assemble (v : Visualization) (options : CompileOptions) (metrics : List GeneratedMetric) :
    Except CompileFailure Configuration :=
  let shownBuckets := shown v.buckets options
  let categories := categoryItems shownBuckets.categories
  let items := metricItems metrics
  let requested := columns (categories ++ items)
  match orderBy v.kind categories items with
  | .error e => .error e
  | .ok order =>
    let restricted := restrictions requested shownBuckets.filters
    if WhereClause.hasUnnamedRange restricted then .error .unnamedRange
    else
      .ok ⟨requested, order, Definition.arranged (definitions metrics), restricted,
        metrics.map mapping, none⟩

/-- The query for a chart under a rule book. -/
def withRules (book : RuleBook) (v : Visualization) (options : CompileOptions) :
    Except CompileFailure Configuration :=
  match book.metrics v.buckets with
  | .error e => .error e
  | .ok metrics => assemble v options metrics

/-- The query for a chart under the standard rules. -/
def chart (v : Visualization) (options : CompileOptions) : Except CompileFailure Configuration :=
  withRules .standard v options

end ChartQuery.Compile
