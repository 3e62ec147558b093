/-
# Constructions

How a measure becomes columns. A construction gives one generated metric, or two when the previous
period is shown: that of the previous period first, then the one it is compared with.
-/

import ChartQuery.Metric.Definition
import ChartQuery.Metric.Expression
import ChartQuery.Metric.Name
import ChartQuery.Metric.Title
import ChartQuery.Model.Visualization

namespace ChartQuery

/-- The ways to make columns from a measure. -/
inductive Construction where
  | reference
  | aggregate
  | share
  | previous
  | previousShare
  deriving DecidableEq, Repr, Inhabited

namespace Construction

/-- The format of shares. -/
def shareFormat : Text := "#,##0.00%"

/-- The token in the names of shares. -/
def shareToken : Text := "percent"

/-- The token in the names of metrics for the previous period. -/
def previousToken : Text := "pop"

/-- The token in the names of aggregates: the aggregation in small letters. -/
def aggregateToken (m : Measure) : Text :=
  Text.lower ((nonEmpty? m.aggregation).getD "base")

/-- A format as text. -/
def formatText : NumberFormat → Text
  | .text s => s
  | .foreign v => v.display

/-- A definition, provided that its format is text. -/
def define (identifier expression title : Text) (format : Option NumberFormat) :
    Except CompileFailure Definition :=
  match format with
  | none => .ok ⟨identifier, expression, title, none⟩
  | some (.text s) => .ok ⟨identifier, expression, title, some s⟩
  | some (.foreign v) => .error (.foreignFormat v)

/-- A new metric for a measure. -/
def generate (m : Measure) (index : Int) (isPrevious : Bool) (token expression title : Text)
    (format : Option NumberFormat) : Except CompileFailure GeneratedMetric :=
  match MetricName.ofContent m token expression title (format.map formatText) with
  | .error e => .error e
  | .ok identifier =>
    match define identifier expression title format with
    | .error e => .error e
    | .ok definition =>
      .ok ⟨identifier, index, isPrevious, some definition, m.directionFor isPrevious⟩

/-- The object of a measure as it is. -/
def referenceMetric (m : Measure) (index : Int) : GeneratedMetric :=
  ⟨m.objectUri, index, false, none, m.directionFor false⟩

/-- The aggregate of a measure. -/
def aggregateMetric (m : Measure) (index : Int) : Except CompileFailure GeneratedMetric :=
  generate m index false (aggregateToken m) (Expression.aggregate m) (Title.base m.title) m.format

/-- The share of a measure in the total over the first category. -/
def shareMetric (m : Measure) (b : Buckets) (index : Int) :
    Except CompileFailure GeneratedMetric :=
  match b.shareAttribute with
  | none => .error (.noShareAttribute m.title)
  | some uri =>
    generate m index false shareToken (Expression.share m (some uri)) (Title.base m.title)
      (some (.text shareFormat))

/-- The previous period of what `inner` writes down. -/
def previousMetric (m : Measure) (dateAttributeUri inner : Text) (format : Option NumberFormat)
    (index : Int) : Except CompileFailure GeneratedMetric :=
  generate m index true previousToken (Expression.previous dateAttributeUri inner)
    (Title.previous m.title) format

/-- The metric that a previous period is compared with, and how an expression refers to it. -/
def comparedMetric (m : Measure) (index : Int) :
    Except CompileFailure (GeneratedMetric × Text) :=
  if m.isDerived then
    match aggregateMetric m index with
    | .error e => .error e
    | .ok g => .ok (g, "(" ++ Expression.aggregate m ++ ")")
  else .ok (referenceMetric m index, Expression.bracketed m.objectUri)

/-- The previous period of a measure and the measure itself. -/
def previousPair (m : Measure) (b : Buckets) (index : Int) :
    Except CompileFailure (List GeneratedMetric) :=
  match b.dateAttribute with
  | none => .error (.noDateAttribute m.title)
  | some date =>
    match comparedMetric m index with
    | .error e => .error e
    | .ok (compared, inner) =>
      match previousMetric m date inner m.format index with
      | .error e => .error e
      | .ok earlier => .ok [earlier, compared]

/-- The previous period of a share and the share itself. -/
def previousSharePair (m : Measure) (b : Buckets) (index : Int) :
    Except CompileFailure (List GeneratedMetric) :=
  match b.dateAttribute with
  | none => .error (.noDateAttribute m.title)
  | some date =>
    match shareMetric m b index with
    | .error e => .error e
    | .ok compared =>
      let inner := "(" ++ Expression.share m b.shareAttribute ++ ")"
      match previousMetric m date inner (some (.text shareFormat)) index with
      | .error e => .error e
      | .ok earlier => .ok [earlier, compared]

/-- The columns that a construction makes from the measure at a position. -/
def build (c : Construction) (m : Measure) (b : Buckets) (index : Int) :
    Except CompileFailure (List GeneratedMetric) :=
  match c with
  | .reference => .ok [referenceMetric m index]
  | .aggregate => (aggregateMetric m index).map ([·])
  | .share => (shareMetric m b index).map ([·])
  | .previous => previousPair m b index
  | .previousShare => previousSharePair m b index

end Construction

end ChartQuery
