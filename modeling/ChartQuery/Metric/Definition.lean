/-
# Definitions and generated metrics

A definition is what the server needs to create a metric on the fly. A generated metric is a column
made from a measure: a plain reference to an object of the project, or a new metric with its
definition.
-/

import ChartQuery.Text.Basic

namespace ChartQuery

/-- A metric for the server to create. -/
structure Definition where
  identifier : Text
  expression : Text
  title : Text
  format : Option Text
  deriving DecidableEq, Repr, Inhabited

/-- A column made from the measure at a position. -/
structure GeneratedMetric where
  element : Text
  measureIndex : Int
  isPrevious : Bool
  definition : Option Definition
  sort : Option Text
  deriving DecidableEq, Repr, Inhabited

/-- The expression of a metric that has a definition. -/
def GeneratedMetric.expression (g : GeneratedMetric) : Option Text :=
  g.definition.map (·.expression)

end ChartQuery
