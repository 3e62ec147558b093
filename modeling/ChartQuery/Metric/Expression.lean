/-
# Expressions of generated metrics

The query language of the server refers to objects by uri in square brackets and wraps them in
aggregations:

    SELECT SUM([/gdc/md/p1/obj/1]) WHERE [/gdc/md/p1/obj/2] IN ([e1],[e2])

An expression is a text built from few shapes: an aggregate with the restrictions of its measure, a
share of the total over an attribute, and the previous period of either.
-/

import ChartQuery.Model.Measure
import ChartQuery.Text.Case
import ChartQuery.Text.Piece

namespace ChartQuery.Expression

/-- An object in square brackets. -/
def bracketed (uri : Text) : Text :=
  "[" ++ uri ++ "]"

/-- A uri as it is written; a missing one is written as a word of its own. -/
def shown (uri : Option Text) : Text :=
  uri.getD "None"

/-- The restriction of an attribute to the selected elements, or to all others. -/
def clause (f : AttributeFilter) : Text :=
  bracketed (shown f.attributeUri) ++ " " ++ (if f.selection.negative then "NOT " else "") ++
    "IN (" ++ Text.joined "," (f.selection.elements.map bracketed) ++ ")"

/-- The clause of a filter that restricts something. -/
def clause? (f : AttributeFilter) : Option Text :=
  if f.isExecutable then some (clause f) else none

/-- The tail that holds all restrictions of a measure, empty when there is none. -/
def restriction (m : Measure) : Text :=
  match m.selections with
  | [] => ""
  | fs => " WHERE " ++ Text.joined " AND " (fs.map clause)

/-- The object of a measure inside its aggregation, if it has one. -/
def aggregated (m : Measure) : Text :=
  match nonEmpty? m.aggregation with
  | some name => Text.upper name ++ "(" ++ bracketed m.objectUri ++ ")"
  | none => bracketed m.objectUri

/-- The selection of an aggregate without restrictions. -/
def unrestricted (m : Measure) : Text :=
  "SELECT " ++ aggregated m

/-- The selection of an aggregate with the restrictions of its measure. -/
def aggregate (m : Measure) : Text :=
  unrestricted m ++ restriction m

/-- The selection whose share is taken: the aggregate of a derived measure, else the object as it
is. -/
def shareBase (m : Measure) : Text :=
  if m.isDerived then unrestricted m else "SELECT " ++ bracketed m.objectUri

/-- The share of a measure in its total over all values of an attribute. Both sides of the division
carry the restrictions. -/
def share (m : Measure) (attributeUri : Option Text) : Text :=
  "SELECT (" ++ shareBase m ++ restriction m ++ ") / (" ++ shareBase m ++ " BY ALL " ++
    bracketed (shown attributeUri) ++ restriction m ++ ")"

/-- The previous period of a reference or of an expression in parentheses. -/
def previous (dateAttributeUri inner : Text) : Text :=
  "SELECT " ++ inner ++ " FOR PREVIOUS (" ++ bracketed dateAttributeUri ++ ")"

end ChartQuery.Expression
