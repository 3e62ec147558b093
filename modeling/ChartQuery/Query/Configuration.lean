/-
# Compiled queries

A configuration is the one thing that compiling a chart gives: the columns to request, how to order
them, the metrics to create, the restrictions, and for every metric column the measure it came from.
It travels as an object (`toValue`, all fields, and `toPayload`, without fields that are not set)
and can be read back.
-/

import ChartQuery.Metric.Definition
import ChartQuery.Model.Wire
import ChartQuery.Schema.Reading

namespace ChartQuery

open Schema

/-- A column to sort by. -/
structure OrderEntry where
  column : Text
  direction : Text
  deriving DecidableEq, Repr, Inhabited

/-- The link from a returned column to the measure that it was made from. -/
structure MetricMapping where
  element : Text
  measureIndex : Int
  isPrevious : Option Bool
  deriving DecidableEq, Repr, Inhabited

/-- What can be chosen when a chart is compiled. -/
structure CompileOptions where
  /-- Date categories and filter entries with a date filter are left out, because the date is
  handled elsewhere. -/
  removeDateItems : Bool
  deriving DecidableEq, Repr, Inhabited

/-- The options when none are given. -/
def CompileOptions.standard : CompileOptions := ⟨false⟩

/-- A compiled query. -/
structure Configuration where
  columns : List Text
  orderBy : List OrderEntry
  definitions : List Definition
  restrictions : Fields
  mappings : List MetricMapping
  /-- Filters of the surrounding context, passed on as they are. -/
  contextFilters : Option (List Fields)
  deriving Repr, Inhabited

/-- A query for nothing. -/
def Configuration.empty : Configuration := ⟨[], [], [], [], [], none⟩

/-- Fields with values, without those whose value is absent. -/
def Value.ofPresent (fields : List (Text × Option Value)) : Value :=
  .ofFields (fields.filterMap fun (k, v?) => v?.map fun v => (k, v))

/-- The value of an order entry. -/
def OrderEntry.toValue (o : OrderEntry) : Value :=
  .ofFields [("column", .text o.column), ("direction", .text o.direction)]

/-- The value of a definition. -/
def Definition.toValue (d : Definition) : Value :=
  .ofFields [("identifier", .text d.identifier), ("expression", .text d.expression),
    ("title", .text d.title), ("format", .ofText? d.format)]

/-- The value of a definition without a format that is not set. -/
def Definition.toPayload (d : Definition) : Value :=
  .ofPresent [("identifier", some (.text d.identifier)),
    ("expression", some (.text d.expression)), ("title", some (.text d.title)),
    ("format", d.format.map .text)]

/-- A definition's value inside its wrapper. -/
def Definition.wrapped (value : Value) : Value :=
  .ofFields [("metricDefinition", value)]

/-- The value of a mapping. -/
def MetricMapping.toValue (m : MetricMapping) : Value :=
  .ofFields [("element", .text m.element), ("measureIndex", .int m.measureIndex),
    ("isPoP", .ofBool? m.isPrevious)]

/-- The value of a mapping without a flag that is not set. -/
def MetricMapping.toPayload (m : MetricMapping) : Value :=
  .ofPresent [("element", some (.text m.element)), ("measureIndex", some (.int m.measureIndex)),
    ("isPoP", m.isPrevious.map .bool)]

/-- The value of the options; their key travels in its long form. -/
def CompileOptions.toValue (o : CompileOptions) : Value :=
  .ofFields [("remove_date_items", .bool o.removeDateItems)]

namespace Configuration

/-- The context filters as a value. -/
def filtersValue (filters : List Fields) : Value :=
  .list (filters.map .object)

/-- The value of a configuration. -/
def toValue (c : Configuration) : Value :=
  .ofFields [("columns", .list (c.columns.map .text)),
    ("orderBy", .list (c.orderBy.map OrderEntry.toValue)),
    ("definitions", .list (c.definitions.map fun d => Definition.wrapped d.toValue)),
    ("where", .object c.restrictions),
    ("metricMappings", .list (c.mappings.map MetricMapping.toValue)),
    ("filters", .ofOption filtersValue c.contextFilters)]

/-- The value of a configuration without anything that is not set. What stands inside the
restrictions and the context filters is kept as it is. -/
def toPayload (c : Configuration) : Value :=
  .ofPresent [("columns", some (.list (c.columns.map .text))),
    ("orderBy", some (.list (c.orderBy.map OrderEntry.toValue))),
    ("definitions", some (.list (c.definitions.map fun d => Definition.wrapped d.toPayload))),
    ("where", some (.object c.restrictions)),
    ("metricMappings", some (.list (c.mappings.map MetricMapping.toPayload))),
    ("filters", c.contextFilters.map filtersValue)]

end Configuration

/-- An order entry. -/
def readOrderEntry : Value → Reading OrderEntry :=
  readRecord "OrderBy" fun record =>
    OrderEntry.mk
      <$> required record (.single "column") readText
      <*> required record (.single "direction") readText

/-- A definition. -/
def readDefinition : Value → Reading Definition :=
  readRecord "MetricDefinition" fun record =>
    Definition.mk
      <$> required record (.single "identifier") readText
      <*> required record (.single "expression") readText
      <*> required record (.single "title") readText
      <*> optional record (.single "format") none (readOptional readText)

/-- A definition inside its wrapper. -/
def readDefinitionItem : Value → Reading Definition :=
  readRecord "MetricDefinitionItem" fun record =>
    required record ⟨"metricDefinition", "metric_definition"⟩ readDefinition

/-- A mapping. -/
def readMetricMapping : Value → Reading MetricMapping :=
  readRecord "MetricMapping" fun record =>
    MetricMapping.mk
      <$> required record (.single "element") readText
      <*> required record ⟨"measureIndex", "measure_index"⟩ readInt
      <*> optional record ⟨"isPoP", "is_po_p"⟩ none (readOptional readBool)

/-- The options. -/
def readCompileOptions : Value → Reading CompileOptions :=
  readRecord "CompileOptions" fun record =>
    CompileOptions.mk <$> optional record (.single "remove_date_items") false readBool

/-- A configuration. -/
def readConfiguration : Value → Reading Configuration :=
  readRecord "ExecutionConfiguration" fun record =>
    Configuration.mk
      <$> optional record (.single "columns") [] (readList readText)
      <*> optional record ⟨"orderBy", "order_by"⟩ [] (readList readOrderEntry)
      <*> optional record (.single "definitions") [] (readList readDefinitionItem)
      <*> optional record (.single "where") [] readObject
      <*> optional record ⟨"metricMappings", "metric_mappings"⟩ [] (readList readMetricMapping)
      <*> optional record (.single "filters") none (readOptional (readList readObject))

end ChartQuery
