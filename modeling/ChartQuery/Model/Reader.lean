/-
# Reading chart descriptions

The readings that turn a dynamic value into a visualization or one of its parts. Every field may
come under the key that travels or under its long name; keys that mean nothing are passed over.
Measures and categories travel inside a wrapper object with a single key.
-/

import ChartQuery.Schema.Reading
import ChartQuery.Model.Visualization

namespace ChartQuery

open Schema

/-- A sort direction by its word. -/
def readDirection (v : Value) : Reading Direction :=
  match v with
  | .text word =>
    if !word.isWhole then .refuse .undecodableText v
    else
      match Direction.ofWord? word with
      | some d => .accepted d
      | none => .refuse .notDirection v
  | _ => .refuse .notDirection v

/-- A targeted sort setting. -/
def readTargetedSort : Value → Reading SortSetting :=
  readRecord "MetricSort" fun record =>
    SortSetting.targeted
      <$> required record (.single "direction") readDirection
      <*> optional record ⟨"sortByPoP", "sort_by_po_p"⟩ false readBool

/-- A sort setting in either form. What is neither is reported under both. -/
def readSortSetting (v : Value) : Reading SortSetting :=
  match (readDirection v).below (.key "str-enum[SortDirection]"),
      (readTargetedSort v).below (.key "MetricSort") with
  | .accepted d, _ => .accepted (.plain d)
  | .rejected _, .accepted setting => .accepted setting
  | .rejected issues, .rejected others => .rejected (issues ++ others)

/-- The selected elements of an attribute. -/
def readSelection : Value → Reading Selection :=
  readRecord "AttributeFilterSelection" fun record =>
    Selection.mk
      <$> optional record ⟨"attributeElements", "attribute_elements"⟩ [] (readList readText)
      <*> optional record ⟨"negativeSelection", "negative_selection"⟩ false readBool

/-- A list filter. -/
def readAttributeFilter : Value → Reading AttributeFilter :=
  readRecord "AttributeFilter" fun record =>
    AttributeFilter.mk
      <$> optional record (.single "attribute") none (readOptional readText)
      <*> optional record ⟨"displayForm", "display_form"⟩ none (readOptional readText)
      <*> optional record ⟨"default", "selection"⟩ ⟨[], false⟩ readSelection

/-- A date filter; its bounds may be anything. -/
def readDateFilter : Value → Reading DateFilter :=
  readRecord "DateFilter" fun record =>
    DateFilter.mk
      <$> optional record (.single "attribute") none (readOptional readText)
      <*> optional record (.single "dimension") none (readOptional readText)
      <*> optional record ⟨"dataSet", "data_set"⟩ none (readOptional readText)
      <*> optional record (.single "dataset") none (readOptional readText)
      <*> optional record (.single "granularity") none (readOptional readText)
      <*> given record ⟨"from", "from_"⟩
      <*> given record (.single "to")

/-- One entry in a list of filters. -/
def readBucketFilter : Value → Reading BucketFilter :=
  readRecord "BucketFilter" fun record =>
    BucketFilter.mk
      <$> optional record ⟨"listAttributeFilter", "list_attribute_filter"⟩ none
        (readOptional readAttributeFilter)
      <*> optional record ⟨"dateFilter", "date_filter"⟩ none (readOptional readDateFilter)

/-- A number format, which in a description is text. -/
def readFormat (v : Value) : Reading NumberFormat :=
  (readText v).map .text

/-- A measure. -/
def readMeasure : Value → Reading Measure :=
  readRecord "Measure" fun record =>
    Measure.mk
      <$> required record ⟨"objectUri", "object_uri"⟩ readText
      <*> required record (.single "type") readText
      <*> optional record (.single "aggregation") none (readOptional readText)
      <*> optional record (.single "title") none (readOptional readText)
      <*> optional record (.single "format") none (readOptional readFormat)
      <*> optional record (.single "sort") none (readOptional readSortSetting)
      <*> optional record ⟨"showPoP", "show_po_p"⟩ false readBool
      <*> optional record ⟨"showInPercent", "show_in_percent"⟩ false readBool
      <*> optional record ⟨"measureFilters", "measure_filters"⟩ [] (readList readBucketFilter)

/-- A category. -/
def readCategory : Value → Reading Category :=
  readRecord "Category" fun record =>
    Category.mk
      <$> required record ⟨"displayForm", "display_form"⟩ readText
      <*> optional record (.single "type") Category.attributeKind readText
      <*> optional record (.single "attribute") none (readOptional readText)
      <*> optional record (.single "sort") none (readOptional readDirection)

/-- A measure inside its wrapper. -/
def readMeasureItem : Value → Reading Measure :=
  readRecord "MeasureItem" fun record => required record (.single "measure") readMeasure

/-- A category inside its wrapper. -/
def readCategoryItem : Value → Reading Category :=
  readRecord "CategoryItem" fun record => required record (.single "category") readCategory

/-- The buckets of a chart. -/
def readBuckets : Value → Reading Buckets :=
  readRecord "Buckets" fun record =>
    Buckets.mk
      <$> optional record (.single "measures") [] (readList readMeasureItem)
      <*> optional record (.single "categories") [] (readList readCategoryItem)
      <*> optional record (.single "filters") [] (readList readBucketFilter)

/-- A chart. -/
def readVisualization : Value → Reading Visualization :=
  readRecord "VisualizationObject" fun record =>
    Visualization.mk
      <$> optional record (.single "name") none (readOptional readText)
      <*> optional record (.single "type") none (readOptional readText)
      <*> optional record (.single "buckets") .empty readBuckets

end ChartQuery
