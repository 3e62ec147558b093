/-
# Compiled queries that travel

A compiled query is sent as an object without the parts that are not set, and the execution of its
columns is asked for by an object that holds all of it but the mappings. Both are laid out in the
same way (`Configuration.LaidOut`), and whatever is laid out so is read back as the query. So
nothing is lost on the way: not a null inside the restrictions, and not the difference between
context filters that are not set and an empty list of them (`readConfiguration_toPayload`).

The restrictions and the context filters may hold anything. Their own keys are texts, each of them
once, as in every object that stands for a mapping from texts (`Configuration.WellKeyed`).
-/

import ChartQuery.Execution.Client
import ChartQuery.Proofs.Schema.Reading
import ChartQuery.Proofs.Value.Field

namespace ChartQuery

open Schema

/-- The free parts of a query, which are passed on as they are, are objects with texts as keys, each
of them once. -/
structure Configuration.WellKeyed (c : Configuration) : Prop where
  restrictions : Value.WellKeyed c.restrictions
  contextFilters : ∀ filters ∈ c.contextFilters, ∀ fields ∈ filters, Value.WellKeyed fields

/-- The fields hold the parts of a query under their keys. Context filters that are not set are left
out, and so may be the mappings when there are none. -/
structure Configuration.LaidOut (c : Configuration) (fields : Fields) : Prop where
  columns : Value.field? "columns" fields = some (.list (c.columns.map .text))
  orderBy : Value.field? "orderBy" fields = some (.list (c.orderBy.map OrderEntry.toValue))
  definitions : Value.field? "definitions" fields =
    some (.list (c.definitions.map fun d => Definition.wrapped d.toPayload))
  restrictions : Value.field? "where" fields = some (.object c.restrictions)
  mappings : Value.field? "metricMappings" fields =
      some (.list (c.mappings.map MetricMapping.toPayload)) ∨
    c.mappings = [] ∧ Value.field? "metricMappings" fields = none ∧
      Value.field? "metric_mappings" fields = none
  contextFilters : Value.field? "filters" fields =
    c.contextFilters.map Configuration.filtersValue

variable {c : Configuration} {fields : Fields}

/-! ## The parts of a query -/

theorem readKeys_eq (h : ∀ entry ∈ fields, entry.1.IsText) :
    readKeys fields = .accepted fields := by
  induction fields with
  | nil => rfl
  | cons entry rest ih =>
    obtain ⟨key, v⟩ := entry
    obtain ⟨name, rfl⟩ := h (key, v) List.mem_cons_self
    rw [readKeys, ih fun e he => h e (List.mem_cons_of_mem _ he)]
    rfl

/-- An object is read as it is, whatever stands under its keys. -/
theorem readObject_eq (h : Value.WellKeyed fields) :
    readObject (.object fields) = .accepted fields := by
  show (readKeys fields).map Value.ofEntries = .accepted fields
  rw [readKeys_eq h.isText, Reading.map, h.ofEntries_eq]

theorem readOrderEntry_toValue (o : OrderEntry) : readOrderEntry o.toValue = .accepted o :=
  rfl

theorem readDefinition_toPayload (d : Definition) : readDefinition d.toPayload = .accepted d := by
  obtain ⟨identifier, expression, title, format⟩ := d
  cases format <;> rfl

theorem readDefinitionItem_wrapped (d : Definition) :
    readDefinitionItem (Definition.wrapped d.toPayload) = .accepted d := by
  change required (.object [(.text "metricDefinition", d.toPayload)])
    ⟨"metricDefinition", "metric_definition"⟩ readDefinition = .accepted d
  exact required_of_field rfl (readDefinition_toPayload d)

theorem readMetricMapping_toPayload (m : MetricMapping) :
    readMetricMapping m.toPayload = .accepted m := by
  obtain ⟨element, index, isPrevious⟩ := m
  cases isPrevious <;> rfl

theorem readFilters_filtersValue {filters : List Fields}
    (h : ∀ fields ∈ filters, Value.WellKeyed fields) :
    readOptional (readList readObject) (Configuration.filtersValue filters) =
      .accepted (some filters) := by
  have hlist : readList readObject (.list (filters.map .object)) = .accepted filters :=
    readList_map_self fun fields hfields => readObject_eq (h fields hfields)
  rw [Configuration.filtersValue, readOptional, hlist]
  · rfl
  · rintro ⟨⟩

/-! ## The whole query -/

/-- What a query is laid out as is read back as the query. -/
theorem Configuration.LaidOut.read_eq (h : c.LaidOut fields) (hc : c.WellKeyed) :
    readConfiguration (.object fields) = .accepted c := by
  have hcolumns : optional (.object fields) (.single "columns") [] (readList readText) =
      .accepted c.columns :=
    optional_of_field h.columns (readList_map_self fun _ _ => rfl)
  have horder : optional (.object fields) ⟨"orderBy", "order_by"⟩ [] (readList readOrderEntry) =
      .accepted c.orderBy :=
    optional_of_field h.orderBy (readList_map_self fun o _ => readOrderEntry_toValue o)
  have hdefinitions : optional (.object fields) (.single "definitions") []
      (readList readDefinitionItem) = .accepted c.definitions :=
    optional_of_field h.definitions (readList_map_self fun d _ => readDefinitionItem_wrapped d)
  have hwhere : optional (.object fields) (.single "where") [] readObject =
      .accepted c.restrictions :=
    optional_of_field h.restrictions (readObject_eq hc.restrictions)
  have hmappings : optional (.object fields) ⟨"metricMappings", "metric_mappings"⟩ []
      (readList readMetricMapping) = .accepted c.mappings := by
    rcases h.mappings with hgiven | ⟨hnone, hwire, hlong⟩
    · exact optional_of_field hgiven (readList_map_self fun m _ => readMetricMapping_toPayload m)
    · rw [hnone]
      exact optional_of_absent hwire hlong
  have hfilters : optional (.object fields) (.single "filters") none
      (readOptional (readList readObject)) = .accepted c.contextFilters := by
    have hgiven := h.contextFilters
    cases hset : c.contextFilters with
    | none =>
      rw [hset] at hgiven
      exact optional_of_absent hgiven hgiven
    | some filters =>
      rw [hset] at hgiven
      exact optional_of_field hgiven (readFilters_filtersValue (hc.contextFilters filters hset))
  simp only [readConfiguration, readRecord, hcolumns, horder, hdefinitions, hwhere, hmappings,
    hfilters]
  rfl

theorem Configuration.toPayload_laidOut (c : Configuration) :
    ∃ fields, c.toPayload = .object fields ∧ c.LaidOut fields := by
  obtain ⟨columns, order, definitions, restrictions, mappings, filters⟩ := c
  cases filters with
  | none => exact ⟨_, rfl, rfl, rfl, rfl, rfl, .inl rfl, rfl⟩
  | some filters => exact ⟨_, rfl, rfl, rfl, rfl, rfl, .inl rfl, rfl⟩

/-- The body of a request holds the query without its mappings. -/
theorem Client.executionRequest_laidOut (c : Configuration) :
    ∃ fields, fieldOf? "execution" (executionRequest c.columns c) = some (.object fields) ∧
      Configuration.LaidOut { c with mappings := [] } fields := by
  obtain ⟨columns, order, definitions, restrictions, mappings, filters⟩ := c
  cases filters with
  | none => exact ⟨_, rfl, rfl, rfl, rfl, rfl, .inr ⟨rfl, rfl, rfl⟩, rfl⟩
  | some filters => exact ⟨_, rfl, rfl, rfl, rfl, rfl, .inr ⟨rfl, rfl, rfl⟩, rfl⟩

/-- A query is read back from its payload, and from the body of the request for its columns but for
the mappings. In both, context filters stand exactly when they are set, be it to an empty list. -/
theorem readConfiguration_toPayload (h : c.WellKeyed) :
    readConfiguration c.toPayload = .accepted c ∧
      Client.fieldOf? "filters" c.toPayload =
        c.contextFilters.map Configuration.filtersValue ∧
      ∃ execution,
        Client.fieldOf? "execution" (Client.executionRequest c.columns c) = some execution ∧
        readConfiguration execution = .accepted { c with mappings := [] } ∧
        Client.fieldOf? "filters" execution =
          c.contextFilters.map Configuration.filtersValue := by
  obtain ⟨fields, hpayload, hlaid⟩ := c.toPayload_laidOut
  obtain ⟨execution, hrequest, hsent⟩ := Client.executionRequest_laidOut c
  have hkeyed : Configuration.WellKeyed { c with mappings := [] } :=
    ⟨h.restrictions, h.contextFilters⟩
  rw [hpayload]
  exact ⟨hlaid.read_eq h, hlaid.contextFilters, .object execution, hrequest,
    hsent.read_eq hkeyed, hsent.contextFilters⟩

/-- Nulls inside the restrictions, a definition without a format, mappings with and without a flag,
and context filters that are set to nothing. -/
theorem readConfiguration_toPayload_nulls :
    let range := Value.ofFields
      [("$between", .list [.null, .list [.object []]]), ("$granularity", .null)]
    let c : Configuration := ⟨["/obj/1", "m"], [⟨"m", "desc"⟩],
      [⟨"m", "SELECT 1", "One", none⟩, ⟨"n", "SELECT 2", "Two", some "#,##0"⟩],
      [(.text "/obj/9", range), (.text "$and", .null)],
      [⟨"m", 0, some true⟩, ⟨"n", 1, none⟩, ⟨"", -1, some false⟩], some []⟩
    readConfiguration c.toPayload = .accepted c ∧
      Client.fieldOf? "filters" c.toPayload = some (.list []) ∧
      ∃ execution,
        Client.fieldOf? "execution" (Client.executionRequest c.columns c) = some execution ∧
        readConfiguration execution = .accepted { c with mappings := [] } ∧
        Client.fieldOf? "filters" execution = some (.list []) := by
  intro range c
  have hkeyed : c.WellKeyed := by
    refine ⟨⟨?_, by simp [c]⟩, by simp [c]⟩
    intro entry hentry
    rcases List.mem_cons.mp hentry with rfl | hentry
    · exact ⟨"/obj/9", rfl⟩
    · exact ⟨"$and", congrArg Prod.fst (List.mem_singleton.mp hentry)⟩
  exact readConfiguration_toPayload hkeyed

end ChartQuery
