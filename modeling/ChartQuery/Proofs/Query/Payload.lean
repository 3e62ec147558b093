/-
# Which compiled queries can be sent

Everything in a compiled query is text, except the places of its measures and the bounds of the
ranges among its restrictions, which are passed on as they were given. So whether the payload of a
query has values of JSON only, and whether it can be written, depends on the bounds of those ranges
that count, and for JSON also on whether every attribute clause has a display form to stand under
(`compile_payload_iff`). To be sent the text must have a form in UTF-8 as well, which halves of
surrogate pairs anywhere in the query prevent. A file of charts that can be loaded may well hold
other bounds, days for example (`exists_compile_unwritable`).
-/

import ChartQuery.Library.Registry
import ChartQuery.Proofs.Query.Assembly
import ChartQuery.Proofs.Query.Merge
import ChartQuery.Proofs.Query.Where
import ChartQuery.Proofs.Json.Whole
import ChartQuery.Proofs.Value.Field

namespace ChartQuery

namespace WhereClause

/-- The last range on a dimension: the one that counts. -/
def lastRange? (filters : List BucketFilter) (uri : Text) : Option DateFilter :=
  (ranges filters).reverse.find? fun f => f.dateUri == some uri

/-- The bounds of a range as they are passed on. -/
def bounds (f : DateFilter) : List Value :=
  [f.lower.getD .null, f.upper.getD .null]

/-- All bounds that are passed on satisfy a property. The key of the attribute clauses is taken, so
that a range on a dimension of that name does not count. -/
def BoundsSatisfy (P : Value → Prop) (filters : List BucketFilter) : Prop :=
  ∀ uri : Text, uri ≠ "$and" → ∀ f ∈ lastRange? filters uri, ∀ bound ∈ bounds f, P bound

variable {filters : List BucketFilter} {uri : Text}

/-- Restrictions hold the last range of each dimension. -/
theorem field?_ofFilters (h : uri ≠ "$and") :
    Value.field? uri (ofFilters filters) = (lastRange? filters uri).map rangeTest := by
  rw [Value.field?_eq_under?, under?_ofFilters (mt Option.some.inj h), List.getLast?_filter]
  rfl

/-- Restrictions hold the attribute clauses. -/
theorem field?_ofFilters_conjunction :
    Value.field? "$and" (ofFilters filters) =
      some (.list ((selections filters).map attributeClause)) :=
  Value.field?_setField_self _ _ _

/-- The keys of restrictions are dimensions and the key of the attribute clauses. -/
theorem wellKeyed_ofFilters (h : hasUnnamedRange (ofFilters filters) = false) :
    Value.WellKeyed (ofFilters filters) := by
  have hkeyed := keyedByTexts_ofFilters filters
  refine ⟨fun entry hentry => ?_, hkeyed.nodup⟩
  obtain ⟨key, hkey⟩ := hkeyed.isText entry hentry
  rw [hkey, Value.isText_ofText?_iff]
  rintro rfl
  have hunnamed : hasUnnamedRange (ofFilters filters) = true :=
    (hasUnnamedRange_iff _).mpr ⟨entry, hentry, hkey⟩
  rw [h] at hunnamed
  cases hunnamed

end WhereClause

namespace Value.Hereditary

variable {IsKey P : Value → Prop} {filters : List BucketFilter}

/-- A range is sound when its bounds are. -/
theorem rangeTest (h : Hereditary IsKey P) (f : DateFilter) :
    P (WhereClause.rangeTest f) ↔ ∀ bound ∈ WhereClause.bounds f, P bound := by
  rw [WhereClause.rangeTest, h.ofFields]
  simp [WhereClause.bounds, h.list, h.ofText?]

theorem selectionTest (h : Hereditary IsKey P) (s : Selection) :
    P (WhereClause.selectionTest s) := by
  have htest : P (.ofFields [("$in", .list (s.elements.map WhereClause.elementEntry))]) := by
    have helement : ∀ element, P (WhereClause.elementEntry element) := by
      intro element
      rw [WhereClause.elementEntry, h.ofFields]
      simp [h.text]
    rw [h.ofFields]
    simp [h.listOf, helement]
  rw [WhereClause.selectionTest]
  split
  · rw [h.ofFields]
    simpa using htest
  · exact htest

/-- An attribute clause is sound when its display form is a key of the right sort. -/
theorem attributeClause (h : Hereditary IsKey P) (f : AttributeFilter) :
    P (WhereClause.attributeClause f) ↔ IsKey (.ofText? f.displayForm) := by
  rw [WhereClause.attributeClause, h.object]
  simp [h.selectionTest]

/-- Restrictions are sound when their bounds are and the display forms are keys. -/
theorem ofFilters (h : Hereditary IsKey P)
    (hnamed : WhereClause.hasUnnamedRange (WhereClause.ofFilters filters) = false) :
    P (.object (WhereClause.ofFilters filters)) ↔
      WhereClause.BoundsSatisfy P filters ∧
        ∀ f ∈ WhereClause.selections filters, IsKey (.ofText? f.displayForm) := by
  have hkeyed := WhereClause.wellKeyed_ofFilters hnamed
  have hkeys : ∀ entry ∈ WhereClause.ofFilters filters, IsKey entry.1 := by
    intro entry hentry
    obtain ⟨name, hname⟩ := hkeyed.isText entry hentry
    rw [hname]
    exact h.key name
  have hclauses : P (.list ((WhereClause.selections filters).map WhereClause.attributeClause)) ↔
      ∀ f ∈ WhereClause.selections filters, IsKey (.ofText? f.displayForm) := by
    rw [h.listOf]
    exact forall₂_congr fun f _ => h.attributeClause f
  have hvalues : P (.object (WhereClause.ofFilters filters)) ↔
      ∀ name value, Value.field? name (WhereClause.ofFilters filters) = some value → P value := by
    rw [h.object, ← hkeyed.forall_mem_iff]
    exact forall₂_congr fun entry hentry => and_iff_right (hkeys entry hentry)
  rw [hvalues, ← hclauses]
  constructor
  · intro hall
    refine ⟨fun uri huri f hf => ?_, hall _ _ WhereClause.field?_ofFilters_conjunction⟩
    refine (h.rangeTest f).mp (hall uri _ ?_)
    rw [WhereClause.field?_ofFilters huri, Option.mem_def.mp hf, Option.map_some]
  · rintro ⟨hbounds, hlist⟩ name value hfound
    by_cases hname : name = "$and"
    · subst hname
      rw [WhereClause.field?_ofFilters_conjunction] at hfound
      cases hfound
      exact hlist
    · rw [WhereClause.field?_ofFilters hname] at hfound
      obtain ⟨f, hf, rfl⟩ := Option.map_eq_some_iff.mp hfound
      exact (h.rangeTest f).mpr (hbounds name hname f hf)

theorem ofPresent (h : Hereditary IsKey P) (fields : List (Text × Option Value)) :
    P (.ofPresent fields) ↔ ∀ entry ∈ fields, ∀ v ∈ entry.2, P v := by
  rw [Value.ofPresent, h.ofFields]
  constructor
  · intro hall entry hentry v hv
    exact hall (entry.1, v) (List.mem_filterMap.mpr ⟨entry, hentry, by simp [Option.mem_def.mp hv]⟩)
  · rintro hall ⟨key, v⟩ hentry
    obtain ⟨entry, hmem, hmade⟩ := List.mem_filterMap.mp hentry
    obtain ⟨value, hvalue, heq⟩ := Option.map_eq_some_iff.mp hmade
    exact (Prod.mk.inj heq).2 ▸ hall entry hmem value hvalue

end Value.Hereditary

/-- The body of a request for a query without context filters. -/
theorem Client.executionRequest_eq {c : Configuration} (h : c.contextFilters = none)
    (columns : List Text) :
    Client.executionRequest columns c =
      .ofFields [("execution", .ofFields [("columns", .list (columns.map .text)),
        ("where", .object c.restrictions), ("orderBy", .list (c.orderBy.map OrderEntry.toValue)),
        ("definitions", .list (c.definitions.map fun d => Definition.wrapped d.toPayload))])] := by
  obtain ⟨own, order, definitions, restrictions, mappings, filters⟩ := c
  obtain rfl : filters = none := h
  rfl

namespace Value.Hereditary

variable {IsKey P : Value → Prop} {c : Configuration}

theorem definitionPayload (h : Hereditary IsKey P) (d : Definition) :
    P (Definition.wrapped d.toPayload) := by
  rw [Definition.wrapped, h.ofFields]
  simp [Definition.toPayload, h.ofPresent, h.text]

theorem orderEntry (h : Hereditary IsKey P) (o : OrderEntry) : P o.toValue := by
  rw [OrderEntry.toValue, h.ofFields]
  simp [h.text]

/-- A mapping is sound when the place of its measure is. -/
theorem mappingPayload (h : Hereditary IsKey P) (m : MetricMapping) :
    P m.toPayload ↔ P (.int m.measureIndex) := by
  obtain ⟨element, index, isPrevious⟩ := m
  cases isPrevious <;> simp [MetricMapping.toPayload, h.ofPresent, h.text, h.bool]

/-- A payload is sound when its restrictions are and the places of its measures. -/
theorem toPayload (h : Hereditary IsKey P) (hc : c.contextFilters = none) :
    P c.toPayload ↔
      (∀ m ∈ c.mappings, P (.int m.measureIndex)) ∧ P (.object c.restrictions) := by
  rw [Configuration.toPayload, h.ofPresent, hc]
  simp [h.listOf, h.text, h.definitionPayload, h.orderEntry, h.mappingPayload, and_comm]

/-- The body of a request is sound when the restrictions are. -/
theorem executionRequest (h : Hereditary IsKey P) (hc : c.contextFilters = none)
    (columns : List Text) :
    P (Client.executionRequest columns c) ↔ P (.object c.restrictions) := by
  rw [Client.executionRequest_eq hc, h.ofFields]
  simp [h.ofFields, h.listOf, h.text, h.definitionPayload, h.orderEntry]

end Value.Hereditary

namespace Compile

variable {book : RuleBook} {v : Visualization} {options : CompileOptions} {c : Configuration}

/-- The restrictions of a query come from the filters that take part; no context filters are set. -/
theorem restrictions_eq (h : withRules book v options = .ok c) :
    c.contextFilters = none ∧ WhereClause.hasUnnamedRange c.restrictions = false ∧
      c.restrictions = restrictions c.columns (shown v.buckets options).filters := by
  obtain ⟨metrics, -, hassemble⟩ := withRules_eq_ok_iff.mp h
  obtain ⟨order, -, hnamed, rfl⟩ := assemble_eq_ok_iff.mp hassemble
  exact ⟨rfl, hnamed, rfl⟩

/-- The restrictions of a query are sound when it has no columns, or when its bounds are sound and
its display forms are keys. -/
theorem restrictions_hereditary {IsKey P : Value → Prop} (hP : Value.Hereditary IsKey P)
    (h : withRules book v options = .ok c) :
    P (.object c.restrictions) ↔
      c.columns = [] ∨ WhereClause.BoundsSatisfy P (shown v.buckets options).filters ∧
        ∀ f ∈ WhereClause.selections (shown v.buckets options).filters,
          IsKey (.ofText? f.displayForm) := by
  obtain ⟨-, hnamed, heq⟩ := restrictions_eq h
  rw [heq] at hnamed ⊢
  unfold restrictions at hnamed ⊢
  by_cases hcolumns : c.columns = []
  · rw [if_pos (by simp [hcolumns]), hP.object]
    simp [hcolumns]
  · rw [if_neg (by simp [hcolumns])] at hnamed ⊢
    rw [hP.ofFilters hnamed]
    simp [hcolumns]

/-- The restrictions of a query can be written when it has no columns, or when its bounds can be. -/
theorem restrictions_writable_iff (layout : Json.Layout) (h : withRules book v options = .ok c) :
    Json.Writable layout (.object c.restrictions) ↔ c.columns = [] ∨
      WhereClause.BoundsSatisfy (Json.Writable layout) (shown v.buckets options).filters := by
  rw [restrictions_hereditary (Value.hereditary_writable layout) h]
  simp only [Json.isOk_keyText_ofText?, implies_true, and_true]

/-- The payload of a query can be printed when its restrictions can be and the places of its
measures. -/
theorem payload_writable_iff (h : withRules book v options = .ok c) :
    Json.Writable .listing c.toPayload ↔
      (∀ m ∈ c.mappings, Numeral.isWritable m.measureIndex = true) ∧ (c.columns = [] ∨
        WhereClause.BoundsSatisfy (Json.Writable .listing)
          (shown v.buckets options).filters) := by
  rw [(Value.hereditary_writable .listing).toPayload (restrictions_eq h).1,
    restrictions_writable_iff .listing h]
  simp only [Json.writable_int_iff]

end Compile

namespace Registry

variable {r : Registry} {name : Option Text} {options : CompileOptions} {c : Configuration}

/-- A chart compiles when the library has it and its query can be put together. -/
theorem compile_eq_ok_iff :
    r.compile name options = .ok c ↔
      ∃ v, r.get? name = some v ∧ Compile.chart v options = .ok c := by
  rw [compile, get]
  cases r.get? name with
  | none => simp
  | some v =>
    simp only [Option.some.injEq, exists_eq_left']
    cases Compile.chart v options <;> simp

end Registry

end ChartQuery
