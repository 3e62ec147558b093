/-
# What a compiled query is made of

A query that compiles has metrics, an order and restrictions in which every range is named, and is
put together from them. Everything that holds of a compiled query is shown through this statement.
-/

import ChartQuery.Query.Compile

namespace ChartQuery.Compile

variable {book : RuleBook} {v : Visualization} {options : CompileOptions}

theorem eq_ok_of_toOption {ε α : Type} {x : Except ε α} {a : α}
    (h : x.toOption = some a) : x = .ok a := by
  cases x with
  | error e => cases h
  | ok b =>
    cases h
    rfl

/-- The columns of a query: those of the categories that take part, then those of the metrics. -/
def requested (v : Visualization) (options : CompileOptions) (metrics : List GeneratedMetric) :
    List Text :=
  columns (categoryItems (shown v.buckets options).categories ++ metricItems metrics)

/-- The categories that take part are all, or all but the dates. -/
theorem shown_categories (b : Buckets) (options : CompileOptions) :
    (shown b options).categories =
      b.categories.filter fun c => !(options.removeDateItems && c.isDate) := by
  cases hremove : options.removeDateItems with
  | true => simp [shown, hremove, Buckets.withoutDates]
  | false =>
    rw [shown, if_neg (by simp [hremove])]
    exact (List.filter_eq_self.mpr fun c _ => rfl).symm

/-- The filter entries that take part are all, or all but those that hold a date filter. -/
theorem shown_filters (b : Buckets) (options : CompileOptions) :
    (shown b options).filters =
      b.filters.filter fun f => !(options.removeDateItems && f.dateFilter.isSome) := by
  cases hremove : options.removeDateItems with
  | true => simp [shown, hremove, Buckets.withoutDates]
  | false =>
    rw [shown, if_neg (by simp [hremove])]
    exact (List.filter_eq_self.mpr fun f _ => rfl).symm

/-- The filters that take part depend on the filters of the chart alone. -/
theorem shown_filters_congr {b₁ b₂ : Buckets} (h : b₁.filters = b₂.filters)
    (options : CompileOptions) : (shown b₁ options).filters = (shown b₂ options).filters := by
  unfold shown
  split <;> simp [Buckets.withoutDates, h]

/-- The columns of the categories that take part and have a name. -/
def categoryColumns (v : Visualization) (options : CompileOptions) : List Text :=
  ((v.buckets.categories.filter fun c => !(options.removeDateItems && c.isDate)).map
    (·.displayForm)).filter (· ≠ ("" : Text))

/-- The columns are those of the categories, then the named elements of the mappings. -/
theorem requested_eq (v : Visualization) (options : CompileOptions)
    (metrics : List GeneratedMetric) :
    requested v options metrics =
      categoryColumns v options ++
        ((metrics.map mapping).map (·.element)).filter (· ≠ ("" : Text)) := by
  have hcategories : (categoryItems (shown v.buckets options).categories).map (·.1) =
      (v.buckets.categories.filter fun c => !(options.removeDateItems && c.isDate)).map
        (·.displayForm) := by
    rw [shown_categories]
    simp [categoryItems]
  have hmetrics : (metricItems metrics).map (·.1) = (metrics.map mapping).map (·.element) := by
    simp [metricItems, mapping]
  rw [requested, columns, List.map_append, List.filter_append, hcategories, hmetrics]
  rfl

/-- A query is put together when its columns can be ordered and its ranges are named. -/
theorem assemble_eq_ok_iff {metrics : List GeneratedMetric} {c : Configuration} :
    assemble v options metrics = .ok c ↔
      ∃ order,
        orderBy v.kind (categoryItems (shown v.buckets options).categories)
            (metricItems metrics) = .ok order ∧
          WhereClause.hasUnnamedRange
            (restrictions (requested v options metrics) (shown v.buckets options).filters) = false ∧
          c = ⟨requested v options metrics, order, Definition.arranged (definitions metrics),
            restrictions (requested v options metrics) (shown v.buckets options).filters,
            metrics.map mapping, none⟩ := by
  rw [assemble]
  split
  · next horder => simp [horder]
  · next order horder =>
    simp only [horder, Except.ok.injEq, exists_eq_left']
    split
    · next hunnamed => simp [requested, hunnamed]
    · next hnamed => simp [requested, hnamed, eq_comm]

/-- A chart compiles when its metrics can be made and the query can be put together. -/
theorem withRules_eq_ok_iff {c : Configuration} :
    withRules book v options = .ok c ↔
      ∃ metrics, book.metrics v.buckets = .ok metrics ∧ assemble v options metrics = .ok c := by
  rw [withRules]
  split
  · next hmetrics => simp [hmetrics]
  · next metrics hmetrics => simp [hmetrics]

/-- A query has the columns of its categories, then the named elements of its mappings. -/
theorem columns_eq {c : Configuration} (h : withRules book v options = .ok c) :
    c.columns =
      categoryColumns v options ++ (c.mappings.map (·.element)).filter (· ≠ ("" : Text)) := by
  obtain ⟨metrics, -, hassemble⟩ := withRules_eq_ok_iff.mp h
  obtain ⟨order, -, -, rfl⟩ := assemble_eq_ok_iff.mp hassemble
  exact requested_eq v options metrics

/-- The columns of metrics are the names that their mappings have. -/
theorem columns_metricItems_eq_elements (metrics : List GeneratedMetric) :
    columns (metricItems metrics) =
      ((metrics.map mapping).map (·.element)).filter (· ≠ ("" : Text)) := by
  rw [columns, metricItems, List.map_map, List.map_map]
  rfl

/-- A query defines the arranged definitions of its metrics. -/
theorem definitions_eq {metrics : List GeneratedMetric} {c : Configuration}
    (hmetrics : book.metrics v.buckets = .ok metrics) (h : withRules book v options = .ok c) :
    c.definitions = Definition.arranged (definitions metrics) := by
  obtain ⟨made, hmade, hassemble⟩ := withRules_eq_ok_iff.mp h
  obtain ⟨order, -, -, rfl⟩ := assemble_eq_ok_iff.mp hassemble
  rw [hmetrics] at hmade
  cases hmade
  rfl

end ChartQuery.Compile
