/-
# When a chart has no query

A chart fails to compile for a reason that lies in one of its measures, the first such measure
deciding, or else for one of two reasons that lie in the result: a bar chart with measures but
without a named column, and a query with columns that is restricted to a range on a dimension
without a name. The reasons are stated on the description of the chart alone, and the main
statement is that the standard rules report exactly these.
-/

import ChartQuery.Proofs.Metric.Failure
import ChartQuery.Proofs.Query.Assembly
import ChartQuery.Proofs.Query.Where
import Mathlib.Tactic.ByContra

namespace ChartQuery

namespace Visualization

/-- All formats of the chart are text or missing, as they are in every chart that was read. -/
def HasTextFormats (v : Visualization) : Prop :=
  ∀ m ∈ v.buckets.measures, m.HasTextFormat

instance (v : Visualization) : Decidable v.HasTextFormats := by
  unfold HasTextFormats
  infer_instance

/-- The chart has to be sorted by its first metric, and no metric has a name. -/
def IsUnsortable (v : Visualization) : Prop :=
  v.kind = some Compile.barKind ∧ v.buckets.measures ≠ [] ∧
    ∀ m ∈ v.buckets.measures, m.objectUri = ""

instance (v : Visualization) : Decidable v.IsUnsortable := by
  unfold IsUnsortable
  infer_instance

/-- The query of the chart has columns and a range on a dimension without a name. -/
def RangesUnnamed (v : Visualization) (options : CompileOptions) : Prop :=
  options.removeDateItems = false ∧
    ((∃ c ∈ v.buckets.categories, c.displayForm ≠ "") ∨
      ∃ m ∈ v.buckets.measures, m.objectUri ≠ "") ∧
    ∃ f ∈ v.buckets.filters, f.RangesUnnamed

instance (v : Visualization) (options : CompileOptions) : Decidable (v.RangesUnnamed options) := by
  unfold RangesUnnamed
  infer_instance

/-- Why the result would not have the form of a query, if it would not. -/
def resultFailure? (v : Visualization) (options : CompileOptions) : Option CompileFailure :=
  if v.IsUnsortable then some .noColumnToSort
  else if v.RangesUnnamed options then some .unnamedRange
  else none

/-- Why the chart has no query, if it has none: the failure of the first measure that has one, or
that of the result. -/
def failure? (v : Visualization) (options : CompileOptions) : Option CompileFailure :=
  (v.buckets.measures.findSome? (Measure.failure? v.buckets)).or (v.resultFailure? options)

/-! ## Other measures of the same objects -/

variable {v : Visualization} {measures : List Measure} {options : CompileOptions}

/-- What holds of the objects of a chart's measures holds of other measures of these objects. -/
theorem forall_objectUri_withMeasures
    (h : measures.map (·.objectUri) = v.buckets.measures.map (·.objectUri)) (p : Text → Prop) :
    (∀ m ∈ measures, p m.objectUri) ↔ ∀ m ∈ v.buckets.measures, p m.objectUri := by
  have heach : (∀ uri ∈ measures.map (·.objectUri), p uri) ↔
      ∀ uri ∈ v.buckets.measures.map (·.objectUri), p uri := by rw [h]
  rwa [List.forall_mem_map, List.forall_mem_map] at heach

/-- Whether the result would have a form depends on the objects of the measures only. -/
theorem resultFailure?_withMeasures
    (h : measures.map (·.objectUri) = v.buckets.measures.map (·.objectUri)) :
    (v.withMeasures measures).resultFailure? options = v.resultFailure? options := by
  have hall := forall_objectUri_withMeasures h
  have hunsortable : (v.withMeasures measures).IsUnsortable ↔ v.IsUnsortable := by
    have hnone : measures ≠ [] ↔ v.buckets.measures ≠ [] := by
      rw [← List.length_pos_iff, ← List.length_pos_iff, ← List.length_map, h, List.length_map]
    exact and_congr_right fun _ => and_congr hnone (hall (· = ""))
  have hranges : (v.withMeasures measures).RangesUnnamed options ↔ v.RangesUnnamed options := by
    have hnamed : (∃ m ∈ measures, m.objectUri ≠ "") ↔
        ∃ m ∈ v.buckets.measures, m.objectUri ≠ "" := by
      simpa using not_congr (hall (· = ""))
    exact and_congr_right fun _ => and_congr_left' (or_congr_right hnamed)
  simp only [resultFailure?, hunsortable, hranges]

end Visualization

namespace Compile

variable {book : RuleBook} {v : Visualization} {options : CompileOptions}
variable {metrics : List GeneratedMetric}

/-! ## Metrics with and without a name -/

theorem metrics_eq_nil_iff (h : book.metrics v.buckets = .ok metrics) :
    metrics = [] ↔ v.buckets.measures = [] := by
  constructor
  · rintro rfl
    rw [List.eq_nil_iff_forall_not_mem]
    intro m hm
    obtain ⟨g, hg, -⟩ := RuleBook.exists_mem_of_measure h hm
    cases hg
  · intro hnone
    rw [List.eq_nil_iff_forall_not_mem]
    intro g hg
    obtain ⟨position, m, hm, -⟩ := RuleBook.exists_madeFrom_of_mem h hg
    simp [hnone] at hm

/-- No metric has a name exactly when no measure has a uri. -/
theorem forall_element_eq_empty_iff (h : book.metrics v.buckets = .ok metrics) :
    (∀ g ∈ metrics, g.element = "") ↔ ∀ m ∈ v.buckets.measures, m.objectUri = "" := by
  constructor
  · intro hnameless m hm
    obtain ⟨g, hg, position, hmade⟩ := RuleBook.exists_mem_of_measure h hm
    exact hmade.element_eq_empty_iff.mp (hnameless g hg)
  · intro hnameless g hg
    obtain ⟨position, m, hm, hmade⟩ := RuleBook.exists_madeFrom_of_mem h hg
    exact hmade.element_eq_empty_iff.mpr (hnameless m (List.mem_of_getElem? hm))

/-! ## Failures of the result -/

theorem columns_eq_nil_iff (items : List SortItem) :
    columns items = [] ↔ ∀ item ∈ items, item.1 = "" := by
  simp [columns]

/-- A query has no columns when neither a category that takes part nor a metric has a name. -/
theorem requested_eq_nil_iff (v : Visualization) (options : CompileOptions)
    (metrics : List GeneratedMetric) :
    requested v options metrics = [] ↔
      (∀ c ∈ (shown v.buckets options).categories, c.displayForm = "") ∧
        ∀ g ∈ metrics, g.element = "" := by
  simp [requested, columns_eq_nil_iff, categoryItems, metricItems, or_imp, forall_and]

/-- Ordering fails for a bar chart with metrics of which none has a name. -/
theorem orderBy_failsWith (kind : Option Text) (categories items : List SortItem) :
    FailsWith (orderBy kind categories items)
      (if kind = some barKind ∧ items ≠ [] ∧ ∀ item ∈ items, item.1 = "" then
        some .noColumnToSort
      else none) := by
  unfold orderBy
  by_cases hbar : kind = some barKind ∧ items ≠ []
  · rw [if_pos hbar]
    cases hcolumns : columns items with
    | nil =>
      have hnameless := (columns_eq_nil_iff items).mp hcolumns
      rw [if_pos ⟨hbar.1, hbar.2, hnameless⟩]
      rfl
    | cons first rest =>
      have hnamed : ¬ ∀ item ∈ items, item.1 = "" := by
        intro hnameless
        rw [(columns_eq_nil_iff items).mpr hnameless] at hcolumns
        cases hcolumns
      rw [if_neg fun hall => hnamed hall.2.2]
      exact ⟨_, rfl⟩
  · rw [if_neg hbar, if_neg fun hall => hbar ⟨hall.1, hall.2.1⟩]
    exact ⟨_, rfl⟩

/-- A filter entry without a date filter gives no range. -/
theorem not_rangesUnnamed_withoutDates (b : Buckets) :
    ¬ ∃ f ∈ b.withoutDates.filters, f.RangesUnnamed := by
  rintro ⟨f, hf, d, hd, -⟩
  have hnone : f.dateFilter.isNone = true := (List.mem_filter.mp hf).2
  rw [Option.mem_def.mp hd] at hnone
  cases hnone

theorem restrictions_hasUnnamedRange_iff (h : book.metrics v.buckets = .ok metrics)
    (options : CompileOptions) :
    WhereClause.hasUnnamedRange
        (restrictions (requested v options metrics) (shown v.buckets options).filters) = true ↔
      v.RangesUnnamed options := by
  have hempty := requested_eq_nil_iff v options metrics
  rw [forall_element_eq_empty_iff h] at hempty
  unfold restrictions Visualization.RangesUnnamed
  cases hremove : options.removeDateItems with
  | true =>
    have hshown : shown v.buckets options = v.buckets.withoutDates := by simp [shown, hremove]
    have hnone := not_rangesUnnamed_withoutDates v.buckets
    rw [hshown]
    split
    · simp [WhereClause.hasUnnamedRange]
    · rw [WhereClause.hasUnnamedRange_ofFilters]
      simpa using hnone
  | false =>
    have hshown : shown v.buckets options = v.buckets := by simp [shown, hremove]
    rw [hshown] at hempty ⊢
    split
    · next hcolumns =>
      obtain ⟨hcategories, hmeasures⟩ := hempty.mp (List.isEmpty_iff.mp hcolumns)
      simp only [WhereClause.hasUnnamedRange, List.any_nil, Bool.false_eq_true, false_iff]
      rintro ⟨-, ⟨c, hc, hnamed⟩ | ⟨m, hm, hnamed⟩, -⟩
      · exact hnamed (hcategories c hc)
      · exact hnamed (hmeasures m hm)
    · next hcolumns =>
      rw [WhereClause.hasUnnamedRange_ofFilters]
      constructor
      · intro hunnamed
        refine ⟨rfl, ?_, hunnamed⟩
        by_contra hnone
        simp only [not_or, not_exists, not_and, not_not] at hnone
        exact hcolumns (List.isEmpty_iff.mpr (hempty.mpr hnone))
      · exact fun hranges => hranges.2.2

/-- Putting the query together fails for the stated reasons only; a chart that cannot be sorted is
reported before a range without a name. -/
theorem assemble_failsWith (h : book.metrics v.buckets = .ok metrics) (options : CompileOptions) :
    FailsWith (assemble v options metrics) (v.resultFailure? options) := by
  have horder := orderBy_failsWith v.kind
    (categoryItems (shown v.buckets options).categories) (metricItems metrics)
  have hunsortable : (v.kind = some barKind ∧ metricItems metrics ≠ [] ∧
      ∀ item ∈ metricItems metrics, item.1 = "") ↔ v.IsUnsortable := by
    have hitems : metricItems metrics ≠ [] ↔ v.buckets.measures ≠ [] := by
      rw [ne_eq, ne_eq, ← metrics_eq_nil_iff h]
      simp [metricItems]
    have hnameless : (∀ item ∈ metricItems metrics, item.1 = "") ↔
        ∀ g ∈ metrics, g.element = "" := by
      simp [metricItems]
    rw [hitems, hnameless, forall_element_eq_empty_iff h, Visualization.IsUnsortable]
  have hunnamed := restrictions_hasUnnamedRange_iff h options
  have hfailure : v.resultFailure? options =
      (if v.IsUnsortable then some .noColumnToSort else none).or
        (if v.RangesUnnamed options then some .unnamedRange else none) := by
    unfold Visualization.resultFailure?
    by_cases hsortable : v.IsUnsortable <;> simp [hsortable]
  simp only [hunsortable] at horder
  rw [requested] at hunnamed
  rw [assemble, hfailure]
  apply horder.andThen
  · intro e he
    simp only [he]
  · intro order ho
    simp only [ho, hunnamed]
    by_cases hranges : v.RangesUnnamed options
    · rw [if_pos hranges, if_pos hranges]
      rfl
    · rw [if_neg hranges, if_neg hranges]
      exact ⟨_, rfl⟩

/-- A chart whose formats are text compiles under the standard rules unless one of the stated
reasons holds, and then it fails for the first of them. -/
theorem chart_failsWith (hformats : v.HasTextFormats) (options : CompileOptions) :
    FailsWith (chart v options) (v.failure? options) := by
  have hmetrics := RuleBook.metrics_standard_failsWith (b := v.buckets) hformats
  unfold chart withRules Visualization.failure?
  apply hmetrics.andThen
  · intro e he
    rw [he]
  · intro metrics hmade
    rw [hmade]
    exact assemble_failsWith hmade options

/-- A chart for which no reason holds has a query. -/
theorem exists_chart (hformats : v.HasTextFormats) (hfailure : v.failure? options = none) :
    ∃ c, chart v options = .ok c := by
  have hchart := chart_failsWith hformats options
  rwa [hfailure] at hchart

end Compile

end ChartQuery
