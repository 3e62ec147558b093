/-
# Charts that differ in sort settings

How measures and categories are sorted is passed through every step that makes a query, and it shows
in the order of the query alone: charts that differ in their sort settings fail for the same reason,
or have queries that differ in nothing but their order. A bar chart with measures does not even look
at the settings. It is ordered by the column behind those of the categories, which is its first
metric with a name.
-/

import ChartQuery.Proofs.Metric.Sorting
import ChartQuery.Proofs.Query.Order

namespace ChartQuery

/-- The category without its sort setting. -/
def Category.withoutSort (c : Category) : Category :=
  { c with sort := none }

namespace Visualization

/-- The chart without the sort settings of its measures and categories. -/
def withoutSorts (v : Visualization) : Visualization :=
  { v with
    buckets := { v.buckets with
      measures := v.buckets.measures.map Measure.withoutSort
      categories := v.buckets.categories.map Category.withoutSort } }

variable {v v₁ v₂ : Visualization} {options : CompileOptions}

theorem dateAttribute_withoutSorts (v : Visualization) :
    v.withoutSorts.buckets.dateAttribute = v.buckets.dateAttribute := by
  have hcategory : v.withoutSorts.buckets.dateCategory =
      v.buckets.dateCategory.map Category.withoutSort := by
    show (v.buckets.categories.map Category.withoutSort).find? Category.isDate = _
    rw [List.find?_map]
    rfl
  rw [Buckets.dateAttribute, Buckets.dateAttribute, hcategory]
  cases v.buckets.dateCategory <;> rfl

theorem shareAttribute_withoutSorts (v : Visualization) :
    v.withoutSorts.buckets.shareAttribute = v.buckets.shareAttribute := by
  show (v.buckets.categories.map Category.withoutSort).head?.bind _ = _
  rw [List.head?_map, Buckets.shareAttribute]
  cases v.buckets.categories.head? <;> rfl

/-- The columns of the categories do not depend on how these are sorted. -/
theorem categoryColumns_withoutSorts (v : Visualization) (options : CompileOptions) :
    Compile.categoryColumns v.withoutSorts options = Compile.categoryColumns v options := by
  unfold Compile.categoryColumns withoutSorts
  simp only [List.filter_map, List.map_map]
  rfl

/-- Neither does the reason for which the result would have no form. -/
theorem resultFailure?_withoutSorts :
    v.withoutSorts.resultFailure? options = v.resultFailure? options := by
  have hunsortable : v.withoutSorts.IsUnsortable ↔ v.IsUnsortable := by
    simp [IsUnsortable, withoutSorts, Measure.withoutSort]
  have hranges : v.withoutSorts.RangesUnnamed options ↔ v.RangesUnnamed options := by
    simp [RangesUnnamed, withoutSorts, Measure.withoutSort, Category.withoutSort]
  simp only [resultFailure?, hunsortable, hranges]

/-- The measures of charts that differ in sort settings ask for the same metrics, one by one. -/
theorem forall₂_asksLike (hv : v₁.withoutSorts = v₂.withoutSorts) :
    List.Forall₂ Measure.AsksLike v₁.buckets.measures v₂.buckets.measures := by
  have hmeasures : v₁.buckets.measures.map Measure.withoutSort =
      v₂.buckets.measures.map Measure.withoutSort :=
    congrArg (fun v => v.buckets.measures) hv
  rw [← List.forall₂_eq_eq_eq, List.forall₂_map_left_iff, List.forall₂_map_right_iff]
    at hmeasures
  exact hmeasures.imp fun m₁ m₂ h => Measure.AsksLike.of_withoutSort h

end Visualization

namespace Compile

variable {v v₁ v₂ : Visualization} {options : CompileOptions} {c c₁ c₂ : Configuration}
variable {metrics metrics₁ metrics₂ : List GeneratedMetric}

/-- The metrics of charts that differ in sort settings differ in their directions only. -/
theorem metrics_agree (hv : v₁.withoutSorts = v₂.withoutSorts) :
    AgreeOn (List.map GeneratedMetric.unsorted) (RuleBook.standard.metrics v₁.buckets)
      (RuleBook.standard.metrics v₂.buckets) := by
  have hdate : v₁.buckets.dateAttribute = v₂.buckets.dateAttribute := by
    rw [← v₁.dateAttribute_withoutSorts, hv, v₂.dateAttribute_withoutSorts]
  have hshare : v₁.buckets.shareAttribute = v₂.buckets.shareAttribute := by
    rw [← v₁.shareAttribute_withoutSorts, hv, v₂.shareAttribute_withoutSorts]
  exact RuleBook.metricsFrom_congr (Visualization.forall₂_asksLike hv) hdate hshare 0

/-- What does not look at directions is the same for metrics that differ in their directions. -/
theorem map_congr_of_unsorted {β : Type} {f : GeneratedMetric → β}
    (hf : ∀ g, f g.unsorted = f g)
    (h : metrics₁.map GeneratedMetric.unsorted = metrics₂.map GeneratedMetric.unsorted) :
    metrics₁.map f = metrics₂.map f := by
  have hmap : ∀ metrics : List GeneratedMetric,
      metrics.map f = (metrics.map GeneratedMetric.unsorted).map f := by
    intro metrics
    rw [List.map_map]
    exact List.map_congr_left fun g _ => (hf g).symm
  rw [hmap, h, ← hmap]

theorem definitions_eq_filterMap_id (metrics : List GeneratedMetric) :
    definitions metrics = (metrics.map (·.definition)).filterMap id := by
  rw [definitions, List.filterMap_map]
  rfl

/-- Charts that differ in sort settings fail for the same reason, in a measure or in the result, or
have queries made from metrics that differ in their directions only. -/
theorem chart_fails_alike (hv : v₁.withoutSorts = v₂.withoutSorts) (options : CompileOptions) :
    (∃ e, chart v₁ options = .error e ∧ chart v₂ options = .error e) ∨
      ∃ metrics₁ metrics₂ c₁ c₂,
        metrics₁.map GeneratedMetric.unsorted = metrics₂.map GeneratedMetric.unsorted ∧
          chart v₁ options = .ok c₁ ∧ chart v₂ options = .ok c₂ ∧
          assemble v₁ options metrics₁ = .ok c₁ ∧ assemble v₂ options metrics₂ = .ok c₂ := by
  unfold chart withRules
  rcases (metrics_agree hv).cases with
    ⟨e, he₁, he₂⟩ | ⟨metrics₁, metrics₂, hmetrics₁, hmetrics₂, hunsorted⟩
  · simp only [he₁, he₂]
    exact Or.inl ⟨e, rfl, rfl⟩
  · have hfailure : v₁.resultFailure? options = v₂.resultFailure? options := by
      rw [← Visualization.resultFailure?_withoutSorts, hv,
        Visualization.resultFailure?_withoutSorts]
    have hassemble₁ := assemble_failsWith hmetrics₁ options
    have hassemble₂ := assemble_failsWith hmetrics₂ options
    rw [← hfailure] at hassemble₂
    simp only [hmetrics₁, hmetrics₂]
    cases hreason : v₁.resultFailure? options with
    | some e =>
      rw [hreason] at hassemble₁ hassemble₂
      exact Or.inl ⟨e, hassemble₁, hassemble₂⟩
    | none =>
      obtain ⟨c₁, hc₁⟩ := hassemble₁.exists_ok_iff.mpr hreason
      obtain ⟨c₂, hc₂⟩ := hassemble₂.exists_ok_iff.mpr hreason
      exact Or.inr ⟨metrics₁, metrics₂, c₁, c₂, hunsorted, hc₁, hc₂, hc₁, hc₂⟩

/-- Queries made from metrics that differ in their directions only differ in their order only. -/
theorem eq_withOrder (hv : v₁.withoutSorts = v₂.withoutSorts)
    (hunsorted : metrics₁.map GeneratedMetric.unsorted = metrics₂.map GeneratedMetric.unsorted)
    (h₁ : assemble v₁ options metrics₁ = .ok c₁) (h₂ : assemble v₂ options metrics₂ = .ok c₂) :
    c₂ = { c₁ with orderBy := c₂.orderBy } := by
  obtain ⟨order₁, -, -, rfl⟩ := assemble_eq_ok_iff.mp h₁
  obtain ⟨order₂, -, -, rfl⟩ := assemble_eq_ok_iff.mp h₂
  have hmappings : metrics₁.map mapping = metrics₂.map mapping :=
    map_congr_of_unsorted (fun _ => rfl) hunsorted
  have hdefinitions : definitions metrics₁ = definitions metrics₂ := by
    rw [definitions_eq_filterMap_id, definitions_eq_filterMap_id,
      map_congr_of_unsorted (fun _ => rfl) hunsorted]
  have hcategories : categoryColumns v₁ options = categoryColumns v₂ options := by
    rw [← Visualization.categoryColumns_withoutSorts, hv,
      Visualization.categoryColumns_withoutSorts]
  have hcolumns : requested v₁ options metrics₁ = requested v₂ options metrics₂ := by
    rw [requested_eq, requested_eq, hmappings, hcategories]
  have hfilters : (shown v₁.buckets options).filters = (shown v₂.buckets options).filters :=
    shown_filters_congr (congrArg (fun v => v.buckets.filters) hv) options
  rw [hcolumns, hdefinitions, hfilters, hmappings]

/-- Charts that differ in the sort settings of their measures and categories, whatever these are,
fail to compile for the same reason or have queries with the same columns, definitions, restrictions
and mappings. If they are bar charts with measures, the whole queries are the same, and they are
ordered by the first column behind those of the categories alone, the greatest value first. -/
theorem chart_differs_in_order (hv : v₁.withoutSorts = v₂.withoutSorts)
    (options : CompileOptions) :
    (∃ e, chart v₁ options = .error e ∧ chart v₂ options = .error e) ∨
      ∃ c₁ c₂, chart v₁ options = .ok c₁ ∧ chart v₂ options = .ok c₂ ∧
        c₁.columns = c₂.columns ∧ c₁.definitions = c₂.definitions ∧
        c₁.restrictions = c₂.restrictions ∧ c₁.mappings = c₂.mappings ∧
        (v₁.kind = some barKind ∧ v₁.buckets.measures ≠ [] →
          c₁ = c₂ ∧ ∃ first others,
            c₁.columns = categoryColumns v₁ options ++ first :: others ∧
              (c₁.mappings.map (·.element)).filter (· ≠ ("" : Text)) = first :: others ∧
              c₁.orderBy = [⟨first, Direction.descending.word⟩]) := by
  rcases chart_fails_alike hv options with
    hfails | ⟨metrics₁, metrics₂, c₁, c₂, hunsorted, h₁, h₂, hassemble₁, hassemble₂⟩
  · exact Or.inl hfails
  · have hsame := eq_withOrder hv hunsorted hassemble₁ hassemble₂
    have hcolumns : c₁.columns = c₂.columns := by rw [hsame]
    have hdefinitions : c₁.definitions = c₂.definitions := by rw [hsame]
    have hrestrictions : c₁.restrictions = c₂.restrictions := by rw [hsame]
    have hmappings : c₁.mappings = c₂.mappings := by rw [hsame]
    refine Or.inr ⟨c₁, c₂, h₁, h₂, hcolumns, hdefinitions, hrestrictions, hmappings, ?_⟩
    intro hfirst
    have hfirst₂ : v₂.SortsByFirst := by
      have hkind : v₁.kind = v₂.kind := congrArg (fun v => v.kind) hv
      have hlength := (Visualization.forall₂_asksLike hv).length_eq
      rw [ne_eq, ← List.length_eq_zero_iff, hkind, hlength, List.length_eq_zero_iff] at hfirst
      exact hfirst
    obtain ⟨first, others, hbehind, helements, horder⟩ := orderBy_of_sortsByFirst h₁ hfirst
    obtain ⟨first₂, others₂, -, helements₂, horder₂⟩ := orderBy_of_sortsByFirst h₂ hfirst₂
    rw [← hmappings, helements] at helements₂
    cases helements₂
    refine ⟨?_, first, others, hbehind, helements, horder⟩
    rw [hsame, horder₂, ← horder]

/-- A bar chart of a fact beside its previous period, behind a category. Once nothing is sorted and
once everything is, and both have one query. -/
theorem chart_differs_in_order_bar :
    let chart (sort : Option SortSetting) (direction : Option Direction) : Visualization :=
      ⟨none, some "bar",
        ⟨[⟨"/gdc/md/p1/obj/5", "fact", some "sum", some "Revenue", none, sort, true, false, []⟩],
          [⟨"/gdc/md/p1/obj/10", "date", some "/gdc/md/p1/obj/11", direction⟩], []⟩⟩
    let v₁ := chart none none
    let v₂ := chart (some (.targeted .ascending true)) (some .descending)
    v₁.withoutSorts = v₂.withoutSorts ∧
      ∃ c, Compile.chart v₁ .standard = .ok c ∧ Compile.chart v₂ .standard = .ok c := by
  intro chart v₁ v₂
  have hv : v₁.withoutSorts = v₂.withoutSorts := rfl
  have hformats : v₁.HasTextFormats := by decide
  obtain ⟨c, hc⟩ : ∃ c, Compile.chart v₁ .standard = .ok c :=
    exists_chart hformats (by decide +kernel)
  refine ⟨hv, c, hc, ?_⟩
  rcases chart_differs_in_order hv .standard with
    ⟨e, he, -⟩ | ⟨c₁, c₂, hc₁, hc₂, -, -, -, -, hbar⟩
  · rw [hc] at he
    cases he
  · rw [hc] at hc₁
    cases hc₁
    rw [hc₂, (hbar ⟨rfl, by simp [v₁, chart]⟩).1]

end Compile

end ChartQuery
