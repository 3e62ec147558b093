/-
# Charts without their previous periods

Showing previous periods adds columns to a query and changes nothing else that it asks for: the
same chart without them compiles as well, with the same metrics less the previous ones, the same
restrictions, and no definition that was not there before. Nothing is claimed about the order of
the query, because a bar chart is sorted by its first column, which may be one of a previous period.
-/

import ChartQuery.Proofs.Metric.Dependency
import ChartQuery.Proofs.Metric.Previous
import ChartQuery.Proofs.Query.Failure

namespace ChartQuery

namespace Visualization

/-- The chart without the previous periods of its measures. -/
def withoutPrevious (v : Visualization) : Visualization :=
  v.withMeasures (v.buckets.measures.map Measure.withoutPrevious)

variable {v : Visualization} {options : CompileOptions}

/-- Which objects the measures of a chart have does not depend on their previous periods. -/
theorem map_objectUri_withoutPrevious (measures : List Measure) :
    (measures.map Measure.withoutPrevious).map (·.objectUri) = measures.map (·.objectUri) := by
  rw [List.map_map]
  rfl

/-- Neither does the reason for which the result would have no form. -/
theorem resultFailure?_withoutPrevious :
    v.withoutPrevious.resultFailure? options = v.resultFailure? options :=
  resultFailure?_withMeasures (map_objectUri_withoutPrevious _)

end Visualization

namespace Compile

variable {v : Visualization} {options : CompileOptions} {c : Configuration}
variable {metrics : List GeneratedMetric}

/-- The mappings of the metrics that are no previous periods are the mappings without the flag. -/
theorem map_mapping_filter (metrics : List GeneratedMetric) :
    (metrics.filter fun g => !g.isPrevious).map mapping =
      (metrics.map mapping).filter fun m => m.isPrevious != some true := by
  have hflag : ∀ g : GeneratedMetric,
      (!g.isPrevious) = ((mapping g).isPrevious != some true) := by
    intro g
    cases hprevious : g.isPrevious <;> simp [mapping, hprevious]
  rw [List.filter_map]
  simp only [Function.comp_def, hflag]

/-- A query without previous periods has no columns exactly when there are none with them, because
the metric that a previous period is compared with has a name if its measure has an object. -/
theorem requested_withoutPrevious_eq_nil_iff {others : List GeneratedMetric}
    (hothers : RuleBook.standard.metrics v.withoutPrevious.buckets = .ok others)
    (h : RuleBook.standard.metrics v.buckets = .ok metrics) :
    requested v.withoutPrevious options others = [] ↔ requested v options metrics = [] := by
  have hnameless : (∀ g ∈ others, g.element = "") ↔ ∀ g ∈ metrics, g.element = "" := by
    rw [forall_element_eq_empty_iff hothers, forall_element_eq_empty_iff h]
    exact Visualization.forall_objectUri_withMeasures
      (Visualization.map_objectUri_withoutPrevious _) (· = "")
  have hcategories : (shown v.withoutPrevious.buckets options).categories =
      (shown v.buckets options).categories := by
    rw [shown_categories, shown_categories]
    rfl
  rw [requested_eq_nil_iff, requested_eq_nil_iff, hnameless, hcategories]

/-- What restricts a query depends on its columns only through whether there are any. -/
theorem restrictions_congr {columns₁ columns₂ : List Text} (filters : List BucketFilter)
    (h : columns₁ = [] ↔ columns₂ = []) :
    restrictions columns₁ filters = restrictions columns₂ filters := by
  have hempty : columns₁.isEmpty = columns₂.isEmpty := by
    rw [Bool.eq_iff_iff, List.isEmpty_iff, List.isEmpty_iff, h]
  rw [restrictions, restrictions, hempty]

/-- Fewer metrics define no identifier that more of them do not define. -/
theorem identifier_mem_of_subset {others : List GeneratedMetric} (hsubset : others ⊆ metrics)
    {identifier : Text}
    (h : identifier ∈ (Definition.arranged (definitions others)).map (·.identifier)) :
    identifier ∈ (Definition.arranged (definitions metrics)).map (·.identifier) := by
  obtain ⟨d, hd, rfl⟩ := List.mem_map.mp h
  obtain ⟨g, hg, hgd⟩ := List.mem_filterMap.mp (Definition.mem_of_mem_arranged hd)
  have hbefore : d ∈ definitions metrics := List.mem_filterMap.mpr ⟨g, hsubset hg, hgd⟩
  obtain ⟨kept, hkept, hsame⟩ := Definition.exists_mem_arranged hbefore
  exact List.mem_map.mpr ⟨kept, hkept, hsame⟩

/-- A chart that compiles, and whose measures are facts, attributes and metrics of the project,
compiles without its previous periods too. Its metrics are then those that it had, less the previous
ones, and so are its mappings. Behind the same columns of categories it has the columns of these
mappings, it is restricted in the same way, and it defines no identifier that was not defined
before. -/
theorem chart_withoutPrevious (hkinds : ∀ m ∈ v.buckets.measures, m.HasKnownKind)
    (h : chart v options = .ok c) :
    ∃ metrics c', RuleBook.standard.metrics v.buckets = .ok metrics ∧
      RuleBook.standard.metrics v.withoutPrevious.buckets =
        .ok (metrics.filter fun g => !g.isPrevious) ∧
      chart v.withoutPrevious options = .ok c' ∧
      c.mappings = metrics.map mapping ∧
      c'.mappings = c.mappings.filter (fun m => m.isPrevious != some true) ∧
      c.columns =
        categoryColumns v options ++ (c.mappings.map (·.element)).filter (· ≠ ("" : Text)) ∧
      c'.columns = categoryColumns v options ++
        ((c.mappings.filter fun m => m.isPrevious != some true).map (·.element)).filter
          (· ≠ ("" : Text)) ∧
      c'.restrictions = c.restrictions ∧
      ∀ identifier ∈ c'.definitions.map (·.identifier),
        identifier ∈ c.definitions.map (·.identifier) := by
  have hcolumns := columns_eq h
  obtain ⟨metrics, hmetrics, hassemble⟩ := withRules_eq_ok_iff.mp h
  have hothers : RuleBook.standard.metrics v.withoutPrevious.buckets =
      .ok (metrics.filter fun g => !g.isPrevious) :=
    RuleBook.metricsFrom_withoutPrevious _ hkinds hmetrics
  have hfailure : v.resultFailure? options = none :=
    (assemble_failsWith hmetrics options).exists_ok_iff.mp ⟨c, hassemble⟩
  rw [← Visualization.resultFailure?_withoutPrevious] at hfailure
  obtain ⟨c', hassemble'⟩ := (assemble_failsWith hothers options).exists_ok_iff.mpr hfailure
  have h' : chart v.withoutPrevious options = .ok c' :=
    withRules_eq_ok_iff.mpr ⟨_, hothers, hassemble'⟩
  have hcolumns' := columns_eq h'
  have hnone : requested v.withoutPrevious options _ = [] ↔ requested v options metrics = [] :=
    requested_withoutPrevious_eq_nil_iff hothers hmetrics
  obtain ⟨order, -, -, rfl⟩ := assemble_eq_ok_iff.mp hassemble
  obtain ⟨order', -, -, rfl⟩ := assemble_eq_ok_iff.mp hassemble'
  have hmappings := map_mapping_filter metrics
  refine ⟨metrics, _, hmetrics, hothers, h', rfl, hmappings, hcolumns, ?_, ?_, ?_⟩
  · rw [hcolumns', hmappings]
    rfl
  · have hfilters : (shown v.withoutPrevious.buckets options).filters =
        (shown v.buckets options).filters := by
      cases options with
      | mk remove => cases remove <;> rfl
    rw [hfilters]
    exact restrictions_congr _ hnone
  · intro identifier hidentifier
    exact identifier_mem_of_subset (List.filter_subset_self metrics) hidentifier

/-- A share beside its previous period and a plain metric of the project beside its own, of which
only the share and the metric remain. -/
theorem chart_withoutPrevious_share :
    let v : Visualization :=
      ⟨none, some "bar",
        ⟨[⟨"/gdc/md/p1/obj/5", "fact", some "sum", some "Revenue", some (.text "#,##0"), none, true,
              true, []⟩,
            ⟨"/gdc/md/p1/obj/7", "metric", none, some "Orders", none, some (.plain .ascending),
              true, false, []⟩],
          [⟨"/gdc/md/p1/obj/10", "date", some "/gdc/md/p1/obj/11", none⟩], []⟩⟩
    (∀ m ∈ v.buckets.measures, m.HasKnownKind) ∧ ∃ c, chart v .standard = .ok c ∧
      ∃ c', chart v.withoutPrevious .standard = .ok c' ∧ c'.restrictions = c.restrictions := by
  intro v
  have hkinds : ∀ m ∈ v.buckets.measures, m.HasKnownKind := by decide
  have hformats : v.HasTextFormats := by decide
  obtain ⟨c, hc⟩ : ∃ c, chart v .standard = .ok c := exists_chart hformats (by decide +kernel)
  obtain ⟨metrics, c', -, -, hc', -, -, -, -, hrestrictions, -⟩ := chart_withoutPrevious hkinds hc
  exact ⟨hkinds, c, hc, c', hc', hrestrictions⟩

end Compile

end ChartQuery
