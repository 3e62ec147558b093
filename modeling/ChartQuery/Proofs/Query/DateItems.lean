/-
# Charts without their date items

Leaving out the date items takes the date categories from the columns and from the order, and does
nothing else to them. The metrics are made from the full buckets, so a previous period still finds
its date, and a chart that compiles with its dates compiles without them. Restrictions are not
compared here: without its date filters a query is restricted less.
-/

import ChartQuery.Proofs.Query.Failure

namespace ChartQuery

/-- The order entry of a category that asks for a direction. -/
def Category.ordering? (c : Category) : Option OrderEntry :=
  c.sort.map fun direction => ⟨c.displayForm, direction.word⟩

namespace Visualization

variable {v : Visualization}

/-- Without dates there are no ranges, so the only failure of the result is that it cannot be
sorted. -/
theorem resultFailure?_withoutDates (v : Visualization) :
    v.resultFailure? ⟨true⟩ = if v.IsUnsortable then some .noColumnToSort else none := by
  have hranges : ¬ v.RangesUnnamed ⟨true⟩ := by
    intro h
    cases h.1
  rw [resultFailure?, if_neg hranges]

/-- With its dates the result fails for the same reason. -/
theorem resultFailure?_withDates {e : CompileFailure} (h : v.resultFailure? ⟨true⟩ = some e) :
    v.resultFailure? ⟨false⟩ = some e := by
  rw [resultFailure?_withoutDates] at h
  by_cases hunsortable : v.IsUnsortable
  · rw [if_pos hunsortable] at h
    rw [resultFailure?, if_pos hunsortable, h]
  · rw [if_neg hunsortable] at h
    cases h

end Visualization

namespace Compile

variable {book : RuleBook} {v : Visualization}

/-- A category asks for a direction by its sort alone, because no direction has an empty word. -/
theorem categoryItems_ordering (categories : List Category) :
    (categoryItems categories).filterMap orderEntry? =
      categories.filterMap Category.ordering? := by
  rw [categoryItems, List.filterMap_map]
  congr 1
  funext c
  show orderEntry? (c.displayForm, c.sort.map Direction.word) = c.ordering?
  unfold orderEntry? Category.ordering?
  cases c.sort with
  | none => rfl
  | some direction => cases direction <;> rfl

/-- A bar chart with metrics is sorted by them alone. -/
theorem orderBy_of_bar {kind : Option Text} {items : List SortItem}
    (hbar : kind = some barKind ∧ items ≠ []) (categories others : List SortItem) :
    orderBy kind categories items = orderBy kind others items := by
  rw [orderBy, orderBy, if_pos hbar, if_pos hbar]

/-- Every other chart is sorted by its categories, then by its metrics, as they ask for it. -/
theorem orderBy_of_not_bar {kind : Option Text} {items : List SortItem}
    (hbar : ¬ (kind = some barKind ∧ items ≠ [])) (categories : List Category) :
    orderBy kind (categoryItems categories) items =
      .ok (categories.filterMap Category.ordering? ++ items.filterMap orderEntry?) := by
  rw [orderBy, if_neg hbar, List.filterMap_append, categoryItems_ordering]

/-- A chart that fails without its dates fails with them for the same reason: the metrics are the
same, and what can fail behind them can fail with the dates as well. -/
theorem eq_error_withDates {e : CompileFailure} (h : withRules book v ⟨true⟩ = .error e) :
    withRules book v ⟨false⟩ = .error e := by
  unfold withRules at h ⊢
  split
  · next reason hmetrics => rwa [hmetrics] at h
  · next metrics hmetrics =>
    rw [hmetrics] at h
    have hfailure := ((assemble_failsWith hmetrics ⟨true⟩).eq_error_iff e).mp h
    exact ((assemble_failsWith hmetrics ⟨false⟩).eq_error_iff e).mpr
      (Visualization.resultFailure?_withDates hfailure)

/-- So a chart that compiles with its dates compiles without them. -/
theorem exists_withoutDates {c : Configuration} (h : withRules book v ⟨false⟩ = .ok c) :
    ∃ c', withRules book v ⟨true⟩ = .ok c' := by
  cases hwithout : withRules book v ⟨true⟩ with
  | ok c' => exact ⟨c', rfl⟩
  | error e =>
    rw [eq_error_withDates hwithout] at h
    cases h

/-- The columns in front of the metrics are those of the categories that take part. -/
theorem requested_eq_elements (v : Visualization) (options : CompileOptions)
    (metrics : List GeneratedMetric) :
    requested v options metrics =
      ((shown v.buckets options).categories.map (·.displayForm)).filter (· ≠ ("" : Text)) ++
        (metrics.map (·.element)).filter (· ≠ ("" : Text)) := by
  have helements : (metrics.map mapping).map (·.element) = metrics.map (·.element) := by
    simp [mapping]
  rw [requested_eq, helements, categoryColumns, shown_categories]

/-- Whatever the rules are, a chart that fails without its dates fails with them for the same
reason. A chart that compiles with its dates compiles without them: to the same definitions and the
same mappings, made from metrics of the full buckets, and to the columns and the order that it had,
less those of the date categories. The order of a bar chart with metrics stays as it is. -/
theorem withRules_withoutDates (book : RuleBook) (v : Visualization) :
    (∀ e, withRules book v ⟨true⟩ = .error e → withRules book v ⟨false⟩ = .error e) ∧
      ∀ c, withRules book v ⟨false⟩ = .ok c →
        ∃ metrics c', book.metrics v.buckets = .ok metrics ∧ withRules book v ⟨true⟩ = .ok c' ∧
          c'.definitions = c.definitions ∧
          c'.mappings = c.mappings ∧
          c.columns = (v.buckets.categories.map (·.displayForm)).filter (· ≠ ("" : Text)) ++
            (metrics.map (·.element)).filter (· ≠ ("" : Text)) ∧
          c'.columns =
            ((v.buckets.categories.filter (!·.isDate)).map (·.displayForm)).filter
                (· ≠ ("" : Text)) ++
              (metrics.map (·.element)).filter (· ≠ ("" : Text)) ∧
          (v.kind = some barKind ∧ c.mappings ≠ [] → c'.orderBy = c.orderBy) ∧
          (¬ (v.kind = some barKind ∧ c.mappings ≠ []) →
            c.orderBy = v.buckets.categories.filterMap Category.ordering? ++
                (metricItems metrics).filterMap orderEntry? ∧
              c'.orderBy =
                (v.buckets.categories.filter (!·.isDate)).filterMap Category.ordering? ++
                  (metricItems metrics).filterMap orderEntry?) := by
  refine ⟨fun e h => eq_error_withDates h, ?_⟩
  intro c h
  obtain ⟨c', h'⟩ := exists_withoutDates h
  obtain ⟨metrics, hmetrics, hassemble⟩ := withRules_eq_ok_iff.mp h
  obtain ⟨metrics', hmetrics', hassemble'⟩ := withRules_eq_ok_iff.mp h'
  obtain rfl : metrics = metrics' := Except.ok.inj (hmetrics.symm.trans hmetrics')
  obtain ⟨order, horder, -, rfl⟩ := assemble_eq_ok_iff.mp hassemble
  obtain ⟨order', horder', -, rfl⟩ := assemble_eq_ok_iff.mp hassemble'
  have hmappings : metrics.map mapping ≠ [] ↔ metricItems metrics ≠ [] := by
    simp [metricItems]
  refine ⟨metrics, _, hmetrics, h', rfl, rfl, requested_eq_elements v ⟨false⟩ metrics,
    requested_eq_elements v ⟨true⟩ metrics, ?_, ?_⟩
  · rintro ⟨hbar, hsome⟩
    rw [orderBy_of_bar ⟨hbar, hmappings.mp hsome⟩ _
      (categoryItems (shown v.buckets ⟨false⟩).categories), horder] at horder'
    cases horder'
    rfl
  · intro hother
    rw [hmappings] at hother
    rw [orderBy_of_not_bar hother] at horder horder'
    cases horder
    cases horder'
    exact ⟨rfl, rfl⟩

/-- A measure that is compared over the dates keeps its columns when the dates, by which the chart
is sorted, are left out. -/
theorem withRules_withoutDates_compared :
    let v : Visualization :=
      ⟨none, some "line",
        ⟨[⟨"/gdc/md/p1/obj/5", "fact", some "sum", some "Revenue", none, some (.plain .descending),
              true, false, []⟩],
          [⟨"/gdc/md/p1/obj/10", "date", some "/gdc/md/p1/obj/11", some .ascending⟩], []⟩⟩
    ∃ c c', withRules .standard v ⟨false⟩ = .ok c ∧ withRules .standard v ⟨true⟩ = .ok c' ∧
      c'.definitions = c.definitions ∧ c'.mappings = c.mappings := by
  intro v
  have hformats : v.HasTextFormats := by decide
  obtain ⟨c, hc⟩ : ∃ c, chart v ⟨false⟩ = .ok c := exists_chart hformats (by decide)
  obtain ⟨-, hkept⟩ := withRules_withoutDates .standard v
  obtain ⟨metrics, c', -, hc', hdefinitions, hmappings, -⟩ := hkept c hc
  exact ⟨c, c', hc, hc', hdefinitions, hmappings⟩

end Compile

end ChartQuery
