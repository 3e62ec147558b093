/-
# Filters that restrict nothing

Whether a filter restricts anything is asked in many places: when the construction of a measure is
chosen, in the name and in the expressions of its metrics, and in the restrictions of the query. All
of them look at the executable filters alone, and of a measure's filters at those of attributes
alone. So an attribute filter that selects nothing can be cleared anywhere, a date filter can be
cleared in a measure, and an entry that holds nothing can be left out: the chart compiles as before,
to the same query or with the same failure.
-/

import ChartQuery.Proofs.Query.Filtering

namespace ChartQuery

namespace BucketFilter

/-- The entry without an attribute filter that selects nothing. -/
def withoutIdle (f : BucketFilter) : BucketFilter :=
  { f with attributeFilter := f.selecting? }

/-- The entry without an attribute filter that selects nothing and without a date filter. -/
def selectingOnly (f : BucketFilter) : BucketFilter :=
  ⟨f.selecting?, none⟩

/-- The entry holds a filter of either sort. -/
def isFilled (f : BucketFilter) : Bool :=
  f.attributeFilter.isSome || f.dateFilter.isSome

end BucketFilter

/-- The measure without attribute filters that select nothing and without date filters. -/
def Measure.withoutIdleFilters (m : Measure) : Measure :=
  { m with filters := m.filters.map BucketFilter.selectingOnly }

/-- The measure without filter entries that hold nothing. -/
def Measure.withoutEmptyFilters (m : Measure) : Measure :=
  { m with filters := m.filters.filter BucketFilter.isFilled }

/-- The chart without attribute filters that select nothing, its own ones and those of its measures,
and without the date filters of its measures. -/
def Visualization.withoutIdleFilters (v : Visualization) : Visualization :=
  { v with
    buckets := { v.buckets with
      measures := v.buckets.measures.map Measure.withoutIdleFilters
      filters := v.buckets.filters.map BucketFilter.withoutIdle } }

/-- The chart without filter entries that hold nothing, its own ones and those of its measures. -/
def Visualization.withoutEmptyFilters (v : Visualization) : Visualization :=
  { v with
    buckets := { v.buckets with
      measures := v.buckets.measures.map Measure.withoutEmptyFilters
      filters := v.buckets.filters.filter BucketFilter.isFilled } }

/-! ## What executable filters are left -/

namespace BucketFilter

/-- Clearing what selects nothing leaves what selects something. -/
theorem filter_selecting? (f : BucketFilter) :
    f.selecting?.filter AttributeFilter.isExecutable = f.selecting? := by
  simp [selecting?, Option.filter_filter]

theorem isFilled_eq_false_iff (f : BucketFilter) :
    f.isFilled = false ↔ f.attributeFilter = none ∧ f.dateFilter = none := by
  simp [isFilled]

theorem selecting?_of_not_isFilled {f : BucketFilter} (h : f.isFilled = false) :
    f.selecting? = none := by
  rw [selecting?, (f.isFilled_eq_false_iff.mp h).1, Option.filter_none]

theorem ranging?_of_not_isFilled {f : BucketFilter} (h : f.isFilled = false) :
    f.ranging? = none := by
  rw [ranging?, (f.isFilled_eq_false_iff.mp h).2, Option.filter_none]

/-- Entries that hold nothing give nothing. -/
theorem filterMap_filter_isFilled {α : Type} {g : BucketFilter → Option α}
    (hg : ∀ f, f.isFilled = false → g f = none) (filters : List BucketFilter) :
    (filters.filter isFilled).filterMap g = filters.filterMap g := by
  rw [List.filterMap_filter]
  refine List.filterMap_congr fun f _ => ?_
  split
  · rfl
  · next hempty => exact (hg f (by simpa using hempty)).symm

end BucketFilter

namespace Measure

theorem asksLike_withoutIdleFilters (m : Measure) : m.withoutIdleFilters.AsksLike m := by
  apply asksLike_of_selections
  rw [List.filterMap_map, selections]
  exact List.filterMap_congr fun f _ => f.filter_selecting?

theorem asksLike_withoutEmptyFilters (m : Measure) : m.withoutEmptyFilters.AsksLike m :=
  asksLike_of_selections (BucketFilter.filterMap_filter_isFilled
    (fun _ => BucketFilter.selecting?_of_not_isFilled) m.filters)

end Measure

namespace WhereClause

/-- Clearing what selects nothing does not change the restrictions. -/
theorem ofFilters_map_withoutIdle (filters : List BucketFilter) :
    ofFilters (filters.map BucketFilter.withoutIdle) = ofFilters filters := by
  have hselections : selections (filters.map BucketFilter.withoutIdle) = selections filters := by
    rw [selections, List.filterMap_map]
    exact List.filterMap_congr fun f _ => f.filter_selecting?
  have hranges : ranges (filters.map BucketFilter.withoutIdle) = ranges filters := by
    rw [ranges, List.filterMap_map]
    rfl
  rw [ofFilters, ofFilters, hselections, hranges]

/-- Neither does leaving out entries that hold nothing. -/
theorem ofFilters_filter_isFilled (filters : List BucketFilter) :
    ofFilters (filters.filter BucketFilter.isFilled) = ofFilters filters := by
  have hselections : selections (filters.filter BucketFilter.isFilled) = selections filters :=
    BucketFilter.filterMap_filter_isFilled
      (fun _ => BucketFilter.selecting?_of_not_isFilled) filters
  have hranges : ranges (filters.filter BucketFilter.isFilled) = ranges filters :=
    BucketFilter.filterMap_filter_isFilled (fun _ => BucketFilter.ranging?_of_not_isFilled) filters
  rw [ofFilters, ofFilters, hselections, hranges]

end WhereClause

namespace Compile

variable {v : Visualization} {options : CompileOptions}

/-- A chart compiles as before when filters that restrict nothing are cleared. -/
theorem chart_withoutIdle (v : Visualization) (options : CompileOptions) :
    chart v.withoutIdleFilters options = chart v options := by
  refine chart_congr rfl ?measures rfl ?date ?restrictions
  case measures =>
    refine List.forall₂_map_left_iff.mpr (List.forall₂_same.mpr fun m _ => ?_)
    exact ⟨m.asksLike_withoutIdleFilters, rfl⟩
  case date =>
    rw [Buckets.dateFilter, Buckets.dateFilter, Visualization.withoutIdleFilters,
      List.findSome?_map]
    rfl
  case restrictions =>
    -- No date filter of the chart is cleared, so the same entries are left out with the dates.
    rw [shown_filters, shown_filters, Visualization.withoutIdleFilters, List.filter_map]
    exact WhereClause.ofFilters_map_withoutIdle _

/-- A chart compiles as before when entries that hold nothing are left out. -/
theorem chart_withoutEmpty (v : Visualization) (options : CompileOptions) :
    chart v.withoutEmptyFilters options = chart v options := by
  refine chart_congr rfl ?measures rfl ?date ?restrictions
  case measures =>
    refine List.forall₂_map_left_iff.mpr (List.forall₂_same.mpr fun m _ => ?_)
    exact ⟨m.asksLike_withoutEmptyFilters, rfl⟩
  case date =>
    rw [Buckets.dateFilter, Buckets.dateFilter, Visualization.withoutEmptyFilters,
      ← List.head?_filterMap, ← List.head?_filterMap, BucketFilter.filterMap_filter_isFilled
        fun f hempty => (f.isFilled_eq_false_iff.mp hempty).2]
  case restrictions =>
    rw [shown_filters, shown_filters, Visualization.withoutEmptyFilters, List.filter_comm]
    exact WhereClause.ofFilters_filter_isFilled _

/-- Filters that restrict nothing play no part when a chart is compiled. It compiles to the same
query or fails for the same reason when all attribute filters that select nothing are cleared, among
its own filters and among those of its measures, with all date filters of its measures, and also
when the entries that hold nothing then are left out altogether. -/
theorem chart_withoutIdleFilters (v : Visualization) (options : CompileOptions) :
    chart v.withoutIdleFilters options = chart v options ∧
      chart v.withoutIdleFilters.withoutEmptyFilters options = chart v options :=
  ⟨chart_withoutIdle v options,
    (chart_withoutEmpty v.withoutIdleFilters options).trans (chart_withoutIdle v options)⟩

end Compile

end ChartQuery
