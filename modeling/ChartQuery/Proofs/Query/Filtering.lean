/-
# Charts whose filters restrict alike

Of its filters a query shows what the executable ones restrict: those of the chart in its
restrictions, those of a measure inside of expressions. A date filter among the filters of a measure
restricts nothing, executable or not. So a chart that travelled compiles as before as soon as the
date filters of the chart itself were given both of their bounds.
-/

import ChartQuery.Proofs.Metric.Sorting
import ChartQuery.Proofs.Model.RoundTrip
import ChartQuery.Proofs.Query.Assembly

namespace ChartQuery

/-- A measure asks for the same metrics with any other filters that select the same. -/
theorem Measure.asksLike_of_selections {m : Measure} {filters : List BucketFilter}
    (h : filters.filterMap BucketFilter.selecting? = m.selections) :
    ({ m with filters } : Measure).AsksLike m where
  objectUri := rfl
  kind := rfl
  aggregation := rfl
  title := rfl
  format := rfl
  showsPrevious := rfl
  showsShare := rfl
  restricted := by rw [selections, h]

namespace Compile

variable {v₁ v₂ : Visualization}

/-- Charts compile alike when they have the same type and the same categories, when their measures
ask one by one for the same metrics and are sorted alike, and when their filters give the same date
and the same restrictions. -/
theorem chart_congr {options : CompileOptions} (hkind : v₁.kind = v₂.kind)
    (hmeasures : List.Forall₂ (fun m₁ m₂ : Measure => m₁.AsksLike m₂ ∧ m₁.sort = m₂.sort)
      v₁.buckets.measures v₂.buckets.measures)
    (hcategories : v₁.buckets.categories = v₂.buckets.categories)
    (hdate : v₁.buckets.dateFilter.map (·.attributeUri) =
      v₂.buckets.dateFilter.map (·.attributeUri))
    (hrestrictions : WhereClause.ofFilters (shown v₁.buckets options).filters =
      WhereClause.ofFilters (shown v₂.buckets options).filters) :
    chart v₁ options = chart v₂ options := by
  have hdates : v₁.buckets.dateAttribute = v₂.buckets.dateAttribute := by
    have hfilter : ∀ b : Buckets, (b.dateFilter.bind fun f => nonEmpty? f.attributeUri) =
        (b.dateFilter.map (·.attributeUri)).bind nonEmpty? := by
      intro b
      cases b.dateFilter <;> rfl
    rw [Buckets.dateAttribute, Buckets.dateAttribute, Buckets.dateCategory, Buckets.dateCategory,
      hcategories, hfilter, hfilter, hdate]
  have hshares : v₁.buckets.shareAttribute = v₂.buckets.shareAttribute := by
    rw [Buckets.shareAttribute, Buckets.shareAttribute, hcategories]
  have hmetrics : RuleBook.standard.metrics v₁.buckets = RuleBook.standard.metrics v₂.buckets :=
    RuleBook.metricsFrom_eq hmeasures hdates hshares 0
  have hshown : (shown v₁.buckets options).categories = (shown v₂.buckets options).categories := by
    unfold shown Buckets.withoutDates
    split <;> simp only [hcategories]
  have hassemble : assemble v₁ options = assemble v₂ options := by
    funext metrics
    have hrestricted : ∀ columns, restrictions columns (shown v₁.buckets options).filters =
        restrictions columns (shown v₂.buckets options).filters := by
      intro columns
      rw [restrictions, restrictions, hrestrictions]
    simp only [assemble, hkind, hshown, hrestricted]
  rw [chart, chart, withRules, withRules, hmetrics, hassemble]

end Compile

/-! ## Bounds that count as given -/

/-- Bounds say nothing about what the attribute filters select. -/
theorem Measure.selections_withBounds (m : Measure) : m.withBounds.selections = m.selections := by
  rw [Measure.selections, Measure.withBounds, List.filterMap_map]
  rfl

/-- The bounds of its filters do not enter what a measure asks for. -/
theorem Measure.asksLike_withBounds (m : Measure) : m.withBounds.AsksLike m :=
  asksLike_of_selections m.selections_withBounds

/-- Bounds that were given stay as they are. -/
theorem DateFilter.withBounds_of_isExecutable {f : DateFilter} (h : f.isExecutable = true) :
    f.withBounds = f := by
  obtain ⟨attributeUri, dimension, dataSet, lowercaseDataSet, granularity, lower, upper⟩ := f
  obtain ⟨hlower, hupper⟩ := (Bool.and_eq_true _ _).mp h
  obtain ⟨first, rfl⟩ := Option.isSome_iff_exists.mp hlower
  obtain ⟨last, rfl⟩ := Option.isSome_iff_exists.mp hupper
  rfl

/-- The date filters of the chart itself were all given both of their bounds. -/
def Buckets.HasBounds (b : Buckets) : Prop :=
  ∀ f ∈ b.filters, ∀ d ∈ f.dateFilter, d.isExecutable = true

theorem Buckets.filters_withBounds {b : Buckets} (h : b.HasBounds) :
    b.withBounds.filters = b.filters := by
  refine (List.map_congr_left (g := id) fun f hf => ?_).trans (List.map_id _)
  obtain ⟨attributeFilter, dateFilter⟩ := f
  cases dateFilter with
  | none => rfl
  | some d =>
    have hd : d.withBounds = d := DateFilter.withBounds_of_isExecutable (h _ hf d rfl)
    simp only [BucketFilter.withBounds, Option.map_some, hd, id]

namespace Compile

/-- A chart whose own date filters have both bounds compiles as before when all bounds count as
given. -/
theorem chart_withBounds {v : Visualization} (h : v.buckets.HasBounds) (options : CompileOptions) :
    chart v.withBounds options = chart v options := by
  have hfilters : v.withBounds.buckets.filters = v.buckets.filters :=
    Buckets.filters_withBounds h
  refine chart_congr rfl ?measures rfl ?date ?restrictions
  case measures =>
    refine List.forall₂_map_left_iff.mpr (List.forall₂_same.mpr fun m _ => ?_)
    exact ⟨m.asksLike_withBounds, rfl⟩
  case date => rw [Buckets.dateFilter, Buckets.dateFilter, hfilters]
  case restrictions => rw [shown_filters_congr hfilters options]

/-- A chart that was read can be read back from its value, whatever keys it was read from and
whatever else stood beside them. It comes back with every field that it had, and of each date filter
that did not have them with bounds of null that now count as given, which its value does not show.
Where the date filters of the chart itself had both of their bounds it compiles as before, to the
same query or with the same failure, under all options. -/
theorem chart_travels {x : Value} {v : Visualization}
    (h : readVisualization x = .accepted v) :
    readVisualization v.toValue = .accepted v.withBounds ∧
      v.withBounds.toValue = v.toValue ∧
      (v.buckets.HasBounds → ∀ options, chart v.withBounds options = chart v options) := by
  have hstated : ∀ m ∈ v.buckets.measures, m.IsStated := isStated_of_readVisualization h
  exact ⟨readVisualization_toValue hstated, v.toValue_withBounds, fun hbounds options =>
    chart_withBounds hbounds options⟩

/-- A chart under long keys beside unknown ones, with flags that are not Booleans and both forms of
sort settings. The date filter of its measure has one bound only, its own one has an upper bound of
null. -/
theorem chart_travels_long_keys :
    let range : Value := .ofFields [("attribute", .text "/gdc/md/p1/obj/11"),
      ("data_set", .text "date.dataset"), ("from_", .int 2020), ("to", .null)]
    let compared : Value := .ofFields [("object_uri", .text "/gdc/md/p1/obj/5"),
      ("type", .text "fact"), ("color", .int 7), ("show_po_p", .text "yes"),
      ("sort", .ofFields [("direction", .text "desc"), ("sort_by_po_p", .int 1)]),
      ("measure_filters", .list [.ofFields [("date_filter", .ofFields [("to", .int 1)])]])]
    let plain : Value := .ofFields [("objectUri", .text "/gdc/md/p1/obj/7"),
      ("type", .text "metric"), ("sort", .text "asc")]
    let x : Value := .ofFields [("type", .text "line"), ("version", .int 3),
      ("buckets", .ofFields
        [("measures", .list [.ofFields [("measure", compared)], .ofFields [("measure", plain)]]),
          ("filters", .list [.ofFields [("date_filter", range)]])])]
    ∃ v, readVisualization x = .accepted v ∧ readVisualization v.toValue = .accepted v.withBounds ∧
      ∀ options, chart v.withBounds options = chart v options := by
  intro range compared plain x
  let ranging : DateFilter := ⟨some "/gdc/md/p1/obj/11", none, some "date.dataset", none, none,
    some (.int 2020), some .null⟩
  let halved : DateFilter := ⟨none, none, none, none, none, none, some (.int 1)⟩
  let v : Visualization :=
    ⟨none, some "line",
      ⟨[⟨"/gdc/md/p1/obj/5", "fact", none, none, none, some (.targeted .descending true), true,
            false, [⟨none, some halved⟩]⟩,
          ⟨"/gdc/md/p1/obj/7", "metric", none, none, none, some (.plain .ascending), false, false,
            []⟩],
        [], [⟨none, some ranging⟩]⟩⟩
  have hread : readVisualization x = .accepted v := rfl
  have hbounds : v.buckets.HasBounds := by
    intro f hf d hd
    obtain rfl := List.mem_singleton.mp hf
    cases hd
    rfl
  obtain ⟨hback, -, hcompiles⟩ := chart_travels hread
  exact ⟨v, hread, hback, hcompiles hbounds⟩

end Compile

end ChartQuery
