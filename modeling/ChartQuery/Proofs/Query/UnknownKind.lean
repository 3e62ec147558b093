/-
# Measures of an unknown kind

The rules ask for the kind of a measure last. A measure of an unknown kind that shows its previous
period or its share, or that is filtered, has been taken by another rule by then, and gets what a
metric of the project would get. Only those that ask for nothing of this are rejected. The main
statement says which charts this lets through; the example after it is the smallest of them.
-/

import ChartQuery.Proofs.Metric.Previous
import ChartQuery.Proofs.Query.Failure

namespace ChartQuery

namespace Measure

/-- The measure asks for a metric of its own, whatever its kind is: it shows its previous period or
its share, or a filter of it selects elements. -/
def AsksForMetric (m : Measure) : Prop :=
  m.showsPrevious ∨ m.showsShare ∨ m.SelectsElements

instance (m : Measure) : Decidable m.AsksForMetric := by
  unfold AsksForMetric
  infer_instance

/-- The measure as a metric of the project, unless its kind is known. -/
def asKnown (m : Measure) : Measure :=
  if m.HasKnownKind then m else { m with kind := metricKind }

variable {m : Measure}

theorem asKnown_of_known (hkind : m.HasKnownKind) : m.asKnown = m :=
  if_pos hkind

theorem asKnown_of_unknown (hkind : ¬ m.HasKnownKind) :
    m.asKnown = { m with kind := metricKind } :=
  if_neg hkind

theorem objectUri_asKnown (m : Measure) : m.asKnown.objectUri = m.objectUri := by
  unfold asKnown
  split <;> rfl

/-- A measure of an unknown kind is derived for its filters only. -/
theorem isDerived_of_unknown (hkind : ¬ m.HasKnownKind) : m.isDerived = m.hasSelection := by
  simp only [HasKnownKind, not_or] at hkind
  simp [isDerived, hkind]

/-- So is a metric of the project. -/
theorem isDerived_of_metricKind (hkind : m.kind = metricKind) : m.isDerived = m.hasSelection := by
  simp [isDerived, hkind, metricKind, factKind, attributeKind]

theorem isDerived_asKnown (hkind : ¬ m.HasKnownKind) : m.asKnown.isDerived = m.isDerived := by
  rw [asKnown_of_unknown hkind, isDerived_of_unknown hkind]
  exact isDerived_of_metricKind rfl

/-- As a metric of the project the measure is written down in the same way. -/
theorem share_asKnown (hkind : ¬ m.HasKnownKind) :
    Expression.share m.asKnown = Expression.share m := by
  have hbase : Expression.shareBase m.asKnown = Expression.shareBase m := by
    rw [Expression.shareBase, Expression.shareBase, isDerived_asKnown hkind,
      asKnown_of_unknown hkind]
    rfl
  funext uri
  delta Expression.share
  rw [hbase, asKnown_of_unknown hkind]
  rfl

theorem comparedText_asKnown (hkind : ¬ m.HasKnownKind) :
    m.asKnown.comparedText = m.comparedText := by
  rw [comparedText, comparedText, isDerived_asKnown hkind, asKnown_of_unknown hkind]
  rfl

theorem asksForMetric_iff_of_unknown (hkind : ¬ m.HasKnownKind) :
    m.AsksForMetric ↔ m.showsPrevious = true ∨ m.showsShare = true ∨ m.isDerived = true := by
  rw [AsksForMetric, isDerived_of_unknown hkind, hasSelection_iff]

end Measure

namespace RuleBook

variable {m : Measure} {b : Buckets}

/-- The standard rules reject a measure of an unknown kind that asks for no metric. -/
theorem dispatch_of_unknown (hkind : ¬ m.HasKnownKind) (hasks : ¬ m.AsksForMetric) :
    standard.dispatch m = .error (.noRule m.title m.objectUri) := by
  have hmetric : m.kind ≠ Measure.metricKind := fun h => hkind (Or.inr (Or.inr h))
  simp only [Measure.asksForMetric_iff_of_unknown hkind, not_or, Bool.not_eq_true] at hasks
  rw [dispatch_standard]
  simp [hasks, hmetric]

/-- For one that asks for a metric they choose what they choose for a metric of the project. -/
theorem dispatch_asKnown (hkind : ¬ m.HasKnownKind) (hasks : m.AsksForMetric) :
    ∃ c, standard.dispatch m = .ok c ∧ standard.dispatch m.asKnown = .ok c := by
  have hderived := Measure.isDerived_asKnown hkind
  have hprevious : m.asKnown.showsPrevious = m.showsPrevious := by
    rw [Measure.asKnown_of_unknown hkind]
  have hshare : m.asKnown.showsShare = m.showsShare := by
    rw [Measure.asKnown_of_unknown hkind]
  rw [Measure.asksForMetric_iff_of_unknown hkind] at hasks
  rw [dispatch_standard, dispatch_standard, hderived, hprevious, hshare]
  -- Some rule in front of that for metrics of the project takes the measure.
  cases hp : m.showsPrevious <;> cases hs : m.showsShare <;> cases hd : m.isDerived <;>
    simp_all

theorem dispatch_unknown_eq_error_iff (hkind : ¬ m.HasKnownKind) :
    standard.dispatch m = .error (.noRule m.title m.objectUri) ↔ ¬ m.AsksForMetric := by
  constructor
  · intro hrejected hasks
    obtain ⟨c, hc, -⟩ := dispatch_asKnown hkind hasks
    rw [hc] at hrejected
    cases hrejected
  · exact dispatch_of_unknown hkind

/-- A construction fails for such a measure as it does for a metric of the project. -/
theorem failure?_asKnown (hkind : ¬ m.HasKnownKind) (c : Construction) (b : Buckets) :
    c.failure? b m.asKnown = c.failure? b m := by
  have hderived := Measure.isDerived_asKnown hkind
  have hshare := Measure.share_asKnown hkind
  have hcompared := Measure.comparedText_asKnown hkind
  rw [Measure.asKnown_of_unknown hkind] at hderived hshare hcompared ⊢
  cases c with
  | reference => rfl
  | aggregate => rfl
  | share =>
    simp only [Construction.failure?, Measure.shareContent, hshare]
    rfl
  | previous =>
    simp only [Construction.failure?, Measure.earlierContent, hderived, hcompared]
    rfl
  | previousShare =>
    simp only [Construction.failure?, Measure.shareContent, Measure.earlierShareContent, hshare]
    rfl

/-- A measure can be made into columns when its kind is known or it asks for a metric, and a metric
of the project could be made into columns in its place. -/
theorem failure?_eq_none_iff (b : Buckets) (m : Measure) :
    m.failure? b = none ↔
      (m.HasKnownKind ∨ m.AsksForMetric) ∧ m.asKnown.failure? b = none := by
  by_cases hkind : m.HasKnownKind
  · rw [Measure.asKnown_of_known hkind]
    simp [hkind]
  · by_cases hasks : m.AsksForMetric
    · obtain ⟨c, hc, hc'⟩ := dispatch_asKnown hkind hasks
      rw [failure?_eq_of_dispatch, failure?_eq_of_dispatch, hc, hc']
      simp [hasks, failure?_asKnown hkind]
    · rw [failure?_eq_of_dispatch, dispatch_of_unknown hkind hasks]
      simp [hkind, hasks]

end RuleBook

namespace Visualization

/-- The chart with metrics of the project in the place of measures of unknown kinds. -/
def asKnown (v : Visualization) : Visualization :=
  v.withMeasures (v.buckets.measures.map Measure.asKnown)

variable {v : Visualization} {options : CompileOptions}

/-- A chart has a query when every measure of an unknown kind asks for a metric, and it would have
one with metrics of the project in their place. -/
theorem failure?_eq_none_iff :
    v.failure? options = none ↔
      (∀ m ∈ v.buckets.measures, m.HasKnownKind ∨ m.AsksForMetric) ∧
        v.asKnown.failure? options = none := by
  have hmeasures : v.asKnown.buckets.measures.findSome? (Measure.failure? v.asKnown.buckets) =
      v.buckets.measures.findSome? (Measure.failure? v.buckets ∘ Measure.asKnown) := by
    show (v.buckets.measures.map Measure.asKnown).findSome? _ = _
    rw [List.findSome?_map]
    rfl
  have hresult : v.asKnown.resultFailure? options = v.resultFailure? options := by
    refine resultFailure?_withMeasures ?_
    rw [List.map_map]
    exact List.map_congr_left fun m _ => m.objectUri_asKnown
  have heach : (∀ m ∈ v.buckets.measures, m.failure? v.buckets = none) ↔
      (∀ m ∈ v.buckets.measures, m.HasKnownKind ∨ m.AsksForMetric) ∧
        ∀ m ∈ v.buckets.measures, m.asKnown.failure? v.buckets = none := by
    rw [← forall₂_and]
    exact forall₂_congr fun m _ => RuleBook.failure?_eq_none_iff v.buckets m
  rw [failure?, failure?, hmeasures, hresult, Option.or_eq_none_iff, Option.or_eq_none_iff,
    List.findSome?_eq_none_iff, List.findSome?_eq_none_iff, heach, and_assoc]
  rfl

end Visualization

namespace Compile

variable {v : Visualization} {options : CompileOptions} {c : Configuration}

/-- In a chart that compiles every measure of an unknown kind asks for a metric. -/
theorem asksForMetric_of_chart (h : chart v options = .ok c) {m : Measure}
    (hm : m ∈ v.buckets.measures) (hkind : ¬ m.HasKnownKind) : m.AsksForMetric := by
  obtain ⟨metrics, hmetrics, -⟩ := withRules_eq_ok_iff.mp h
  obtain ⟨position, hposition⟩ := List.mem_iff_getElem?.mp hm
  obtain ⟨own, hown, -⟩ := RuleBook.exists_metricsOf_of_measure hmetrics hposition
  obtain ⟨construction, hdispatch, -⟩ := RuleBook.exists_build_of_metricsOf hown
  by_contra hasks
  rw [RuleBook.dispatch_of_unknown hkind hasks] at hdispatch
  cases hdispatch

/-- Which measures of an unknown kind are rejected, and which charts with such measures compile. The
standard rules reject such a measure exactly when it asks for no metric of its own, and no chart
with one that is rejected compiles. A measure that asks for a metric gets the construction that a
metric of the project would get. So a chart whose formats are text compiles exactly when all of its
measures of unknown kinds ask for metrics, and it would compile with metrics of the project in their
place. -/
theorem chart_takes_unknown_iff (v : Visualization) (options : CompileOptions) :
    (∀ m : Measure, ¬ m.HasKnownKind →
        (RuleBook.standard.dispatch m = .error (.noRule m.title m.objectUri) ↔
            ¬ m.AsksForMetric) ∧
          (m.AsksForMetric → ∃ construction, RuleBook.standard.dispatch m = .ok construction ∧
            RuleBook.standard.dispatch m.asKnown = .ok construction)) ∧
      ((∃ m ∈ v.buckets.measures, ¬ m.HasKnownKind ∧ ¬ m.AsksForMetric) →
        ∀ c, chart v options ≠ .ok c) ∧
      (v.HasTextFormats →
        ((∃ c, chart v options = .ok c) ↔
          (∀ m ∈ v.buckets.measures, m.HasKnownKind ∨ m.AsksForMetric) ∧
            ∃ c, chart v.asKnown options = .ok c)) := by
  refine ⟨?_, ?_, ?_⟩
  · intro m hkind
    exact ⟨RuleBook.dispatch_unknown_eq_error_iff hkind, RuleBook.dispatch_asKnown hkind⟩
  · rintro ⟨m, hm, hkind, hasks⟩ c h
    exact hasks (asksForMetric_of_chart h hm hkind)
  · intro hformats
    have hknown : v.asKnown.HasTextFormats := by
      intro m hm
      obtain ⟨own, hown, rfl⟩ := List.mem_map.mp hm
      unfold Measure.asKnown
      split <;> exact hformats own hown
    rw [(chart_failsWith hformats options).exists_ok_iff,
      (chart_failsWith hknown options).exists_ok_iff]
    exact Visualization.failure?_eq_none_iff

/-- Two measures of an unknown kind beside a metric of the project, one filtered and one that shows
its previous period or not. With the previous period the chart compiles, as it does with three
metrics of the project; without it the measure is rejected, and so is the chart. -/
theorem chart_takes_unknown_filtered :
    let visits (shows : Bool) : Measure :=
      ⟨"/gdc/md/p1/obj/5", "dataset", none, some "Visits", none, none, shows, false, []⟩
    let v (shows : Bool) : Visualization :=
      ⟨none, some "table",
        ⟨[⟨"/gdc/md/p1/obj/7", "metric", none, some "Revenue", none, none, false, false, []⟩,
            ⟨"/gdc/md/p1/obj/6", "dataset", none, some "Orders", none, none, false, false,
              [⟨some ⟨some "/gdc/md/p1/obj/2", none, ⟨["/gdc/md/p1/obj/2/elements?id=1"], false⟩⟩,
                none⟩]⟩,
            visits shows],
          [⟨"/gdc/md/p1/obj/10", "date", some "/gdc/md/p1/obj/11", none⟩], []⟩⟩
    RuleBook.standard.dispatch (visits false) =
        .error (.noRule (some "Visits") "/gdc/md/p1/obj/5") ∧
      (∀ c, chart (v false) .standard ≠ .ok c) ∧
      (v true).HasTextFormats ∧ ∃ c, chart (v true) .standard = .ok c := by
  intro visits v
  have hformats : (v true).HasTextFormats := by decide
  have hunknown : ¬ (visits false).HasKnownKind := by decide
  have hasksNothing : ¬ (visits false).AsksForMetric := by decide
  obtain ⟨hrejects, hfails, -⟩ := chart_takes_unknown_iff (v false) .standard
  obtain ⟨-, -, hcompiles⟩ := chart_takes_unknown_iff (v true) .standard
  have hasks : ∀ m ∈ (v true).buckets.measures, m.HasKnownKind ∨ m.AsksForMetric := by decide
  have hknown : ∃ c, chart (v true).asKnown .standard = .ok c :=
    exists_chart (by decide) (by decide +kernel)
  exact ⟨(hrejects _ hunknown).1.mpr hasksNothing,
    hfails ⟨visits false, by simp [v], hunknown, hasksNothing⟩,
    hformats, (hcompiles hformats).mpr ⟨hasks, hknown⟩⟩

/-- A measure of an unknown kind that shows its previous period. The chart compiles to the previous
period of the object and to the object as it is. -/
theorem chart_compares_unknown :
    let m : Measure :=
      ⟨"/gdc/md/p1/obj/5", "dataset", none, some "Visits", none, none, true, false, []⟩
    let v : Visualization :=
      ⟨none, some "table",
        ⟨[m], [⟨"/gdc/md/p1/obj/10", "date", some "/gdc/md/p1/obj/11", none⟩], []⟩⟩
    ¬ m.HasKnownKind ∧ RuleBook.standard.dispatch m = .ok .previous ∧
      ∃ c, chart v .standard = .ok c ∧ c.definitions.map (·.expression) =
        [("SELECT [/gdc/md/p1/obj/5] FOR PREVIOUS ([/gdc/md/p1/obj/11])" : Text)] := by
  intro m v
  have hcompiled : (chart v .standard).toOption.map (fun c => c.definitions.map (·.expression)) =
      some [("SELECT [/gdc/md/p1/obj/5] FOR PREVIOUS ([/gdc/md/p1/obj/11])" : Text)] := by
    decide +kernel
  obtain ⟨c, hc, hexpressions⟩ := Option.map_eq_some_iff.mp hcompiled
  exact ⟨by decide, rfl, c, eq_ok_of_toOption hc, hexpressions⟩

end Compile

end ChartQuery
