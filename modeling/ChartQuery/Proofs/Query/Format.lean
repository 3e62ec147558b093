/-
# Charts that differ in formats

The formats of the measures are looked up before a chart is executed, and the looked-up chart is
what gets compiled. So charts that differ in formats only have to give queries of one shape: the
same restrictions, columns and order from the same categories and metrics, and a failure of one is a
failure of the other. What may differ are the names and the formats of generated metrics. The
definitions are compared as they are made, before copies are dropped: two of them may be one in one
query and two in the other. A format with a half of a surrogate pair is the one exception, because
no digest can be made with it.
-/

import ChartQuery.Proofs.Metric.Format
import ChartQuery.Proofs.Query.Comparison
import ChartQuery.Proofs.Query.DateItems

namespace ChartQuery

namespace GeneratedMetric

/-- Two metrics are the same but for the format, and but for the name if they are generated: either
both have a definition or none has. -/
structure DifferInFormat (g₁ g₂ : GeneratedMetric) : Prop where
  measureIndex : g₁.measureIndex = g₂.measureIndex
  isPrevious : g₁.isPrevious = g₂.isPrevious
  sort : g₁.sort = g₂.sort
  expression : g₁.expression = g₂.expression
  title : g₁.definition.map (·.title) = g₂.definition.map (·.title)
  reference : g₁.definition = none → g₁.element = g₂.element
  unnamed : g₁.element = "" ↔ g₂.element = ""

variable {g₁ g₂ : GeneratedMetric}

theorem differInFormat_of_outline (h : g₁.outline = g₂.outline)
    (hunnamed : g₁.element = "" ↔ g₂.element = "") : DifferInFormat g₁ g₂ := by
  obtain ⟨element₁, index₁, previous₁, definition₁, sort₁⟩ := g₁
  obtain ⟨element₂, index₂, previous₂, definition₂, sort₂⟩ := g₂
  cases definition₁ <;> cases definition₂ <;>
    simp only [outline, mk.injEq, Option.some.injEq, Definition.mk.injEq, reduceCtorEq] at h
  · obtain ⟨rfl, rfl, rfl, -, rfl⟩ := h
    exact ⟨rfl, rfl, rfl, rfl, rfl, fun _ => rfl, Iff.rfl⟩
  · simp at h
  · simp at h
  · obtain ⟨-, rfl, rfl, ⟨-, hexpression, htitle, -⟩, rfl⟩ := h
    exact ⟨rfl, rfl, rfl, congrArg some hexpression, congrArg some htitle, by simp, hunnamed⟩

end GeneratedMetric

namespace Visualization

/-- The chart without the formats of its measures. -/
def withoutFormats (v : Visualization) : Visualization :=
  v.withMeasures (v.buckets.measures.map Measure.withoutFormat)

variable {v v₁ v₂ : Visualization} {options : CompileOptions}

/-- A format of the chart holds a half of a surrogate pair. -/
def FormatHoldsHalf (v : Visualization) : Prop :=
  ∃ m ∈ v.buckets.measures, m.FormatHoldsHalf

instance (v : Visualization) : Decidable v.FormatHoldsHalf := by
  unfold FormatHoldsHalf
  infer_instance

/-- The reason for which a result would not have the form of a query does not lie in its formats. -/
theorem resultFailure?_withoutFormats :
    v.withoutFormats.resultFailure? options = v.resultFailure? options :=
  resultFailure?_withMeasures (by rw [List.map_map]; rfl)

end Visualization

namespace Compile

variable {v v₁ v₂ : Visualization} {options : CompileOptions}
variable {metrics metrics₁ metrics₂ : List GeneratedMetric}

/-- A metric of a chart has a name unless it is the object of a measure without a uri. -/
theorem element_eq_empty_iff_outline (h : RuleBook.standard.metrics v.buckets = .ok metrics)
    {g : GeneratedMetric} (hg : g ∈ metrics) :
    g.element = "" ↔ g.outline.definition = none ∧ g.outline.element = "" := by
  obtain ⟨position, m, -, hmade⟩ := RuleBook.exists_madeFrom_of_mem h hg
  cases hmade with
  | reference => simp [GeneratedMetric.outline, Construction.referenceMetric]
  | named isPrevious token d hname =>
    simp [GeneratedMetric.outline, MetricName.ofContent_ne_empty hname]

/-- Charts that differ in formats have metrics of one outline, in one order, or fail for one reason,
unless the first fails because of a format with a half. -/
theorem metrics_withoutFormats (hformats : v.HasTextFormats) :
    AgreeUnless v.FormatHoldsHalf (List.map GeneratedMetric.outline)
      (RuleBook.standard.metrics v.buckets) (RuleBook.standard.metrics v.withoutFormats.buckets) :=
  RuleBook.metricsFrom_withoutFormat _ hformats 0

/-- Metrics at one position in charts that differ in formats do so at most. -/
theorem forall₂_differInFormat
    (houtline : metrics₁.map GeneratedMetric.outline = metrics₂.map GeneratedMetric.outline)
    (hmetrics₁ : RuleBook.standard.metrics v₁.buckets = .ok metrics₁)
    (hmetrics₂ : RuleBook.standard.metrics v₂.buckets = .ok metrics₂) :
    List.Forall₂ GeneratedMetric.DifferInFormat metrics₁ metrics₂ := by
  rw [← List.forall₂_eq_eq_eq, List.forall₂_map_left_iff, List.forall₂_map_right_iff,
    List.forall₂_iff_zip] at houtline
  refine List.forall₂_iff_zip.mpr ⟨houtline.1, fun {g₁ g₂} hpair => ?_⟩
  have heq := houtline.2 hpair
  refine GeneratedMetric.differInFormat_of_outline heq ?_
  rw [element_eq_empty_iff_outline hmetrics₁ (List.of_mem_zip hpair).1,
    element_eq_empty_iff_outline hmetrics₂ (List.of_mem_zip hpair).2, heq]

/-- The metrics with a name. -/
def named (metrics : List GeneratedMetric) : List GeneratedMetric :=
  metrics.filter (·.element ≠ "")

theorem columns_metricItems (metrics : List GeneratedMetric) :
    columns (metricItems metrics) = (named metrics).map (·.element) := by
  rw [columns, metricItems, named, List.map_map, List.filter_map]
  rfl

theorem requested_eq_named (v : Visualization) (options : CompileOptions)
    (metrics : List GeneratedMetric) :
    requested v options metrics =
      categoryColumns v options ++ (named metrics).map (·.element) := by
  rw [requested_eq, ← columns_metricItems_eq_elements, columns_metricItems]

/-- Two order entries ask for one direction, of the column of one category or of the columns of two
metrics that stand at one position. -/
def OrderedAlike (categories : List Category) (metrics₁ metrics₂ : List GeneratedMetric)
    (o₁ o₂ : OrderEntry) : Prop :=
  o₁.direction = o₂.direction ∧
    ((∃ c ∈ categories, o₁.column = c.displayForm ∧ o₂.column = c.displayForm) ∨
      ∃ g₁ g₂, (g₁, g₂) ∈ metrics₁.zip metrics₂ ∧ o₁.column = g₁.element ∧ o₂.column = g₂.element)

/-- Metrics that differ in formats are ordered alike, in a bar chart by the first that has a name.
-/
theorem orderBy_alike {kind : Option Text} {categories : List Category}
    {order₁ order₂ : List OrderEntry}
    (h : List.Forall₂ GeneratedMetric.DifferInFormat metrics₁ metrics₂)
    (h₁ : orderBy kind (categoryItems categories) (metricItems metrics₁) = .ok order₁)
    (h₂ : orderBy kind (categoryItems categories) (metricItems metrics₂) = .ok order₂) :
    List.Forall₂ (OrderedAlike categories metrics₁ metrics₂) order₁ order₂ := by
  -- What stands at one position is remembered while metrics are left out.
  let paired (g₁ g₂ : GeneratedMetric) : Prop :=
    g₁.DifferInFormat g₂ ∧ (g₁, g₂) ∈ metrics₁.zip metrics₂
  have hpaired : List.Forall₂ paired metrics₁ metrics₂ :=
    List.forall₂_iff_zip.mpr
      ⟨h.length_eq, fun hpair => ⟨(List.forall₂_iff_zip.mp h).2 hpair, hpair⟩⟩
  have hitems : metricItems metrics₁ ≠ [] ↔ metricItems metrics₂ ≠ [] := by
    rw [← List.length_pos_iff, ← List.length_pos_iff, metricItems, metricItems, List.length_map,
      List.length_map, h.length_eq]
  by_cases hbar : kind = some barKind ∧ metricItems metrics₁ ≠ []
  · rw [orderBy, if_pos hbar, columns_metricItems] at h₁
    rw [orderBy, if_pos ⟨hbar.1, hitems.mp hbar.2⟩, columns_metricItems] at h₂
    have hnamed : List.Forall₂ paired (named metrics₁) (named metrics₂) :=
      List.rel_filter (fun g₁ g₂ hg => by simp [hg.1.unnamed]) hpaired
    cases hn₁ : named metrics₁ with
    | nil =>
      rw [hn₁] at h₁
      cases h₁
    | cons g₁ rest₁ =>
      rw [hn₁] at h₁ hnamed
      obtain ⟨g₂, rest₂, hg, -, hn₂⟩ := List.forall₂_cons_left_iff.mp hnamed
      rw [hn₂] at h₂
      cases h₁
      cases h₂
      exact .cons ⟨rfl, Or.inr ⟨g₁, g₂, hg.2, rfl, rfl⟩⟩ .nil
  · rw [orderBy_of_not_bar hbar] at h₁
    rw [orderBy_of_not_bar (by rwa [← hitems])] at h₂
    cases h₁
    cases h₂
    refine List.rel_append (List.forall₂_same.mpr fun o ho => ?_) ?_
    · obtain ⟨c, hc, hordering⟩ := List.mem_filterMap.mp ho
      obtain ⟨direction, -, rfl⟩ := Option.map_eq_some_iff.mp hordering
      exact ⟨rfl, Or.inl ⟨c, hc, rfl, rfl⟩⟩
    · rw [metricItems, metricItems, List.filterMap_map, List.filterMap_map]
      refine List.rel_filterMap (fun g₁ g₂ hg => ?_) hpaired
      simp only [Function.comp_apply, orderEntry?, hg.1.sort]
      cases nonEmpty? g₂.sort with
      | none => exact .none
      | some direction => exact .some ⟨rfl, Or.inr ⟨g₁, g₂, hg.2, rfl, rfl⟩⟩

/-- Two queries have one shape, made from metrics that differ in formats: the restrictions are the
same, the columns are those of the same categories and then those of the metrics with a name, and
the order goes by the same categories and by metrics at the same positions. -/
structure SameShape (v : Visualization) (options : CompileOptions)
    (metrics₁ metrics₂ : List GeneratedMetric) (c₁ c₂ : Configuration) : Prop where
  metrics : List.Forall₂ GeneratedMetric.DifferInFormat metrics₁ metrics₂
  restrictions : c₁.restrictions = c₂.restrictions
  columns₁ : c₁.columns = categoryColumns v options ++ (named metrics₁).map (·.element)
  columns₂ : c₂.columns = categoryColumns v options ++ (named metrics₂).map (·.element)
  named : List.Forall₂ GeneratedMetric.DifferInFormat (named metrics₁) (named metrics₂)
  order : List.Forall₂ (OrderedAlike (shown v.buckets options).categories metrics₁ metrics₂)
    c₁.orderBy c₂.orderBy

/-- A chart whose metrics have no name for want of a digest does not compile. -/
theorem chart_of_unencodable {halves : Unencodable}
    (h : RuleBook.standard.metrics v.buckets = .error (.unencodable halves)) :
    chart v options = .error (.unencodable halves) := by
  rw [chart, withRules, h]

/-- Queries that are put together from metrics of one outline have one shape. -/
theorem sameShape_of_outline (hv : v₁.withoutFormats = v₂.withoutFormats)
    (houtline : metrics₁.map GeneratedMetric.outline = metrics₂.map GeneratedMetric.outline)
    (hmetrics₁ : RuleBook.standard.metrics v₁.buckets = .ok metrics₁)
    (hmetrics₂ : RuleBook.standard.metrics v₂.buckets = .ok metrics₂) {c₁ c₂ : Configuration}
    (h₁ : assemble v₁ options metrics₁ = .ok c₁) (h₂ : assemble v₂ options metrics₂ = .ok c₂) :
    SameShape v₁ options metrics₁ metrics₂ c₁ c₂ := by
  have hkind : v₁.kind = v₂.kind := congrArg (fun v => v.kind) hv
  have hcategories : v₁.buckets.categories = v₂.buckets.categories :=
    congrArg (fun v => v.buckets.categories) hv
  have hfilters : v₁.buckets.filters = v₂.buckets.filters :=
    congrArg (fun v => v.buckets.filters) hv
  obtain ⟨order₁, horder₁, -, rfl⟩ := assemble_eq_ok_iff.mp h₁
  obtain ⟨order₂, horder₂, -, rfl⟩ := assemble_eq_ok_iff.mp h₂
  have hmetrics := forall₂_differInFormat houtline hmetrics₁ hmetrics₂
  have hnamed : List.Forall₂ GeneratedMetric.DifferInFormat (named metrics₁) (named metrics₂) :=
    List.rel_filter (fun g₁ g₂ hg => by simp [hg.unnamed]) hmetrics
  have hcolumns₂ : requested v₂ options metrics₂ =
      categoryColumns v₁ options ++ (named metrics₂).map (·.element) := by
    rw [requested_eq_named, categoryColumns, categoryColumns, hcategories]
  have hempty : requested v₁ options metrics₁ = [] ↔ requested v₂ options metrics₂ = [] := by
    have hlength := hnamed.length_eq
    rw [requested_eq_named, hcolumns₂, List.append_eq_nil_iff, List.append_eq_nil_iff,
      List.map_eq_nil_iff, List.map_eq_nil_iff, ← List.length_eq_zero_iff,
      ← List.length_eq_zero_iff, ← List.length_eq_zero_iff, hlength]
  have hshown : (shown v₁.buckets options).filters = (shown v₂.buckets options).filters := by
    unfold shown
    split <;> simp [Buckets.withoutDates, hfilters]
  have hshownCategories :
      (shown v₁.buckets options).categories = (shown v₂.buckets options).categories := by
    rw [shown_categories, shown_categories, hcategories]
  refine ⟨hmetrics, ?_, requested_eq_named .., hcolumns₂, hnamed, ?_⟩
  · rw [hshown]
    exact restrictions_congr _ hempty
  · rw [hkind, hshownCategories] at horder₁
    rw [hshownCategories]
    exact orderBy_alike hmetrics horder₁ horder₂

end Compile

end ChartQuery
