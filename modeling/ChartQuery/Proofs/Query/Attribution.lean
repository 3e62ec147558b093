/-
# Which measure a column shows

The headers of a result are attributed to measures through the mappings of the query alone. Under
the standard rules the mappings follow the measures: each measure has one column of its own and,
directly in front of it, one for its previous period if it shows that. The column in front is
defined as the previous period of the one behind it. Rules of another book may choose otherwise, so
nothing is claimed about them.
-/

import ChartQuery.Proofs.Metric.Previous
import ChartQuery.Proofs.Query.Reference

namespace ChartQuery

namespace GeneratedMetric

/-- How an expression refers to a metric of the measure: by the expression of the metric in
parentheses, or by the object of the measure where the metric is that object. -/
def referredTo (m : Measure) (g : GeneratedMetric) : Text :=
  match g.expression with
  | some expression => "(" ++ expression ++ ")"
  | none => Expression.bracketed m.objectUri

/-- The metric is the previous period, over the date of the buckets, of another metric of the same
measure. -/
structure IsPreviousOf (b : Buckets) (m : Measure) (earlier compared : GeneratedMetric) : Prop where
  measureIndex : earlier.measureIndex = compared.measureIndex
  isPrevious : compared.isPrevious = false
  expression : ∃ date, b.dateAttribute = some date ∧
    earlier.expression = some (Expression.previous date (compared.referredTo m))
  reference : compared.expression = none → compared.element = m.objectUri

end GeneratedMetric

/-- What the mappings say about the columns of the measure at a position: that position, and which
column is a previous period. -/
def Measure.attributions (m : Measure) (position : Nat) : List (Int × Option Bool) :=
  if m.showsPrevious then [((position : Int), some true), ((position : Int), none)]
  else [((position : Int), none)]

namespace Construction

variable {m : Measure} {b : Buckets} {index : Int}

/-- What a derived or a plain measure is compared with, and its previous period. -/
theorem isPreviousOf_comparedMetric {date inner : Text} {earlier compared : GeneratedMetric}
    (hdate : b.dateAttribute = some date)
    (hcompared : comparedMetric m index = .ok (compared, inner))
    (hearlier : previousMetric m date inner m.format index = .ok earlier) :
    earlier.IsPreviousOf b m compared := by
  have hindex : earlier.measureIndex = compared.measureIndex := by
    rw [(madeFrom_of_generate hearlier).measureIndex_eq,
      (madeFrom_of_comparedMetric hcompared).measureIndex_eq]
  have hown : compared.isPrevious = false := (build_compared_previous (b := b) hcompared).2
  have hexpression := expression_of_generate hearlier
  rcases comparedMetric_eq_ok hcompared with ⟨-, haggregate, rfl⟩ | ⟨-, rfl, rfl⟩
  · have hinner := expression_of_generate haggregate
    refine ⟨hindex, hown, ⟨date, hdate, ?_⟩, by simp [hinner]⟩
    rw [hexpression, GeneratedMetric.referredTo, hinner]
  · exact ⟨hindex, hown, ⟨date, hdate, hexpression⟩, fun _ => rfl⟩

/-- A share, and its previous period. -/
theorem isPreviousOf_shareMetric {date : Text} {earlier compared : GeneratedMetric}
    (hdate : b.dateAttribute = some date) (hshare : shareMetric m b index = .ok compared)
    (hearlier : previousMetric m date ("(" ++ Expression.share m b.shareAttribute ++ ")")
      (some (.text shareFormat)) index = .ok earlier) :
    earlier.IsPreviousOf b m compared := by
  have hindex : earlier.measureIndex = compared.measureIndex := by
    rw [(madeFrom_of_generate hearlier).measureIndex_eq,
      (madeFrom_of_shareMetric hshare).measureIndex_eq]
  have hown : compared.isPrevious = false := isPrevious_of_shareMetric hshare
  have hexpression := expression_of_generate hearlier
  obtain ⟨uri, huri, hgenerate⟩ := shareMetric_eq_ok hshare
  have hinner := expression_of_generate hgenerate
  refine ⟨hindex, hown, ⟨date, hdate, ?_⟩, by simp [hinner]⟩
  rw [hexpression, GeneratedMetric.referredTo, hinner, huri]

end Construction

namespace RuleBook

variable {m : Measure} {b : Buckets} {index : Int} {gs : List GeneratedMetric}

/-- The columns of a measure: its own, or its previous period and then its own. -/
inductive ColumnsOf (b : Buckets) (m : Measure) (index : Int) : List GeneratedMetric → Prop
  | own (g : GeneratedMetric) (hshows : m.showsPrevious = false) (hindex : g.measureIndex = index)
      (hown : g.isPrevious = false) : ColumnsOf b m index [g]
  | pair (earlier compared : GeneratedMetric) (hshows : m.showsPrevious = true)
      (hindex : earlier.measureIndex = index) (hprevious : earlier.isPrevious = true)
      (hcompared : earlier.IsPreviousOf b m compared) : ColumnsOf b m index [earlier, compared]

/-- Under the standard rules every measure that has columns has them in one of the two forms. -/
theorem columnsOf_of_metricsOf (h : standard.metricsOf b index m = .ok gs) :
    ColumnsOf b m index gs := by
  have hindex : ∀ g ∈ gs, g.measureIndex = index := fun g hg =>
    ((metricsOf_eq_ok h).2 g hg).measureIndex_eq
  obtain ⟨c, hdispatch, hbuild⟩ := exists_build_of_metricsOf h
  have hchosen := dispatch_standard_eq_ok_iff.mp hdispatch
  cases c with
  | reference =>
    cases hbuild
    exact .own _ hchosen.1 rfl rfl
  | aggregate =>
    obtain ⟨g, haggregate, rfl⟩ := Construction.singleton_eq_ok hbuild
    have hown : g.isPrevious = false := Construction.isPrevious_of_generate haggregate
    exact .own g hchosen.1 (hindex g (by simp)) hown
  | share =>
    obtain ⟨g, hshare, rfl⟩ := Construction.singleton_eq_ok hbuild
    have hown : g.isPrevious = false := Construction.isPrevious_of_shareMetric hshare
    exact .own g hchosen.1 (hindex g (by simp)) hown
  | previous =>
    obtain ⟨date, inner, earlier, compared, hdate, hcompared, hearlier, rfl⟩ :=
      Construction.previousPair_eq_ok hbuild
    exact .pair earlier compared hchosen.1 (hindex earlier (by simp))
      (Construction.isPrevious_of_generate hearlier)
      (Construction.isPreviousOf_comparedMetric hdate hcompared hearlier)
  | previousShare =>
    obtain ⟨date, earlier, compared, hdate, hshare, hearlier, rfl⟩ :=
      Construction.previousSharePair_eq_ok hbuild
    exact .pair earlier compared hchosen.1 (hindex earlier (by simp))
      (Construction.isPrevious_of_generate hearlier)
      (Construction.isPreviousOf_shareMetric hdate hshare hearlier)

end RuleBook

namespace Compile

variable {v : Visualization} {options : CompileOptions} {c : Configuration} {b : Buckets}
variable {measures : List Measure} {metrics : List GeneratedMetric}

/-- What a mapping says about its column. -/
def attribution (m : MetricMapping) : Int × Option Bool :=
  (m.measureIndex, m.isPrevious)

/-- What the mappings say about the columns of measures, the first of which stands at a position. -/
def attributions (measures : List Measure) (start : Nat) : List (Int × Option Bool) :=
  (measures.zipIdx start).flatMap fun (m, position) => m.attributions position

theorem attributions_cons (m : Measure) (rest : List Measure) (start : Nat) :
    attributions (m :: rest) start = m.attributions start ++ attributions rest (start + 1) := by
  simp [attributions]

/-- The columns of one measure are mapped to it, its previous period first. -/
theorem map_attribution_of_columnsOf {m : Measure} {position : Nat} {gs : List GeneratedMetric}
    (h : RuleBook.ColumnsOf b m position gs) :
    (gs.map mapping).map attribution = m.attributions position := by
  cases h with
  | own g hshows hindex hown =>
    simp [attribution, mapping, Measure.attributions, hshows, hindex, hown]
  | pair earlier compared hshows hindex hprevious hcompared =>
    have hsecond : compared.measureIndex = position := hcompared.measureIndex ▸ hindex
    simp [attribution, mapping, Measure.attributions, hshows, hindex, hprevious, hsecond,
      hcompared.isPrevious]

/-- The columns of all measures are mapped to them in turn. -/
theorem map_attribution_of_metricsFrom {start : Nat}
    (h : RuleBook.standard.metricsFrom b start measures = .ok metrics) :
    (metrics.map mapping).map attribution = attributions measures start := by
  induction measures generalizing start metrics with
  | nil =>
    cases h
    rfl
  | cons m rest ih =>
    obtain ⟨first, others, hfirst, hothers, rfl⟩ := RuleBook.metricsFrom_cons_eq_ok h
    have hcolumns := map_attribution_of_columnsOf (RuleBook.columnsOf_of_metricsOf hfirst)
    have hrest : (others.map mapping).map attribution = attributions rest (start + 1) :=
      ih (by exact_mod_cast hothers)
    rw [List.map_append, List.map_append, hcolumns, hrest, attributions_cons]

/-- A previous period stands directly in front of the metric that it is the previous period of. -/
theorem exists_compared_of_metricsFrom {index : Int}
    (h : RuleBook.standard.metricsFrom b index measures = .ok metrics) {place : Nat}
    {earlier : GeneratedMetric} (hplace : metrics[place]? = some earlier)
    (hprevious : earlier.isPrevious = true) :
    ∃ compared, metrics[place + 1]? = some compared ∧ ∃ (position : Nat) (m : Measure),
      measures[position]? = some m ∧ earlier.measureIndex = index + position ∧
        earlier.IsPreviousOf b m compared := by
  induction measures generalizing index metrics place with
  | nil =>
    cases h
    simp at hplace
  | cons m rest ih =>
    obtain ⟨first, others, hfirst, hothers, rfl⟩ := RuleBook.metricsFrom_cons_eq_ok h
    -- A column of a later measure has its place among the columns of the later measures.
    have hlater : ∀ {later : Nat}, others[later]? = some earlier →
        ∃ compared, others[later + 1]? = some compared ∧ ∃ (position : Nat) (x : Measure),
          (m :: rest)[position]? = some x ∧ earlier.measureIndex = index + position ∧
            earlier.IsPreviousOf b x compared := by
      intro later hlater
      obtain ⟨compared, hnext, position, x, hx, hindex, hcompared⟩ := ih hothers hlater
      refine ⟨compared, hnext, position + 1, x, by simpa using hx, ?_, hcompared⟩
      push_cast
      omega
    cases RuleBook.columnsOf_of_metricsOf hfirst with
    | own g hshows hindex hown =>
      cases place with
      | zero =>
        obtain rfl : g = earlier := by simpa using hplace
        rw [hown] at hprevious
        cases hprevious
      | succ later => exact hlater hplace
    | pair front compared hshows hindex hfront hcompared =>
      match place with
      | 0 =>
        obtain rfl : front = earlier := by simpa using hplace
        exact ⟨compared, rfl, 0, m, rfl, by simpa using hindex, hcompared⟩
      | 1 =>
        obtain rfl : compared = earlier := by simpa using hplace
        rw [hcompared.isPrevious] at hprevious
        cases hprevious
      | later + 2 => exact hlater hplace

/-! ## Positions in turn -/

theorem mem_attributions_index {position : Nat} {m : Measure} {a : Int × Option Bool}
    (h : a ∈ m.attributions position) : a.1 = position := by
  unfold Measure.attributions at h
  split at h
  · rcases List.mem_pair.mp h with rfl | rfl <;> rfl
  · rw [List.mem_singleton.mp h]

/-- The measures stand at the start or behind it. -/
theorem start_le_of_mem_attributions {start : Nat} {a : Int × Option Bool}
    (h : a ∈ attributions measures start) : (start : Int) ≤ a.1 := by
  obtain ⟨⟨m, position⟩, hmem, ha⟩ := List.mem_flatMap.mp h
  have hposition : start ≤ position := List.le_snd_of_mem_zipIdx hmem
  rw [mem_attributions_index ha]
  exact_mod_cast hposition

/-- The positions of the measures never decrease. -/
theorem pairwise_attributions (measures : List Measure) (start : Nat) :
    ((attributions measures start).map (·.1)).Pairwise (· ≤ ·) := by
  induction measures generalizing start with
  | nil => exact .nil
  | cons m rest ih =>
    rw [attributions_cons, List.map_append, List.pairwise_append]
    refine ⟨?_, ih (start + 1), ?_⟩
    · unfold Measure.attributions
      split <;> simp
    · intro i hi j hj
      obtain ⟨a, ha, rfl⟩ := List.mem_map.mp hi
      obtain ⟨a', ha', rfl⟩ := List.mem_map.mp hj
      have hlater := start_le_of_mem_attributions ha'
      rw [mem_attributions_index ha]
      push_cast at hlater
      omega

/-- A measure has two columns if it shows its previous period, and one otherwise. -/
theorem count_attributions {start position : Nat} {m : Measure}
    (hm : measures[position]? = some m) :
    ((attributions measures start).map (·.1)).count ((start + position : Nat) : Int) =
      if m.showsPrevious then 2 else 1 := by
  induction measures generalizing start position with
  | nil => simp at hm
  | cons first rest ih =>
    rw [attributions_cons, List.map_append, List.count_append]
    cases position with
    | zero =>
      obtain rfl : first = m := by simpa using hm
      have hlater : ((attributions rest (start + 1)).map (·.1)).count
          ((start + 0 : Nat) : Int) = 0 := by
        rw [List.count_eq_zero]
        intro hmem
        obtain ⟨a, ha, hindex⟩ := List.mem_map.mp hmem
        have hle := start_le_of_mem_attributions ha
        push_cast at hle hindex
        omega
      rw [hlater]
      cases hshows : first.showsPrevious <;> simp [Measure.attributions, hshows]
    | succ position =>
      have hfirst : ((first.attributions start).map (·.1)).count
          ((start + (position + 1) : Nat) : Int) = 0 := by
        rw [List.count_eq_zero]
        intro hmem
        obtain ⟨a, ha, hindex⟩ := List.mem_map.mp hmem
        rw [mem_attributions_index ha] at hindex
        push_cast at hindex
        omega
      have hplace : start + (position + 1) = start + 1 + position := by omega
      rw [hfirst, Nat.zero_add, hplace]
      exact ih (by simpa using hm)

/-- A chart that compiles under the standard rules has its mappings in the order of its measures,
for each first the previous period if the measure shows it, then the measure itself. So the
positions of the measures never decrease, and each occurs twice or once. A previous period stands
directly in front of the metric of the same measure that it is compared with, and it is defined as
the previous period of that metric over the date that the buckets give: of the metric's expression,
or of the object of the measure where the metric is that object. -/
theorem chart_attributes (h : chart v options = .ok c) :
    (c.mappings.map fun m => (m.measureIndex, m.isPrevious)) =
        (v.buckets.measures.zipIdx.flatMap fun (m, position) =>
          if m.showsPrevious then [((position : Int), some true), ((position : Int), none)]
          else [((position : Int), none)]) ∧
      (c.mappings.map (·.measureIndex)).Pairwise (· ≤ ·) ∧
      (∀ (position : Nat) (m : Measure), v.buckets.measures[position]? = some m →
        (c.mappings.map (·.measureIndex)).count (position : Int) =
          if m.showsPrevious then 2 else 1) ∧
      ∃ metrics, RuleBook.standard.metrics v.buckets = .ok metrics ∧
        c.mappings = metrics.map mapping ∧
        ∀ (place : Nat) (earlier : GeneratedMetric), metrics[place]? = some earlier →
          earlier.isPrevious = true →
          ∃ compared m, metrics[place + 1]? = some compared ∧ v.Owns m earlier ∧
            earlier.IsPreviousOf v.buckets m compared := by
  obtain ⟨metrics, hmetrics, hassemble⟩ := withRules_eq_ok_iff.mp h
  obtain ⟨order, -, -, rfl⟩ := assemble_eq_ok_iff.mp hassemble
  have hattributions : (metrics.map mapping).map attribution =
      attributions v.buckets.measures 0 :=
    map_attribution_of_metricsFrom hmetrics
  have hpositions : (metrics.map mapping).map (·.measureIndex) =
      (attributions v.buckets.measures 0).map (·.1) := by
    rw [← hattributions, List.map_map, List.map_map, List.map_map]
    rfl
  refine ⟨hattributions, ?_, ?_, metrics, hmetrics, rfl, ?_⟩
  · rw [hpositions]
    exact pairwise_attributions v.buckets.measures 0
  · intro position m hm
    rw [hpositions, ← Nat.zero_add position]
    exact count_attributions hm
  · intro place earlier hplace hprevious
    obtain ⟨compared, hnext, position, m, hm, hindex, hcompared⟩ :=
      exists_compared_of_metricsFrom hmetrics hplace hprevious
    rw [Int.zero_add] at hindex
    exact ⟨compared, m, hnext, ⟨position, hindex, hm⟩, hcompared⟩

/-- A share that shows its previous period, between two metrics of the project of which the second
shows its own: five columns, and the second of them is the previous period of the third. -/
theorem chart_attributes_compared :
    let v : Visualization :=
      ⟨none, some "table",
        ⟨[⟨"/gdc/md/p1/obj/7", "metric", none, some "Orders", none, none, false, false, []⟩,
            ⟨"/gdc/md/p1/obj/5", "fact", some "sum", some "Revenue", none, none, true, true, []⟩,
            ⟨"/gdc/md/p1/obj/8", "metric", none, some "Visits", none, none, true, false, []⟩],
          [⟨"/gdc/md/p1/obj/10", "date", some "/gdc/md/p1/obj/11", none⟩], []⟩⟩
    ∃ c, ∃ metrics : List GeneratedMetric,
      chart v .standard = .ok c ∧ c.mappings = metrics.map mapping ∧
      (c.mappings.map fun m => (m.measureIndex, m.isPrevious)) =
        [(0, none), (1, some true), (1, none), (2, some true), (2, none)] ∧
      ∃ earlier compared m, metrics[1]? = some earlier ∧ metrics[2]? = some compared ∧
        earlier.IsPreviousOf v.buckets m compared := by
  intro v
  have hformats : v.HasTextFormats := by decide
  obtain ⟨c, hc⟩ : ∃ c, chart v .standard = .ok c := exists_chart hformats (by decide +kernel)
  obtain ⟨hmappings, -, -, metrics, -, hmetrics, hprevious⟩ := chart_attributes hc
  have hsecond : ((metrics.map mapping).map attribution)[1]? = some (1, some true) := by
    rw [← hmetrics]
    exact congrArg (fun marks : List (Int × Option Bool) => marks[1]?) hmappings
  rw [List.map_map, List.getElem?_map] at hsecond
  obtain ⟨earlier, hearlier, hflag⟩ := Option.map_eq_some_iff.mp hsecond
  have hshows : earlier.isPrevious = true := by
    cases hown : earlier.isPrevious <;> simp_all [attribution, mapping]
  obtain ⟨compared, m, hcompared, -, hpair⟩ := hprevious 1 earlier hearlier hshows
  exact ⟨c, metrics, hc, hmetrics, hmappings, earlier, compared, m, hearlier, hcompared, hpair⟩

end Compile

end ChartQuery
