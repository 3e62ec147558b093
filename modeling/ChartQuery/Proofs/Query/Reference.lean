/-
# Missing references in a query

A query refers to attributes in the expressions of its definitions, and to display forms and
dimensions in its restrictions. Dates to compare over, attributes to take a total over and
dimensions of ranges are never missing: a chart that would need a missing one fails to compile.
Filters are not asked in this way. The main statement says what is always given, and exactly which
charts compile to a query with a missing reference; the example after it is the smallest of them.
-/

import ChartQuery.Proofs.Metric.Dependency
import ChartQuery.Proofs.Metric.Reference
import ChartQuery.Proofs.Query.Failure

namespace ChartQuery

/-- The metric is made from the measure, which stands at its position in the chart. -/
def Visualization.Owns (v : Visualization) (m : Measure) (g : GeneratedMetric) : Prop :=
  ∃ position : Nat, g.measureIndex = position ∧ v.buckets.measures[position]? = some m

namespace Compile

variable {book : RuleBook} {v : Visualization} {options : CompileOptions} {c : Configuration}
variable {metrics : List GeneratedMetric}

/-- A metric of the measure at a position is owned by it, and if it has an expression, that one is
written over what the buckets give. -/
theorem written_of_metricsOf {position : Nat} {m : Measure} {own : List GeneratedMetric}
    (hm : v.buckets.measures[position]? = some m)
    (h : book.metricsOf v.buckets (0 + position) m = .ok own) {g : GeneratedMetric}
    (hg : g ∈ own) :
    v.Owns m g ∧ ∀ expression ∈ g.expression, Construction.WrittenOver v.buckets m expression := by
  obtain ⟨c, -, hbuild⟩ := RuleBook.exists_build_of_metricsOf h
  have hindex : g.measureIndex = 0 + position :=
    ((RuleBook.metricsOf_eq_ok h).2 g hg).measureIndex_eq
  rw [Int.zero_add] at hindex
  exact ⟨⟨position, hindex, hm⟩, Construction.writtenOver_of_build hbuild hg⟩

/-- Every metric with an expression is written for its measure over what the buckets give. -/
theorem written_of_mem (h : book.metrics v.buckets = .ok metrics) {g : GeneratedMetric}
    (hg : g ∈ metrics) :
    ∃ m, v.Owns m g ∧
      ∀ expression ∈ g.expression, Construction.WrittenOver v.buckets m expression := by
  obtain ⟨position, m, own, hm, hown, hg⟩ := RuleBook.exists_metricsOf_of_mem h hg
  exact ⟨m, written_of_metricsOf hm hown hg⟩

/-- Some expression restricts a missing attribute exactly when a filter that restricts something in
some measure has no attribute. -/
theorem restrictsMissing_iff (h : RuleBook.standard.metrics v.buckets = .ok metrics) :
    (∃ g ∈ metrics, ∃ m, v.Owns m g ∧
        ∃ expression ∈ g.expression, Expression.RestrictsMissing m expression) ↔
      ∃ m ∈ v.buckets.measures, ∃ f ∈ m.selections, f.attributeUri = none := by
  constructor
  · rintro ⟨g, -, m, ⟨position, -, hm⟩, expression, -, f, hf, hmissing, -⟩
    exact ⟨m, List.mem_of_getElem? hm, f, hf, hmissing⟩
  · rintro ⟨m, hm, f, hf, hmissing⟩
    obtain ⟨position, hposition⟩ := List.mem_iff_getElem?.mp hm
    obtain ⟨own, hown, hsubset⟩ := RuleBook.exists_metricsOf_of_measure h hposition
    obtain ⟨g, hg, expression, hexpression⟩ := RuleBook.exists_expression_of_selections hown hf
    obtain ⟨howns, hover⟩ := written_of_metricsOf hposition hown hg
    obtain ⟨targets, hwritten, -⟩ := hover expression hexpression
    exact ⟨g, hsubset hg, m, howns, expression, hexpression, f, hf, hmissing,
      Expression.clause_of_missing hmissing, hwritten.holds hf⟩

/-- Of the restrictions of a query that compiles none stands under null. -/
theorem key_ne_null (h : withRules book v options = .ok c) :
    ∀ entry ∈ c.restrictions, entry.1 ≠ .null := by
  obtain ⟨metrics, -, hassemble⟩ := withRules_eq_ok_iff.mp h
  obtain ⟨order, -, hnamed, rfl⟩ := assemble_eq_ok_iff.mp hassemble
  intro entry hentry hnull
  have hunnamed := (WhereClause.hasUnnamedRange_iff _).mpr ⟨entry, hentry, hnull⟩
  rw [hnamed] at hunnamed
  cases hunnamed

/-- A clause for an attribute stands under null exactly when the query has columns and a filter that
takes part selects elements without a display form. -/
theorem keyedByNull_iff (h : withRules book v options = .ok c) :
    (∃ clause ∈ WhereClause.attributeClauses c.restrictions, WhereClause.KeyedByNull clause) ↔
      c.columns ≠ [] ∧ ∃ f ∈ (shown v.buckets options).filters,
        ∃ a ∈ f.selecting?, a.displayForm = none := by
  obtain ⟨metrics, -, hassemble⟩ := withRules_eq_ok_iff.mp h
  obtain ⟨order, -, -, rfl⟩ := assemble_eq_ok_iff.mp hassemble
  simp only [restrictions, ne_eq, ← List.isEmpty_iff]
  split
  · next hcolumns => simp [hcolumns, WhereClause.attributeClauses, Value.field?]
  · next hcolumns =>
    rw [WhereClause.exists_keyedByNull_iff]
    simp [hcolumns]

/-- What a chart that compiles under the standard rules refers to. Each definition is that of a
metric; each metric with an expression is written for its measure, and what it is compared over and
takes a total over is an attribute that is not empty and that the buckets give; no restriction
stands under null. Filters are taken as they are: some expression restricts a missing attribute
exactly when a filter that restricts something in some measure has no attribute, and some clause
stands under null exactly when the query has columns and a filter that takes part selects elements
without a display form. -/
theorem chart_references (h : chart v options = .ok c) :
    ∃ metrics, RuleBook.standard.metrics v.buckets = .ok metrics ∧
      (∀ d ∈ c.definitions, ∃ g ∈ metrics, g.definition = some d) ∧
      (∀ g ∈ metrics, ∃ m, v.Owns m g ∧ ∀ expression ∈ g.expression,
        ∃ targets, Expression.Written m expression targets ∧
          ∀ target ∈ targets, v.buckets.Gives target) ∧
      (∀ entry ∈ c.restrictions, entry.1 ≠ .null) ∧
      ((∃ g ∈ metrics, ∃ m, v.Owns m g ∧
          ∃ expression ∈ g.expression, Expression.RestrictsMissing m expression) ↔
        ∃ m ∈ v.buckets.measures, ∃ f ∈ m.selections, f.attributeUri = none) ∧
      ((∃ clause ∈ WhereClause.attributeClauses c.restrictions, WhereClause.KeyedByNull clause) ↔
        c.columns ≠ [] ∧ ∃ f ∈ (shown v.buckets options).filters,
          ∃ a ∈ f.selecting?, a.displayForm = none) := by
  obtain ⟨metrics, hmetrics, -⟩ := withRules_eq_ok_iff.mp h
  refine ⟨metrics, hmetrics, ?_, ?_, key_ne_null h, restrictsMissing_iff hmetrics,
    keyedByNull_iff h⟩
  · intro d hd
    rw [definitions_eq hmetrics h] at hd
    exact List.mem_filterMap.mp (Definition.mem_of_mem_arranged hd)
  · intro g hg
    exact written_of_mem hmetrics hg

/-- A filtered share beside its previous period, with every reference given: nothing that the query
restricts stands under null, in whatever place. -/
theorem chart_references_given :
    let v : Visualization :=
      ⟨none, some "table",
        ⟨[⟨"/gdc/md/p1/obj/5", "fact", some "sum", some "Revenue", none, none, true, true,
              [⟨some ⟨some "/gdc/md/p1/obj/2", none, ⟨["/gdc/md/p1/obj/2/elements?id=1"], false⟩⟩,
                none⟩]⟩],
          [⟨"/gdc/md/p1/obj/10", "date", some "/gdc/md/p1/obj/11", none⟩],
          [⟨some ⟨none, some "/gdc/md/p1/obj/3", ⟨["/gdc/md/p1/obj/2/elements?id=2"], true⟩⟩, none⟩,
            ⟨none, some ⟨none, some "/gdc/md/p1/obj/9", none, none, none, some .null,
              some .null⟩⟩]⟩⟩
    ∃ c, chart v .standard = .ok c ∧ (∀ entry ∈ c.restrictions, entry.1 ≠ .null) ∧
      ¬ ∃ clause ∈ WhereClause.attributeClauses c.restrictions,
        WhereClause.KeyedByNull clause := by
  intro v
  have hformats : v.HasTextFormats := by decide
  obtain ⟨c, hc⟩ : ∃ c, chart v .standard = .ok c := exists_chart hformats (by decide +kernel)
  obtain ⟨metrics, -, -, -, hkeys, -, hclauses⟩ := chart_references hc
  have hdisplayed : ¬ ∃ f ∈ (shown v.buckets .standard).filters,
      ∃ a ∈ f.selecting?, a.displayForm = none := by
    decide
  exact ⟨c, hc, hkeys, fun hnull => hdisplayed (hclauses.mp hnull).2⟩

/-- The sum of a fact with a filter that selects an element and has no attribute. The chart
compiles, and its definition refers to the missing attribute. -/
theorem chart_restricts_missing :
    let v : Visualization :=
      ⟨none, some "table",
        ⟨[⟨"/gdc/md/p1/obj/5", "fact", some "sum", some "Revenue", some (.text "#,##0"), none,
              false, false,
              [⟨some ⟨none, some "/gdc/md/p1/obj/3", ⟨["/gdc/md/p1/obj/2/elements?id=1"], false⟩⟩,
                none⟩]⟩],
          [], []⟩⟩
    (∃ m ∈ v.buckets.measures, ∃ f ∈ m.selections, f.attributeUri = none) ∧
      ∃ c, chart v .standard = .ok c ∧ c.definitions.map (·.expression) =
        [("SELECT SUM([/gdc/md/p1/obj/5]) WHERE [None] IN ([/gdc/md/p1/obj/2/elements?id=1])" :
          Text)] := by
  intro v
  have hcompiled : (chart v .standard).toOption.map (fun c => c.definitions.map (·.expression)) =
      some [("SELECT SUM([/gdc/md/p1/obj/5]) WHERE [None] IN ([/gdc/md/p1/obj/2/elements?id=1])" :
        Text)] := by
    decide +kernel
  obtain ⟨c, hc, hexpressions⟩ := Option.map_eq_some_iff.mp hcompiled
  exact ⟨by decide, c, eq_ok_of_toOption hc, hexpressions⟩

end Compile

end ChartQuery
