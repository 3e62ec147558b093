/-
# Every column resolves

The columns of a query, the mappings of its metrics and the definitions are written down in
different places. Whatever rules made the metrics, the three fit together: a metric column names the
object of its measure or a definition, and every definition is a column.
-/

import ChartQuery.Proofs.Metric.Dependency
import ChartQuery.Proofs.Metric.Dispatch
import ChartQuery.Proofs.Query.Assembly
import ChartQuery.Proofs.Query.Failure

namespace ChartQuery.Compile

variable {book : RuleBook} {v : Visualization} {options : CompileOptions}
variable {metrics : List GeneratedMetric}

/-- The definitions of a query are those of its metrics. -/
theorem mem_definitions_iff {d : Definition} :
    d ∈ definitions metrics ↔ ∃ g ∈ metrics, g.definition = some d :=
  List.mem_filterMap

/-- A metric that has a definition is named by it, and that name is not empty. -/
theorem element_of_definition (h : book.metrics v.buckets = .ok metrics) {g : GeneratedMetric}
    (hg : g ∈ metrics) {d : Definition} (hd : g.definition = some d) :
    d.identifier = g.element ∧ g.element ≠ "" := by
  obtain ⟨position, m, -, hmade⟩ := RuleBook.exists_madeFrom_of_mem h hg
  have hidentifier := hmade.identifier_eq hd
  obtain ⟨token, hname⟩ := hmade.exists_name hd
  exact ⟨hidentifier, hidentifier ▸ MetricName.ofContent_ne_empty hname⟩

/-- A metric is the object of the measure at its position, or exactly one of the arranged
definitions has its name. -/
theorem resolves_metric (h : book.metrics v.buckets = .ok metrics) {g : GeneratedMetric}
    (hg : g ∈ metrics) :
    (g.isPrevious = false ∧ ∃ (position : Nat) (m : Measure),
        g.measureIndex = position ∧ v.buckets.measures[position]? = some m ∧
          g.element = m.objectUri) ∨
      ((Definition.arranged (definitions metrics)).map (·.identifier)).count g.element = 1 := by
  cases hd : g.definition with
  | none =>
    left
    obtain ⟨position, m, hm, hmade⟩ := RuleBook.exists_madeFrom_of_mem h hg
    have hindex : g.measureIndex = position := by
      rw [hmade.measureIndex_eq]
      exact Int.zero_add _
    have hreference := hmade.eq_reference hd
    exact ⟨by rw [hreference]; rfl, position, m, hindex, hm, by rw [hreference]; rfl⟩
  | some d =>
    right
    rw [← (element_of_definition h hg hd).1]
    exact Definition.count_arranged (mem_definitions_iff.mpr ⟨g, hg, hd⟩)

/-- A compiled query holds together, whatever rules made its metrics. Its columns are the named
display forms of the categories that take part, then the named elements of the mappings. Each
mapping is that of the object of its measure as it is, or its element is defined exactly once. Each
definition is a column of some mapping, and no identifier is defined twice. -/
theorem withRules_resolves {c : Configuration} (h : withRules book v options = .ok c) :
    c.columns =
        (((v.buckets.categories.filter fun category =>
          !(options.removeDateItems && category.isDate)).map (·.displayForm)).filter
            (· ≠ ("" : Text))) ++
        (c.mappings.map (·.element)).filter (· ≠ ("" : Text)) ∧
      (∀ m ∈ c.mappings,
        (m.isPrevious = none ∧ ∃ (position : Nat) (measure : Measure),
          m.measureIndex = position ∧ v.buckets.measures[position]? = some measure ∧
            m.element = measure.objectUri) ∨
        (c.definitions.map (·.identifier)).count m.element = 1) ∧
      (∀ d ∈ c.definitions,
        (∃ m ∈ c.mappings, m.element = d.identifier) ∧ d.identifier ∈ c.columns) ∧
      (c.definitions.map (·.identifier)).Nodup := by
  have hcolumns := columns_eq h
  obtain ⟨metrics, hmetrics, hassemble⟩ := withRules_eq_ok_iff.mp h
  obtain ⟨order, -, -, rfl⟩ := assemble_eq_ok_iff.mp hassemble
  refine ⟨hcolumns, ?_, ?_, Definition.nodup_arranged _⟩
  · intro m hm
    obtain ⟨g, hg, rfl⟩ := List.mem_map.mp hm
    rcases resolves_metric hmetrics hg with ⟨hplain, hobject⟩ | hdefined
    · exact Or.inl ⟨by simp [mapping, hplain], hobject⟩
    · exact Or.inr hdefined
  · intro d hd
    obtain ⟨g, hg, hgd⟩ := mem_definitions_iff.mp (Definition.mem_of_mem_arranged hd)
    obtain ⟨hname, hne⟩ := element_of_definition hmetrics hg hgd
    have hmapping : mapping g ∈ metrics.map mapping := List.mem_map_of_mem hg
    refine ⟨⟨mapping g, hmapping, hname.symm⟩, ?_⟩
    rw [hcolumns, hname]
    apply List.mem_append_right
    exact List.mem_filter.mpr ⟨List.mem_map_of_mem hmapping, by simpa using hne⟩

/-- A measure that is compared with its previous period, and the same measure once more on its own:
two columns of the query have the same name, and it is defined once. -/
theorem withRules_resolves_compared :
    let total : Measure :=
      ⟨"/gdc/md/p1/obj/5", "fact", some "sum", some "Total", some (.text "#,##0"), none, false,
        false, []⟩
    let v : Visualization :=
      ⟨none, some "table",
        ⟨[{ total with showsPrevious := true }, total],
          [⟨"/gdc/md/p1/obj/10", "date", some "/gdc/md/p1/obj/11", none⟩], []⟩⟩
    ∃ c, withRules .standard v ⟨true⟩ = .ok c ∧ (c.definitions.map (·.identifier)).Nodup ∧
      ∀ d ∈ c.definitions, d.identifier ∈ c.columns := by
  intro total v
  have hformats : v.HasTextFormats := by decide
  obtain ⟨c, hc⟩ : ∃ c, chart v ⟨true⟩ = .ok c := exists_chart hformats (by decide)
  obtain ⟨-, -, hdefinitions, hnodup⟩ := withRules_resolves hc
  exact ⟨c, hc, hnodup, fun d hd => (hdefinitions d hd).2⟩

end ChartQuery.Compile
