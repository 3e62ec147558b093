/-
# Which definitions are lost

A query defines every identifier once, and of several definitions with one identifier it keeps the
first. This loses nothing as long as definitions with the same identifier create the same metric.
The main statement says exactly when that is so, provided that no digests collide; the example after
it shows a chart whose second measure is given the title and the format of the first.
-/

import ChartQuery.Proofs.Metric.Content
import ChartQuery.Proofs.Query.Resolution
import Mathlib.Tactic.TFAE

namespace ChartQuery.Compile

variable {book : RuleBook} {v : Visualization} {options : CompileOptions}
variable {metrics : List GeneratedMetric} {c : Configuration}

/-- No two of the definitions have different contents with the same digest. -/
def CollisionFree (ds : List Definition) : Prop :=
  ∀ d₁ ∈ ds, ∀ d₂ ∈ ds, d₁.contentDigest = d₂.contentDigest → d₁.content = d₂.content

/-- A query keeps all definitions exactly when those with the same identifier create the same
metric. -/
theorem subset_arranged_iff_sameMetric (ds : List Definition) :
    ds ⊆ Definition.arranged ds ↔
      ∀ d₁ ∈ ds, ∀ d₂ ∈ ds, d₁.identifier = d₂.identifier → d₁.SameMetric d₂ := by
  rw [Definition.subset_arranged_iff]
  constructor
  · intro hequal d₁ h₁ d₂ h₂ hidentifier
    exact (Definition.eq_iff_sameMetric hidentifier).mp (hequal d₁ h₁ d₂ h₂ hidentifier)
  · intro hsame d₁ h₁ d₂ h₂ hidentifier
    exact (Definition.eq_iff_sameMetric hidentifier).mpr (hsame d₁ h₁ d₂ h₂ hidentifier)

/-- Under any rules, and provided that no digests collide, the following are the same for a chart
that compiles: metrics with the same identifier have the same expression, title and format; every
metric that has a definition finds that very definition in the query, under its own name; and
definitions with the same identifier hold the same digest and divide their contents in the same
way, with equally many number signs in the expressions and in the titles and a format in both or in
neither. -/
theorem withRules_keeps_definitions_tfae (hmetrics : book.metrics v.buckets = .ok metrics)
    (h : withRules book v options = .ok c) (hcollision : CollisionFree (definitions metrics)) :
    List.TFAE [
      ∀ g₁ ∈ metrics, ∀ g₂ ∈ metrics, g₁.element = g₂.element →
        ∀ d₁ ∈ g₁.definition, ∀ d₂ ∈ g₂.definition, d₁.expression = d₂.expression ∧
          d₁.title = d₂.title ∧ d₁.format = d₂.format,
      ∀ g ∈ metrics, ∀ d ∈ g.definition, d.identifier = g.element ∧ d ∈ c.definitions,
      ∀ d₁ ∈ definitions metrics, ∀ d₂ ∈ definitions metrics, d₁.identifier = d₂.identifier →
        d₁.DividedLike d₂] := by
  have harranged := definitions_eq hmetrics h
  have hname : ∀ g ∈ metrics, ∀ d ∈ g.definition, d.identifier = g.element :=
    fun g hg d hd => (element_of_definition hmetrics hg hd).1
  have hsubset := subset_arranged_iff_sameMetric (definitions metrics)
  tfae_have 1 → 2 := by
    intro hsame g hg d hd
    refine ⟨hname g hg d hd, ?_⟩
    rw [harranged]
    apply hsubset.mpr _ (mem_definitions_iff.mpr ⟨g, hg, hd⟩)
    intro d₁ h₁ d₂ h₂ hidentifier
    obtain ⟨g₁, hg₁, hd₁⟩ := mem_definitions_iff.mp h₁
    obtain ⟨g₂, hg₂, hd₂⟩ := mem_definitions_iff.mp h₂
    rw [hname g₁ hg₁ d₁ hd₁, hname g₂ hg₂ d₂ hd₂] at hidentifier
    exact hsame g₁ hg₁ g₂ hg₂ hidentifier d₁ hd₁ d₂ hd₂
  tfae_have 2 → 3 := by
    intro hkept d₁ h₁ d₂ h₂ hidentifier
    have hall : definitions metrics ⊆ Definition.arranged (definitions metrics) := by
      intro d hd
      obtain ⟨g, hg, hgd⟩ := mem_definitions_iff.mp hd
      rw [← harranged]
      exact (hkept g hg d hgd).2
    exact (hsubset.mp hall d₁ h₁ d₂ h₂ hidentifier).dividedLike
  tfae_have 3 → 1 := by
    intro hdivided g₁ hg₁ g₂ hg₂ helement d₁ hd₁ d₂ hd₂
    have h₁ : d₁ ∈ definitions metrics := mem_definitions_iff.mpr ⟨g₁, hg₁, hd₁⟩
    have h₂ : d₂ ∈ definitions metrics := mem_definitions_iff.mpr ⟨g₂, hg₂, hd₂⟩
    have hidentifier : d₁.identifier = d₂.identifier := by
      rw [hname g₁ hg₁ d₁ hd₁, hname g₂ hg₂ d₂ hd₂, helement]
    -- The only step in which it matters that digests do not collide.
    exact (Definition.sameMetric_iff_dividedLike (hcollision d₁ h₁ d₂ h₂)).mpr
      (hdivided d₁ h₁ d₂ h₂ hidentifier)
  tfae_finish

/-- The same sum twice: its definition is made for both columns, and both find it in the query. -/
theorem withRules_keeps_definitions_twice :
    let revenue : Measure :=
      ⟨"/gdc/md/p1/obj/5", "fact", some "sum", some "Revenue", some (.text "#,##0"), none, false,
        false, []⟩
    let v : Visualization := ⟨none, some "table", ⟨[revenue, revenue], [], []⟩⟩
    ∃ metrics c, RuleBook.standard.metrics v.buckets = .ok metrics ∧
      withRules .standard v .standard = .ok c ∧ CollisionFree (definitions metrics) ∧
      ∀ g ∈ metrics, ∀ d ∈ g.definition, d.identifier = g.element ∧ d ∈ c.definitions := by
  intro revenue v
  let d : Definition :=
    ⟨"fact_p1_5.generated.56a245e976efb3967ae45437c43360a8_sum",
      "SELECT SUM([/gdc/md/p1/obj/5])", "Revenue", some "#,##0"⟩
  have hmetrics : RuleBook.standard.metrics v.buckets =
      .ok [⟨d.identifier, 0, false, some d, none⟩, ⟨d.identifier, 1, false, some d, none⟩] := by
    apply eq_ok_of_toOption
    decide +kernel
  have hformats : v.HasTextFormats := by decide
  obtain ⟨c, hc⟩ : ∃ c, chart v .standard = .ok c := exists_chart hformats (by decide +kernel)
  have hcollision : CollisionFree [d, d] := by
    simp [CollisionFree]
  refine ⟨_, c, hmetrics, hc, hcollision, ?_⟩
  have hself : d.DividedLike d := ⟨rfl, rfl, rfl, rfl⟩
  have hdivided : ∀ d₁ ∈ [d, d], ∀ d₂ ∈ [d, d], d₁.identifier = d₂.identifier →
      d₁.DividedLike d₂ := by
    simp [hself]
  exact ((withRules_keeps_definitions_tfae hmetrics hc hcollision).out 2 1).mp hdivided

/-- The sum of a fact with the title "Revenue" and the format "#,##0", and the same sum with the
title "Revenue#" and the format ",##0". Both contents run into the same text, so no digests
collide, but the query defines the first metric only, so the second column gets the title and the
format of the first. -/
theorem chart_loses_definition :
    let revenue : Measure :=
      ⟨"/gdc/md/p1/obj/5", "fact", some "sum", some "Revenue", some (.text "#,##0"), none, false,
        false, []⟩
    let v : Visualization :=
      ⟨none, some "table",
        ⟨[revenue, { revenue with title := some "Revenue#", format := some (.text ",##0") }], [],
          []⟩⟩
    let d₁ : Definition :=
      ⟨"fact_p1_5.generated.56a245e976efb3967ae45437c43360a8_sum",
        "SELECT SUM([/gdc/md/p1/obj/5])", "Revenue", some "#,##0"⟩
    let d₂ : Definition := { d₁ with title := "Revenue#", format := some ",##0" }
    RuleBook.standard.metrics v.buckets =
        .ok [⟨d₁.identifier, 0, false, some d₁, none⟩, ⟨d₂.identifier, 1, false, some d₂, none⟩] ∧
      CollisionFree [d₁, d₂] ∧ ∃ c, chart v .standard = .ok c ∧ c.definitions = [d₁] := by
  intro revenue v d₁ d₂
  have hmetrics : RuleBook.standard.metrics v.buckets =
      .ok [⟨d₁.identifier, 0, false, some d₁, none⟩, ⟨d₂.identifier, 1, false, some d₂, none⟩] := by
    apply eq_ok_of_toOption
    decide +kernel
  have hcontent : d₁.content = d₂.content := by decide +kernel
  have hcollision : CollisionFree [d₁, d₂] := by
    simp [CollisionFree, hcontent]
  have hformats : v.HasTextFormats := by decide
  obtain ⟨c, hc⟩ : ∃ c, chart v .standard = .ok c := exists_chart hformats (by decide +kernel)
  have hfirst : Definition.arranged [d₁, d₂] = [d₁] := by decide +kernel
  exact ⟨hmetrics, hcollision, c, hc, (definitions_eq hmetrics hc).trans hfirst⟩

end ChartQuery.Compile
