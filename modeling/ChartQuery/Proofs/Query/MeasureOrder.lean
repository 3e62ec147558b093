/-
# Definitions in the order of the measures

Everything that an expression holds comes from the words of the language, in which there are no
braces, or from the chart: objects, aggregations, and the attributes and elements of filters,
categories and dates. In a chart without braces no expression holds one, so no definition refers to
another, and the query defines the metrics in the order of the measures, each identifier once
(`chart_keeps_measure_order`). Titles and formats are free to hold braces, because references are
looked for in expressions alone.
-/

import ChartQuery.Proofs.Metric.Independence
import ChartQuery.Proofs.Query.Attribution
import ChartQuery.Proofs.Text.Case

namespace ChartQuery

/-! ## Texts without braces -/

namespace Text

/-- The text holds no opening brace. -/
def IsBraceFree (text : Text) : Prop :=
  Point.char '{' ∉ text.toList

instance (text : Text) : Decidable (IsBraceFree text) :=
  inferInstanceAs (Decidable (Point.char '{' ∉ text.toList))

variable {text a b : Text}

@[simp]
theorem isBraceFree_append : IsBraceFree (a ++ b) ↔ IsBraceFree a ∧ IsBraceFree b := by
  simp [IsBraceFree, not_or]

theorem isBraceFree_joined {sep : Text} {texts : List Text} (hsep : IsBraceFree sep)
    (h : ∀ text ∈ texts, IsBraceFree text) : IsBraceFree (joined sep texts) := by
  induction texts with
  | nil =>
    have hempty : IsBraceFree "" := by decide
    exact hempty
  | cons first rest ih =>
    cases rest with
    | nil => exact h first List.mem_cons_self
    | cons second others =>
      rw [joined, isBraceFree_append, isBraceFree_append]
      · exact ⟨⟨h first List.mem_cons_self, hsep⟩,
          ih fun text ht => h text (List.mem_cons_of_mem _ ht)⟩
      · simp

/-- No capital is a brace. -/
theorem isBraceFree_upper (h : IsBraceFree text) : IsBraceFree (upper text) := fun hbrace =>
  h (mem_of_mem_upper hbrace (by decide) (by decide) (by decide))

end Text

open Text (IsBraceFree)

/-- Nothing that expressions of the measure hold has a brace: its object, its aggregation, and what
its filters restrict. -/
structure Measure.IsBraceFree (m : Measure) : Prop where
  objectUri : Text.IsBraceFree m.objectUri
  aggregation : ∀ name ∈ m.aggregation, Text.IsBraceFree name
  attributes : ∀ f ∈ m.selections, ∀ uri ∈ f.attributeUri, Text.IsBraceFree uri
  elements : ∀ f ∈ m.selections, ∀ element ∈ f.selection.elements, Text.IsBraceFree element

/-- Nothing that expressions hold has a brace, in the measures and in the attributes of categories
and dates. -/
structure Buckets.IsBraceFree (b : Buckets) : Prop where
  measures : ∀ m ∈ b.measures, m.IsBraceFree
  categories : ∀ c ∈ b.categories, ∀ uri ∈ c.attributeUri, Text.IsBraceFree uri
  dates : ∀ f ∈ b.filters, ∀ d ∈ f.dateFilter, ∀ uri ∈ d.attributeUri, Text.IsBraceFree uri

theorem Buckets.IsBraceFree.of_gives {b : Buckets} {uri : Text} (h : b.IsBraceFree)
    (hgiven : b.Gives uri) : Text.IsBraceFree uri := by
  rcases hgiven.2 with ⟨c, hc, huri⟩ | ⟨f, hf, d, hd, huri⟩
  · exact h.categories c hc uri huri
  · exact h.dates f hf d hd uri huri

/-! ## Expressions without braces -/

namespace Expression

variable {m : Measure} {f : AttributeFilter} {uri inner : Text}

theorem isBraceFree_bracketed (h : IsBraceFree uri) : IsBraceFree (bracketed uri) := by
  simp only [bracketed, Text.isBraceFree_append]
  exact ⟨⟨by decide, h⟩, by decide⟩

theorem isBraceFree_clause (hattribute : ∀ uri ∈ f.attributeUri, IsBraceFree uri)
    (helements : ∀ element ∈ f.selection.elements, IsBraceFree element) :
    IsBraceFree (clause f) := by
  have hshown : IsBraceFree (shown f.attributeUri) := by
    cases huri : f.attributeUri with
    | none => decide
    | some uri => exact hattribute uri huri
  have hnegation : IsBraceFree (Text.ofString (if f.selection.negative then "NOT " else "")) := by
    split <;> decide
  have hlist : IsBraceFree (Text.joined "," (f.selection.elements.map bracketed)) :=
    Text.isBraceFree_joined (by decide) (List.forall_mem_map.mpr fun element helement =>
      isBraceFree_bracketed (helements element helement))
  simp only [clause, Text.isBraceFree_append]
  exact ⟨⟨⟨⟨⟨isBraceFree_bracketed hshown, by decide⟩, hnegation⟩, by decide⟩, hlist⟩, by decide⟩

theorem isBraceFree_restriction (h : m.IsBraceFree) : IsBraceFree (restriction m) := by
  unfold restriction
  split
  · decide
  · rw [Text.isBraceFree_append]
    refine ⟨by decide, Text.isBraceFree_joined (by decide) (List.forall_mem_map.mpr fun f hf => ?_)⟩
    exact isBraceFree_clause (h.attributes f hf) (h.elements f hf)

theorem isBraceFree_unrestricted (h : m.IsBraceFree) : IsBraceFree (unrestricted m) := by
  have hobject := isBraceFree_bracketed h.objectUri
  rw [unrestricted, Text.isBraceFree_append]
  refine ⟨by decide, ?_⟩
  unfold aggregated
  split
  · next name hstated =>
    have hname := h.aggregation name (nonEmpty?_eq_some hstated).1
    simp only [Text.isBraceFree_append]
    exact ⟨⟨⟨Text.isBraceFree_upper hname, by decide⟩, hobject⟩, by decide⟩
  · exact hobject

theorem isBraceFree_aggregate (h : m.IsBraceFree) : IsBraceFree (aggregate m) :=
  Text.isBraceFree_append.mpr ⟨isBraceFree_unrestricted h, isBraceFree_restriction h⟩

theorem isBraceFree_share (h : m.IsBraceFree) (huri : IsBraceFree uri) :
    IsBraceFree (share m (some uri)) := by
  have hrestriction := isBraceFree_restriction h
  have htotal : IsBraceFree (bracketed (shown (some uri))) := isBraceFree_bracketed huri
  have hbase : IsBraceFree (shareBase m) := by
    unfold shareBase
    split
    · exact isBraceFree_unrestricted h
    · exact Text.isBraceFree_append.mpr ⟨by decide, isBraceFree_bracketed h.objectUri⟩
  have hparts : share m (some uri) = "SELECT (" ++ shareBase m ++ restriction m ++ ") / (" ++
      shareBase m ++ " BY ALL " ++ bracketed (shown (some uri)) ++ restriction m ++ ")" := rfl
  simp only [hparts, Text.isBraceFree_append]
  exact ⟨⟨⟨⟨⟨⟨⟨⟨by decide, hbase⟩, hrestriction⟩, by decide⟩, hbase⟩, by decide⟩, htotal⟩,
    hrestriction⟩, by decide⟩

theorem isBraceFree_previous (huri : IsBraceFree uri) (hinner : IsBraceFree inner) :
    IsBraceFree (previous uri inner) := by
  simp only [previous, Text.isBraceFree_append]
  exact ⟨⟨⟨⟨by decide, hinner⟩, by decide⟩, isBraceFree_bracketed huri⟩, by decide⟩

/-- However an expression is written, it holds a brace only if the measure or one of its targets
does. -/
theorem Written.isBraceFree {expression : Text} {targets : List Text}
    (h : Written m expression targets) (hm : m.IsBraceFree)
    (htargets : ∀ target ∈ targets, IsBraceFree target) : IsBraceFree expression := by
  induction h with
  | whole => exact isBraceFree_aggregate hm
  | part total => exact isBraceFree_share hm (htargets total List.mem_cons_self)
  | earlierObject date hplain =>
    exact isBraceFree_previous (htargets date List.mem_cons_self)
      (isBraceFree_bracketed hm.objectUri)
  | earlier date inner targets hinner ih =>
    have hown := ih fun target htarget => htargets target (List.mem_cons_of_mem date htarget)
    refine isBraceFree_previous (htargets date List.mem_cons_self) ?_
    simp only [Text.isBraceFree_append]
    exact ⟨⟨by decide, hown⟩, by decide⟩

end Expression

/-! ## The order of a query -/

namespace Compile

variable {book : RuleBook} {v : Visualization} {options : CompileOptions} {c : Configuration}
variable {metrics : List GeneratedMetric}

theorem isBraceFree_of_mem_definitions (hbraces : v.buckets.IsBraceFree)
    (hmetrics : book.metrics v.buckets = .ok metrics) {d : Definition}
    (hd : d ∈ definitions metrics) : IsBraceFree d.expression := by
  obtain ⟨g, hg, hdefinition⟩ := List.mem_filterMap.mp hd
  obtain ⟨m, ⟨position, -, hm⟩, hwritten⟩ := written_of_mem hmetrics hg
  have hexpression : d.expression ∈ g.expression := by
    rw [GeneratedMetric.expression, hdefinition]
    rfl
  obtain ⟨targets, hshape, hgiven⟩ := hwritten d.expression hexpression
  exact hshape.isBraceFree (hbraces.measures m (List.mem_of_getElem? hm)) fun target htarget =>
    hbraces.of_gives (hgiven target htarget)

/-- Under any rules a chart without braces defines what its metrics define, in their order, and
leaves out the later definitions of an identifier. -/
theorem definitions_eq_eraseDupsBy (hbraces : v.buckets.IsBraceFree)
    (hmetrics : book.metrics v.buckets = .ok metrics) (h : withRules book v options = .ok c) :
    c.definitions =
      (definitions metrics).eraseDupsBy fun d e => d.identifier == e.identifier := by
  rw [definitions_eq hmetrics h]
  exact Definition.arranged_eq_eraseDupsBy fun d hd =>
    isBraceFree_of_mem_definitions hbraces hmetrics hd

/-- Two metrics side by side whose definitions are both new have them side by side in the query. -/
theorem pair_infix_definitions (hbraces : v.buckets.IsBraceFree)
    (hmetrics : book.metrics v.buckets = .ok metrics) (h : withRules book v options = .ok c)
    {place : Nat} {g₁ g₂ : GeneratedMetric} (hg₁ : metrics[place]? = some g₁)
    (hg₂ : metrics[place + 1]? = some g₂) {d₁ d₂ : Definition} (hd₁ : g₁.definition = some d₁)
    (hd₂ : g₂.definition = some d₂)
    (hfresh : ∀ d ∈ definitions (metrics.take place),
      d.identifier ≠ d₁.identifier ∧ d.identifier ≠ d₂.identifier)
    (hdistinct : d₁.identifier ≠ d₂.identifier) : [d₁, d₂] <:+: c.definitions := by
  have hsplit : metrics = metrics.take place ++ g₁ :: g₂ :: metrics.drop (place + 2) := by
    obtain ⟨hlt₁, rfl⟩ := List.getElem?_eq_some_iff.mp hg₁
    obtain ⟨hlt₂, rfl⟩ := List.getElem?_eq_some_iff.mp hg₂
    rw [List.getElem_cons_drop, List.getElem_cons_drop, List.take_append_drop]
  have hdefinitions : definitions metrics = definitions (metrics.take place) ++
      d₁ :: d₂ :: definitions (metrics.drop (place + 2)) := by
    conv_lhs => rw [hsplit]
    simp [definitions, hd₁, hd₂]
  rw [definitions_eq_eraseDupsBy hbraces hmetrics h, ← Definition.firsts_eq_eraseDupsBy,
    hdefinitions]
  exact Definition.pair_infix_firsts hfresh hdistinct _

/-- A chart that compiles and holds no brace in anything that expressions are made of defines its
metrics in the order of its measures: the definitions of the query are those of the generated
metrics, which follow the measures, without the later ones of an identifier. A previous period
stands directly in front of the metric that it is compared with, and so do their definitions when
both are new. -/
theorem chart_keeps_measure_order (hbraces : v.buckets.IsBraceFree)
    (h : chart v options = .ok c) :
    ∃ metrics, RuleBook.standard.metrics v.buckets = .ok metrics ∧
      (metrics.map (·.measureIndex)).Pairwise (· ≤ ·) ∧
      c.definitions =
        (definitions metrics).eraseDupsBy (fun d e => d.identifier == e.identifier) ∧
      ∀ (place : Nat) (earlier : GeneratedMetric), metrics[place]? = some earlier →
        earlier.isPrevious = true →
        ∃ compared m, metrics[place + 1]? = some compared ∧ v.Owns m earlier ∧
          earlier.IsPreviousOf v.buckets m compared ∧
          ∀ d₁ ∈ earlier.definition, ∀ d₂ ∈ compared.definition,
            (∀ d ∈ definitions (metrics.take place),
              d.identifier ≠ d₁.identifier ∧ d.identifier ≠ d₂.identifier) →
            d₁.identifier ≠ d₂.identifier → [d₁, d₂] <:+: c.definitions := by
  obtain ⟨metrics, hmetrics, -⟩ := withRules_eq_ok_iff.mp h
  have hpositions : metrics.map (·.measureIndex) =
      (attributions v.buckets.measures 0).map (·.1) := by
    have hattributions : (metrics.map mapping).map attribution =
        attributions v.buckets.measures 0 :=
      map_attribution_of_metricsFrom hmetrics
    rw [← hattributions, List.map_map, List.map_map]
    rfl
  refine ⟨metrics, hmetrics, ?_, definitions_eq_eraseDupsBy hbraces hmetrics h, ?_⟩
  · rw [hpositions]
    exact pairwise_attributions v.buckets.measures 0
  · intro place earlier hplace hprevious
    obtain ⟨compared, hnext, position, m, hm, hindex, hcompared⟩ :=
      exists_compared_of_metricsFrom hmetrics hplace hprevious
    rw [Int.zero_add] at hindex
    refine ⟨compared, m, hnext, ⟨position, hindex, hm⟩, hcompared, ?_⟩
    intro d₁ hd₁ d₂ hd₂ hfresh hdistinct
    exact pair_infix_definitions hbraces hmetrics h hplace hnext hd₁ hd₂ hfresh hdistinct

/-- A fact that shows its previous period, and the fact once more on its own: of three definitions
the first two are left, in the order of the measures. The brace in a title moves nothing. -/
theorem chart_keeps_measure_order_compared :
    let total : Measure :=
      ⟨"/gdc/md/p1/obj/5", "fact", some "sum", some "Total \x7bnet\x7d", none, none, false, false,
        []⟩
    let v : Visualization :=
      ⟨none, some "table",
        ⟨[{ total with showsPrevious := true }, total],
          [⟨"/obj/10", "date", some "/obj/11", none⟩], []⟩⟩
    v.buckets.IsBraceFree ∧ ∃ c, chart v .standard = .ok c ∧ c.definitions =
      [⟨"fact_p1_5.generated.7b13119bc3d90d086f3ca035960f0e10_pop",
          "SELECT (SELECT SUM([/gdc/md/p1/obj/5])) FOR PREVIOUS ([/obj/11])",
          "Total \x7bnet\x7d - previous year", none⟩,
        ⟨"fact_p1_5.generated.f25c7c2969bb1c64c1b164bc08c34812_sum",
          "SELECT SUM([/gdc/md/p1/obj/5])", "Total \x7bnet\x7d", none⟩] := by
  intro total v
  have hbraces : v.buckets.IsBraceFree := by
    have htotal : total.IsBraceFree := ⟨by decide, by decide, by decide, by decide⟩
    refine ⟨?_, by decide, by decide⟩
    exact List.forall_mem_cons.mpr
      ⟨⟨htotal.1, htotal.2, htotal.3, htotal.4⟩, List.forall_mem_singleton.mpr htotal⟩
  have hformats : v.HasTextFormats := by decide
  obtain ⟨c, hc⟩ : ∃ c, chart v .standard = .ok c := exists_chart hformats (by decide +kernel)
  refine ⟨hbraces, c, hc, ?_⟩
  obtain ⟨metrics, hmetrics, -, hdefinitions, -⟩ := chart_keeps_measure_order hbraces hc
  -- What the metrics define is evaluated first, and then the third definition is left out.
  generalize hkept : [_, _] = kept
  have hmade : (RuleBook.standard.metrics v.buckets).toOption.map definitions =
      some (kept ++ kept.drop 1) := by
    rw [← hkept]
    decide +kernel
  rw [hmetrics] at hmade
  rw [hdefinitions, Option.some.inj hmade, ← hkept]
  decide +kernel

end Compile

end ChartQuery
