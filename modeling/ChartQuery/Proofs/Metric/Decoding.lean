/-
# Generated expressions can be read back

Every construction writes down a phrase that is known from the measure, from the buckets and from
whether the metric is that of the previous period (`expression_eq_text`). So two generated metrics
with one expression say the same: they have the same shape, object, aggregation and conditions, and
they are compared over and take a total over the same attributes. Nothing is said about what is not
written, as the aggregation of a measure whose object is taken as it is.
-/

import ChartQuery.Proofs.Metric.Failure
import ChartQuery.Proofs.Metric.Phrase

namespace ChartQuery

namespace Measure

/-- The aggregation as it is written, if there is one. -/
def printedAggregation (m : Measure) : Option Text :=
  (nonEmpty? m.aggregation).map Text.upper

/-- What the filters of the measure restrict, in order. -/
def conditions (m : Measure) : List Condition :=
  m.selections.map (·.restricted)

/-- Everything that expressions of the measure hold in brackets can stand there, and its aggregation
is a word of ASCII letters. A filter that restricts something has an attribute. -/
structure IsPlain (m : Measure) : Prop where
  objectUri : Phrase.IsPlainUri m.objectUri
  aggregation : ∀ name ∈ m.aggregation, Text.IsWord name
  conditions : ∀ f ∈ m.selections, (∃ uri, f.attributeUri = some uri ∧ Phrase.IsPlainUri uri) ∧
    ∀ element ∈ f.selection.elements, Phrase.IsPlainUri element

end Measure

/-- The attributes of categories and of date filters can stand in brackets. -/
structure Buckets.IsPlain (b : Buckets) : Prop where
  categories : ∀ c ∈ b.categories, ∀ uri ∈ c.attributeUri, Phrase.IsPlainUri uri
  dates : ∀ f ∈ b.filters, ∀ d ∈ f.dateFilter, ∀ uri ∈ d.attributeUri, Phrase.IsPlainUri uri

namespace Buckets

variable {b : Buckets} {uri : Text}

theorem IsPlain.of_gives (h : b.IsPlain) (hgiven : b.Gives uri) : Phrase.IsPlainUri uri := by
  rcases hgiven.2 with ⟨c, hc, huri⟩ | ⟨f, hf, d, hd, huri⟩
  · exact h.categories c hc uri huri
  · exact h.dates f hf d hd uri huri

end Buckets

namespace Construction

variable {m : Measure} {b : Buckets} {index : Int} {g : GeneratedMetric} {gs : List GeneratedMetric}

/-- What the aggregate of a measure says. -/
def aggregatePhrase (m : Measure) : Phrase :=
  .aggregate m.printedAggregation m.objectUri m.conditions

/-- What the share of a measure says. A measure that is not derived is shared as it is. -/
def sharePhrase (m : Measure) (total : Text) : Phrase :=
  .share (if m.isDerived then m.printedAggregation else none) m.objectUri m.conditions total

/-- What the previous period of a measure says. -/
def previousPhrase (m : Measure) (date : Text) : Phrase :=
  if m.isDerived then .earlier (aggregatePhrase m) date else .earlierObject m.objectUri date

/-- What the expression of a metric says that a construction makes, for the metric of the previous
period and for the other one. The object of a measure as it is has no expression. -/
def phrase? (c : Construction) (m : Measure) (b : Buckets) (isPrevious : Bool) : Option Phrase :=
  match c, isPrevious with
  | .aggregate, false => some (aggregatePhrase m)
  | .share, false => b.shareAttribute.map (sharePhrase m)
  | .previous, false => if m.isDerived then some (aggregatePhrase m) else none
  | .previous, true => b.dateAttribute.map (previousPhrase m)
  | .previousShare, false => b.shareAttribute.map (sharePhrase m)
  | .previousShare, true =>
    b.dateAttribute.bind fun date =>
      b.shareAttribute.map fun total => .earlier (sharePhrase m total) date
  | _, _ => none

/-! ## Expressions are texts of phrases -/

theorem aggregated_eq_objectText (m : Measure) :
    Expression.aggregated m = Phrase.objectText m.printedAggregation m.objectUri := by
  unfold Expression.aggregated Measure.printedAggregation
  cases nonEmpty? m.aggregation <;> rfl

theorem restriction_eq_conditionsText (m : Measure) :
    Expression.restriction m = Phrase.conditionsText m.conditions := by
  unfold Expression.restriction Measure.conditions
  cases m.selections with
  | nil => rfl
  | cons f fs =>
    rw [Phrase.conditionsText, if_neg (by simp), List.map_map]
    rfl

theorem aggregate_eq_text (m : Measure) : Expression.aggregate m = (aggregatePhrase m).text := by
  show Expression.unrestricted m ++ Expression.restriction m =
    "SELECT " ++ Phrase.objectText m.printedAggregation m.objectUri ++
      Phrase.conditionsText m.conditions
  rw [Expression.unrestricted, aggregated_eq_objectText, restriction_eq_conditionsText]

theorem share_eq_text (m : Measure) (total : Text) :
    Expression.share m (some total) = (sharePhrase m total).text := by
  have hbase : Expression.shareBase m = "SELECT " ++
      Phrase.objectText (if m.isDerived then m.printedAggregation else none) m.objectUri := by
    unfold Expression.shareBase
    split
    · rw [Expression.unrestricted, aggregated_eq_objectText]
    · rfl
  delta Expression.share
  rw [hbase, restriction_eq_conditionsText]
  rfl

/-- What is compared with its previous period has the expression of a phrase or none, and the
expression of the previous period refers to it as the phrase does. -/
theorem previous_eq_text (date : Text) {inner : Text}
    (h : comparedMetric m index = .ok (g, inner)) :
    Expression.previous date inner = (previousPhrase m date).text ∧
      g.expression = (if m.isDerived then some (aggregatePhrase m) else none).map Phrase.text ∧
      g.isPrevious = false := by
  rcases comparedMetric_eq_ok h with ⟨hderived, haggregate, rfl⟩ | ⟨hplain, rfl, rfl⟩
  · obtain ⟨identifier, format, -, -, rfl⟩ := generate_eq_ok haggregate
    rw [previousPhrase, if_pos hderived, if_pos hderived, aggregate_eq_text]
    exact ⟨rfl, rfl, rfl⟩
  · rw [previousPhrase, if_neg (by simp [hplain]), if_neg (by simp [hplain])]
    exact ⟨rfl, rfl, rfl⟩

/-- Whatever a construction makes, its expression is the text of what it says. -/
theorem expression_eq_text {c : Construction} (h : c.build m b index = .ok gs) (hg : g ∈ gs) :
    g.expression = (c.phrase? m b g.isPrevious).map Phrase.text := by
  cases c with
  | reference =>
    cases h
    rw [List.mem_singleton.mp hg]
    rfl
  | aggregate =>
    obtain ⟨own, haggregate, rfl⟩ := singleton_eq_ok h
    obtain ⟨identifier, format, -, -, rfl⟩ := generate_eq_ok haggregate
    rw [List.mem_singleton.mp hg, aggregate_eq_text]
    rfl
  | share =>
    obtain ⟨own, hshare, rfl⟩ := singleton_eq_ok h
    obtain ⟨total, htotal, hgenerate⟩ := shareMetric_eq_ok hshare
    obtain ⟨identifier, format, -, -, rfl⟩ := generate_eq_ok hgenerate
    rw [List.mem_singleton.mp hg, share_eq_text]
    show _ = (b.shareAttribute.map (sharePhrase m)).map Phrase.text
    rw [htotal]
    rfl
  | previous =>
    obtain ⟨date, inner, earlier, compared, hdate, hcompared, hearlier, rfl⟩ :=
      previousPair_eq_ok h
    obtain ⟨hprevious, hexpression, hown⟩ := previous_eq_text date hcompared
    obtain ⟨identifier, format, -, -, rfl⟩ := generate_eq_ok hearlier
    rcases List.mem_cons.mp hg with rfl | hg
    · show some (Expression.previous date inner) =
        (b.dateAttribute.map (previousPhrase m)).map Phrase.text
      rw [hprevious, hdate]
      rfl
    · rw [List.mem_singleton.mp hg, hown]
      exact hexpression
  | previousShare =>
    obtain ⟨date, earlier, compared, hdate, hshare, hearlier, rfl⟩ := previousSharePair_eq_ok h
    obtain ⟨total, htotal, hgenerate⟩ := shareMetric_eq_ok hshare
    obtain ⟨identifier, format, -, -, rfl⟩ := generate_eq_ok hearlier
    obtain ⟨identifier', format', -, -, rfl⟩ := generate_eq_ok hgenerate
    rcases List.mem_cons.mp hg with rfl | hg
    · show some (Expression.previous date ("(" ++ Expression.share m b.shareAttribute ++ ")")) =
        (b.dateAttribute.bind fun date => b.shareAttribute.map fun total =>
          Phrase.earlier (sharePhrase m total) date).map Phrase.text
      rw [hdate, htotal, share_eq_text]
      rfl
    · rw [List.mem_singleton.mp hg, share_eq_text]
      show _ = (b.shareAttribute.map (sharePhrase m)).map Phrase.text
      rw [htotal]
      rfl

/-! ## What is written can be read back -/

theorem isPlainCondition_of_mem (hm : m.IsPlain) {condition : Condition}
    (h : condition ∈ m.conditions) : Phrase.IsPlainCondition condition := by
  obtain ⟨f, hf, rfl⟩ := List.mem_map.mp h
  obtain ⟨hattribute, helements⟩ := hm.conditions f hf
  obtain ⟨entry, -, hselecting⟩ := List.mem_filterMap.mp hf
  have hexecutable : f.isExecutable = true := (Option.filter_eq_some_iff.mp hselecting).2
  have hsome : f.selection.elements ≠ [] := by
    simpa [AttributeFilter.isExecutable] using hexecutable
  exact ⟨hattribute, hsome, helements⟩

theorem isPlainAggregation_printed (hm : m.IsPlain) :
    Phrase.IsPlainAggregation m.printedAggregation := by
  intro capitals hcapitals
  obtain ⟨name, hstated, rfl⟩ := Option.map_eq_some_iff.mp hcapitals
  obtain ⟨hname, hne⟩ := nonEmpty?_eq_some hstated
  have hword := hm.aggregation name hname
  exact ⟨hword.upper_ne_empty hne, hword.upper⟩

theorem isPlain_aggregatePhrase (hm : m.IsPlain) : (aggregatePhrase m).IsPlain :=
  ⟨isPlainAggregation_printed hm, hm.objectUri, fun _ => isPlainCondition_of_mem hm⟩

theorem isPlain_sharePhrase (hm : m.IsPlain) {total : Text} (htotal : Phrase.IsPlainUri total) :
    (sharePhrase m total).IsPlain := by
  refine ⟨⟨?_, hm.objectUri, fun _ => isPlainCondition_of_mem hm⟩, htotal⟩
  split
  · exact isPlainAggregation_printed hm
  · exact Phrase.isPlainAggregation_none

theorem isPlain_previousPhrase (hm : m.IsPlain) {date : Text} (hdate : Phrase.IsPlainUri date) :
    (previousPhrase m date).IsPlain := by
  unfold previousPhrase
  split
  · exact ⟨isPlain_aggregatePhrase hm, hdate⟩
  · exact ⟨hm.objectUri, hdate⟩

/-- A plain measure says plain phrases over plain buckets. -/
theorem isPlain_of_phrase? {c : Construction} {isPrevious : Bool} {p : Phrase} (hm : m.IsPlain)
    (hb : b.IsPlain) (hp : c.phrase? m b isPrevious = some p) : p.IsPlain := by
  have hshare : ∀ {total}, b.shareAttribute = some total → Phrase.IsPlainUri total := fun h =>
    hb.of_gives (Buckets.gives_shareAttribute h)
  have hdate : ∀ {date}, b.dateAttribute = some date → Phrase.IsPlainUri date := fun h =>
    hb.of_gives (Buckets.gives_dateAttribute h)
  unfold phrase? at hp
  split at hp
  · cases hp
    exact isPlain_aggregatePhrase hm
  · obtain ⟨total, htotal, rfl⟩ := Option.map_eq_some_iff.mp hp
    exact isPlain_sharePhrase hm (hshare htotal)
  · split at hp
    · cases hp
      exact isPlain_aggregatePhrase hm
    · cases hp
  · obtain ⟨date, hstated, rfl⟩ := Option.map_eq_some_iff.mp hp
    exact isPlain_previousPhrase hm (hdate hstated)
  · obtain ⟨total, htotal, rfl⟩ := Option.map_eq_some_iff.mp hp
    exact isPlain_sharePhrase hm (hshare htotal)
  · obtain ⟨date, hstated, hinner⟩ := Option.bind_eq_some_iff.mp hp
    obtain ⟨total, htotal, rfl⟩ := Option.map_eq_some_iff.mp hinner
    exact ⟨isPlain_sharePhrase hm (hshare htotal), hdate hstated⟩
  · cases hp

/-- What a measure says is about its object and under its conditions. An object that is compared as
it is has no conditions. -/
theorem objectUri_of_phrase? {c : Construction} {isPrevious : Bool} {p : Phrase}
    (hp : c.phrase? m b isPrevious = some p) :
    p.objectUri = m.objectUri ∧ p.conditions = m.conditions := by
  have hprevious : ∀ date, (previousPhrase m date).objectUri = m.objectUri ∧
      (previousPhrase m date).conditions = m.conditions := by
    intro date
    unfold previousPhrase
    split
    · exact ⟨rfl, rfl⟩
    · next hplain =>
      have hselections : m.selections = [] := by
        simp only [Measure.isDerived, Bool.or_eq_true, not_or, Measure.hasSelection] at hplain
        simpa using hplain.2
      rw [Measure.conditions, hselections]
      exact ⟨rfl, rfl⟩
  unfold phrase? at hp
  split at hp
  · cases hp
    exact ⟨rfl, rfl⟩
  · obtain ⟨total, -, rfl⟩ := Option.map_eq_some_iff.mp hp
    exact ⟨rfl, rfl⟩
  · split at hp
    · cases hp
      exact ⟨rfl, rfl⟩
    · cases hp
  · obtain ⟨date, -, rfl⟩ := Option.map_eq_some_iff.mp hp
    exact hprevious date
  · obtain ⟨total, -, rfl⟩ := Option.map_eq_some_iff.mp hp
    exact ⟨rfl, rfl⟩
  · obtain ⟨date, -, hinner⟩ := Option.bind_eq_some_iff.mp hp
    obtain ⟨total, -, rfl⟩ := Option.map_eq_some_iff.mp hinner
    exact ⟨rfl, rfl⟩
  · cases hp

variable {m₁ m₂ : Measure} {b₁ b₂ : Buckets} {i j : Int} {gs₁ gs₂ : List GeneratedMetric}
variable {g₁ g₂ : GeneratedMetric} {c₁ c₂ : Construction}

/-- Two generated metrics with one expression say one phrase, however and wherever they were made:
they have the same shape, the same aggregation as it is written, the same attribute in which a total
is taken and the same date over which they are compared. Their measures have the same object and
restrict the same elements of the same attributes in the same order. Only brackets that close in the
wrong place, aggregations that are no words and missing attributes could blur this. -/
theorem phrase_eq_of_expression_eq (hm₁ : m₁.IsPlain) (hm₂ : m₂.IsPlain) (hb₁ : b₁.IsPlain)
    (hb₂ : b₂.IsPlain) (h₁ : c₁.build m₁ b₁ i = .ok gs₁) (h₂ : c₂.build m₂ b₂ j = .ok gs₂)
    (hg₁ : g₁ ∈ gs₁) (hg₂ : g₂ ∈ gs₂) {expression : Text}
    (hexpression₁ : g₁.expression = some expression)
    (hexpression₂ : g₂.expression = some expression) :
    ∃ p : Phrase, p.text = expression ∧
      c₁.phrase? m₁ b₁ g₁.isPrevious = some p ∧ c₂.phrase? m₂ b₂ g₂.isPrevious = some p ∧
      m₁.objectUri = m₂.objectUri ∧
      m₁.selections.map (·.restricted) = m₂.selections.map (·.restricted) := by
  rw [expression_eq_text h₁ hg₁] at hexpression₁
  rw [expression_eq_text h₂ hg₂] at hexpression₂
  obtain ⟨p, hp, htext⟩ := Option.map_eq_some_iff.mp hexpression₁
  obtain ⟨q, hq, htext'⟩ := Option.map_eq_some_iff.mp hexpression₂
  obtain rfl : p = q := Phrase.text_inj (isPlain_of_phrase? hm₁ hb₁ hp)
    (isPlain_of_phrase? hm₂ hb₂ hq) (htext.trans htext'.symm)
  obtain ⟨huri₁, hconditions₁⟩ := objectUri_of_phrase? hp
  obtain ⟨huri₂, hconditions₂⟩ := objectUri_of_phrase? hq
  exact ⟨p, htext, hp, hq, huri₁.symm.trans huri₂, hconditions₁.symm.trans hconditions₂⟩

/-- The previous periods of two shares, of a fact and of an attribute with other titles and formats,
whose aggregations are written alike. -/
theorem phrase_eq_of_expression_eq_share :
    let f : AttributeFilter :=
      ⟨some "/obj/2", some "/obj/3", ⟨["/obj/2/e1", "/obj/2/e2"], true⟩⟩
    let m₁ : Measure :=
      ⟨"/gdc/md/p1/obj/5", "fact", some "sum", some "Revenue", none, none, true, true,
        [⟨some f, none⟩]⟩
    let m₂ : Measure :=
      ⟨"/gdc/md/p1/obj/5", "attribute", some "Sum", some "Sales", some (.text "0"), none, true,
        true, [⟨some { f with displayForm := none }, none⟩]⟩
    let b : Buckets :=
      ⟨[m₁, m₂], [⟨"/obj/10", "date", some "/obj/11", none⟩], []⟩
    (m₁.IsPlain ∧ m₂.IsPlain ∧ b.IsPlain) ∧
      ∃ p : Phrase, p.text =
          "SELECT (SELECT (SELECT SUM([/gdc/md/p1/obj/5]) WHERE [/obj/2] NOT IN ([/obj/2/e1]," ++
            "[/obj/2/e2])) / (SELECT SUM([/gdc/md/p1/obj/5]) BY ALL [/obj/11] WHERE [/obj/2] " ++
            "NOT IN ([/obj/2/e1],[/obj/2/e2]))) FOR PREVIOUS ([/obj/11])" ∧
        Construction.phrase? .previousShare m₁ b true = some p ∧
        Construction.phrase? .previousShare m₂ b true = some p := by
  intro f m₁ m₂ b
  have hm₁ : m₁.IsPlain := by
    refine ⟨by decide, ?_, by decide⟩
    rintro name ⟨⟩
    exact List.all_eq_true.mp (by decide)
  have hm₂ : m₂.IsPlain := by
    refine ⟨by decide, ?_, by decide⟩
    rintro name ⟨⟩
    exact List.all_eq_true.mp (by decide)
  have hb : b.IsPlain := ⟨by decide, by decide⟩
  let first (m : Measure) : Option (Option Text × Bool) :=
    ((Construction.build .previousShare m b 0).toOption.bind (·.head?)).map fun g =>
      (g.expression, g.isPrevious)
  have made : ∀ {m : Measure} {e : Text}, first m = some (some e, true) →
      ∃ gs, Construction.build .previousShare m b 0 = .ok gs ∧
        ∃ g ∈ gs, g.expression = some e ∧ g.isPrevious = true := by
    intro m e h
    obtain ⟨g, hg, hfields⟩ := Option.map_eq_some_iff.mp h
    obtain ⟨gs, hgs, hhead⟩ := Option.bind_eq_some_iff.mp hg
    obtain ⟨hexpression, hprevious⟩ := Prod.mk.inj hfields
    cases hbuild : Construction.build .previousShare m b 0 with
    | error e => simp [hbuild, Except.toOption] at hgs
    | ok made =>
      obtain rfl : made = gs := by simpa [hbuild, Except.toOption] using hgs
      exact ⟨made, rfl, g, List.mem_of_mem_head? hhead, hexpression, hprevious⟩
  have alike : ∀ e, first m₁ = some (some e, true) → first m₂ = some (some e, true) →
      ∃ p : Phrase, p.text = e ∧ Construction.phrase? .previousShare m₁ b true = some p ∧
        Construction.phrase? .previousShare m₂ b true = some p := by
    intro e h₁ h₂
    obtain ⟨gs₁, hgs₁, g₁, hg₁, he₁, hprevious₁⟩ := made h₁
    obtain ⟨gs₂, hgs₂, g₂, hg₂, he₂, hprevious₂⟩ := made h₂
    obtain ⟨p, htext, hp₁, hp₂, -⟩ :=
      phrase_eq_of_expression_eq hm₁ hm₂ hb hb hgs₁ hgs₂ hg₁ hg₂ he₁ he₂
    exact ⟨p, htext, hprevious₁ ▸ hp₁, hprevious₂ ▸ hp₂⟩
  exact ⟨⟨hm₁, hm₂, hb⟩, alike _ (by decide +kernel) (by decide +kernel)⟩

end Construction

end ChartQuery
