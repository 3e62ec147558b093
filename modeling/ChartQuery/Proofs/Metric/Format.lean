/-
# Metrics and the formats of their measures

A format enters a generated metric in two places, the definition and, through the digest, the name.
`GeneratedMetric.outline` forgets both. Every construction makes metrics of one outline, whatever
text the format of the measure is, and fails for one reason, unless the format holds a half of a
surrogate pair and keeps the content from being digested (`build_withoutFormat`); so do all measures
of a chart one after another (`metricsFrom_withoutFormat`). Formats that are no text are left out:
with them a construction may fail.
-/

import ChartQuery.Proofs.Metric.Request

namespace ChartQuery

/-- The measure without its format. -/
def Measure.withoutFormat (m : Measure) : Measure :=
  { m with format := none }

/-- The format of the measure holds a half of a surrogate pair. -/
def Measure.FormatHoldsHalf (m : Measure) : Prop :=
  ∃ f ∈ m.format, (Construction.formatText f).isWhole = false

instance (m : Measure) : Decidable m.FormatHoldsHalf := by
  unfold Measure.FormatHoldsHalf
  infer_instance

/-- A metric without what its format enters: a generated one loses its name and its format. -/
def GeneratedMetric.outline (g : GeneratedMetric) : GeneratedMetric :=
  match g.definition with
  | none => g
  | some d =>
    { g with element := "", definition := some { d with identifier := "", format := none } }

namespace MetricName

variable (expression title : Text)

/-- A format without halves does not decide whether there is a digest. -/
theorem contentDigest_of_isWhole {format : Option Text} (h : ∀ t ∈ format, t.isWhole = true) :
    (contentDigest expression title format).map (fun _ => ()) =
      (contentDigest expression title none).map fun _ => () := by
  obtain ⟨s, hs⟩ : ∃ s : String, format.getD "" = Text.ofString s := by
    cases format with
    | none => exact ⟨"", rfl⟩
    | some t => exact Text.isWhole_iff.mp (h t rfl)
  have hcontent (behind : String) :
      ((expression ++ "#" ++ title ++ "#" ++ behind).string.map Text.digest).map (fun _ => ()) =
        (expression ++ "#" ++ title ++ "#").string.map fun _ => () := by
    rw [Text.string_append_ofString]
    cases (expression ++ "#" ++ title ++ "#").string <;> rfl
  rw [contentDigest, contentDigest, content, content, hs, hcontent]
  exact (hcontent "").symm

/-- A format with a half leaves no digest. -/
theorem exists_contentDigest_eq_error {format : Text} (h : format.isWhole = false) :
    ∃ halves, contentDigest expression title (some format) = .error halves := by
  have hcontent : (content expression title (some format)).isWhole = false := by
    simp [content, h]
  obtain ⟨halves, hhalves⟩ := Text.exists_string_eq_error_iff.mpr hcontent
  exact ⟨halves, by rw [contentDigest, hhalves]; rfl⟩

end MetricName

namespace Construction

variable {m : Measure} {b : Buckets}

/-! ## The constructions -/

/-- What is left of a new metric depends on its format only as far as there is a digest. -/
theorem map_outline_generate (m : Measure) (index : Int) (isPrevious : Bool)
    (token expression title : Text) (format : Option Text) :
    (generate m index isPrevious token expression title (format.map .text)).map
        GeneratedMetric.outline =
      match MetricName.objectOf m.objectUri,
        (MetricName.contentDigest expression title format).map fun _ => () with
      | .error e, _ => .error e
      | .ok _, .error halves => .error (.unencodable halves)
      | .ok _, .ok _ =>
        .ok ⟨"", index, isPrevious, some ⟨"", expression, title, none⟩,
          m.directionFor isPrevious⟩ := by
  have hformat : (format.map NumberFormat.text).map formatText = format := by
    cases format <;> rfl
  unfold generate MetricName.ofContent
  rw [hformat]
  cases MetricName.objectOf m.objectUri with
  | error e => rfl
  | ok names =>
    cases MetricName.contentDigest expression title format with
    | error halves => rfl
    | ok digest => cases format <;> rfl

theorem generate_withoutFormat (m : Measure) (index : Int) (isPrevious : Bool)
    (token expression title : Text) {format : Option NumberFormat}
    (hformat : ∀ f ∈ format, f.IsText) :
    AgreeUnless (∃ f ∈ format, (formatText f).isWhole = false) GeneratedMetric.outline
      (generate m index isPrevious token expression title format)
      (generate m.withoutFormat index isPrevious token expression title none) := by
  have hnone := map_outline_generate m.withoutFormat index isPrevious token expression title none
  obtain ⟨text, rfl⟩ := NumberFormat.exists_text hformat
  have hsome := map_outline_generate m index isPrevious token expression title text
  by_cases hwhole : ∀ t ∈ text, t.isWhole = true
  · rw [MetricName.contentDigest_of_isWhole _ _ hwhole] at hsome
    exact .of_agreeOn (hsome.trans hnone.symm)
  · obtain ⟨t, rfl, hhalf⟩ : ∃ t, text = some t ∧ t.isWhole = false := by
      simpa using hwhole
    obtain ⟨halves, hhalves⟩ := MetricName.exists_contentDigest_eq_error expression title hhalf
    cases hobject : MetricName.objectOf m.objectUri with
    | error e =>
      refine .of_agreeOn ?_
      rw [hobject] at hsome
      have hother : MetricName.objectOf m.withoutFormat.objectUri = .error e := hobject
      rw [hother] at hnone
      exact hsome.trans hnone.symm
    | ok names =>
      refine Or.inl ⟨⟨.text t, rfl, hhalf⟩, halves, ?_⟩
      rw [generate, MetricName.ofContent, hobject]
      simp only [Option.map_some, formatText, hhalves]

theorem aggregateMetric_withoutFormat (hformat : m.HasTextFormat) (index : Int) :
    AgreeUnless m.FormatHoldsHalf GeneratedMetric.outline (aggregateMetric m index)
      (aggregateMetric m.withoutFormat index) :=
  generate_withoutFormat m index false _ _ _ hformat

/-- What is compared has one outline and is referred to by one text. -/
theorem comparedMetric_withoutFormat (hformat : m.HasTextFormat) (index : Int) :
    AgreeUnless m.FormatHoldsHalf (fun compared => (compared.1.outline, compared.2))
      (comparedMetric m index) (comparedMetric m.withoutFormat index) := by
  have hderived : m.withoutFormat.isDerived = m.isDerived := rfl
  unfold comparedMetric
  rw [hderived]
  split
  · rcases (aggregateMetric_withoutFormat hformat index).cases with
      ⟨hhalf, halves, he⟩ | ⟨e, he, he'⟩ | ⟨g, g', hg, hg', houtline⟩
    · rw [he]
      exact Or.inl ⟨hhalf, halves, rfl⟩
    · rw [he, he']
      exact .of_agreeOn rfl
    · rw [hg, hg']
      refine .of_agreeOn ?_
      show Except.ok (g.outline, _) = Except.ok (g'.outline, _)
      rw [houtline]
      rfl
  · exact .of_agreeOn rfl

theorem previousPair_withoutFormat (hformat : m.HasTextFormat) (index : Int) :
    AgreeUnless m.FormatHoldsHalf (List.map GeneratedMetric.outline) (previousPair m b index)
      (previousPair m.withoutFormat b index) := by
  unfold previousPair
  cases b.dateAttribute with
  | none => exact .of_agreeOn rfl
  | some date =>
    rcases (comparedMetric_withoutFormat hformat index).cases with
      ⟨hhalf, halves, he⟩ | ⟨e, he, he'⟩ | ⟨⟨g, inner⟩, ⟨g', inner'⟩, hg, hg', hview⟩
    · simp only [he]
      exact Or.inl ⟨hhalf, halves, rfl⟩
    · simp only [he, he']
      exact .of_agreeOn rfl
    · obtain ⟨houtline, hinner⟩ := Prod.mk.inj hview
      obtain rfl : inner = inner' := hinner
      have hearlier : AgreeUnless m.FormatHoldsHalf GeneratedMetric.outline
          (previousMetric m date inner m.format index)
          (previousMetric m.withoutFormat date inner m.withoutFormat.format index) :=
        generate_withoutFormat m index true _ _ _ hformat
      simp only [hg, hg']
      exact hearlier.cons houtline

theorem share_withoutFormat (m : Measure) :
    Expression.share m.withoutFormat = Expression.share m :=
  rfl

/-- Given its format, a new metric does not depend on that of the measure. -/
theorem generate_given_format (m : Measure) (index : Int) (isPrevious : Bool)
    (token expression title : Text) (format : Option NumberFormat) :
    generate m.withoutFormat index isPrevious token expression title format =
      generate m index isPrevious token expression title format :=
  rfl

/-- Shares have a format of their own. -/
theorem previousSharePair_withoutFormat (m : Measure) (b : Buckets) (measures : List Measure)
    (index : Int) :
    previousSharePair m.withoutFormat { b with measures := measures } index =
      previousSharePair m b index := by
  have hdate : Buckets.dateAttribute { b with measures := measures } = b.dateAttribute := rfl
  have hshare : Buckets.shareAttribute { b with measures := measures } = b.shareAttribute := rfl
  simp only [previousSharePair, previousMetric, shareMetric, hdate, hshare, share_withoutFormat,
    generate_given_format]
  rfl

/-- A construction makes metrics of the same outline without the format of the measure, or fails for
the same reason, unless that format holds a half. It does not look at the other measures. -/
theorem build_withoutFormat (hformat : m.HasTextFormat) (c : Construction) (b : Buckets)
    (measures : List Measure) (index : Int) :
    AgreeUnless m.FormatHoldsHalf (List.map GeneratedMetric.outline) (c.build m b index)
      (c.build m.withoutFormat { b with measures := measures } index) := by
  cases c with
  | reference => exact .of_agreeOn rfl
  | aggregate => exact (aggregateMetric_withoutFormat hformat index).singleton
  | share => exact .of_agreeOn rfl
  | previous => exact previousPair_withoutFormat hformat index
  | previousShare =>
    exact .of_agreeOn (congrArg _ (previousSharePair_withoutFormat m b measures index).symm)

end Construction

namespace RuleBook

variable {m : Measure} {b : Buckets}

/-! ## All measures -/

theorem dispatch_withoutFormat (m : Measure) :
    standard.dispatch m.withoutFormat = standard.dispatch m := by
  rw [dispatch_standard, dispatch_standard]
  rfl

theorem metricsOf_withoutFormat (hformat : m.HasTextFormat) (b : Buckets) (measures : List Measure)
    (index : Int) :
    AgreeUnless m.FormatHoldsHalf (List.map GeneratedMetric.outline)
      (standard.metricsOf b index m)
      (standard.metricsOf { b with measures := measures } index m.withoutFormat) := by
  rw [metricsOf, metricsOf, dispatch_withoutFormat]
  cases standard.dispatch m with
  | error e => exact .of_agreeOn rfl
  | ok c => exact Construction.build_withoutFormat hformat c b measures index

theorem metricsFrom_withoutFormat {measures : List Measure} (others : List Measure)
    (hformats : ∀ m ∈ measures, m.HasTextFormat) (index : Int) :
    AgreeUnless (∃ m ∈ measures, m.FormatHoldsHalf) (List.map GeneratedMetric.outline)
      (standard.metricsFrom b index measures)
      (standard.metricsFrom { b with measures := others } index
        (measures.map Measure.withoutFormat)) := by
  let related (m₁ m₂ : Measure) : Prop := m₁ ∈ measures ∧ m₂ = m₁.withoutFormat
  have hrelated : List.Forall₂ related measures (measures.map Measure.withoutFormat) :=
    List.forall₂_map_right_iff.mpr (List.forall₂_same.mpr fun m hm => ⟨hm, rfl⟩)
  refine metricsFrom_agreeUnless ?_ hrelated index
  rintro m₁ m₂ ⟨hm, rfl⟩ position
  exact (metricsOf_withoutFormat (hformats m₁ hm) b others position).mono fun hhalf =>
    ⟨m₁, hm, hhalf⟩

end RuleBook

end ChartQuery
