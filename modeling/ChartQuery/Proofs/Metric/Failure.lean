/-
# When a measure cannot be made into columns

The conditions are stated on the measure and the buckets alone, in the order in which they count:
the attribute over which the measure would be compared is missing, the attribute over which its
share would be taken is missing, its uri names no object, no standard rule takes it, or the content
of one of its metrics (`Measure.contents`) has no form in UTF-8. The main statement is that these
are exactly the failures of a measure under the standard rules.

A format that is not text is a further reason, but only for measures whose format a server replaced;
a measure that was read from a description has no such format.
-/

import ChartQuery.Proofs.Metric.Dispatch

namespace ChartQuery

/-- The halves that keep a text from being a string, if there are any. -/
def Text.halves? (t : Text) : Option Unencodable :=
  match t.string with
  | .ok _ => none
  | .error halves => some halves

/-- A text is given and not empty. -/
def Stated (text : Option Text) : Prop :=
  ∃ s ∈ text, s ≠ ""

instance : DecidablePred Stated := fun text =>
  inferInstanceAs (Decidable (∃ s ∈ text, s ≠ ""))

theorem nonEmpty?_eq_none_iff (text : Option Text) : nonEmpty? text = none ↔ ¬ Stated text := by
  cases text with
  | none => simp [nonEmpty?, Stated]
  | some s => by_cases h : s = "" <;> simp [nonEmpty?, Stated, h]

namespace Buckets

/-- A date is known whose previous period can be shown: the first date category has an attribute, or
there is no date category and the first date filter has one. -/
def KnowsDate (b : Buckets) : Prop :=
  (∃ c ∈ b.categories.find? Category.isDate, Stated c.attributeUri) ∨
    (∀ c ∈ b.categories, ¬ c.isDate) ∧
      ∃ f ∈ b.filters.findSome? (·.dateFilter), Stated f.attributeUri

/-- A total is known over which a share can be taken: there is a category, and the first one has an
attribute. -/
def KnowsTotal (b : Buckets) : Prop :=
  ∃ c ∈ b.categories.head?, Stated c.attributeUri

instance (b : Buckets) : Decidable b.KnowsDate := by
  unfold KnowsDate
  infer_instance

instance (b : Buckets) : Decidable b.KnowsTotal := by
  unfold KnowsTotal
  infer_instance

theorem dateAttribute_eq_none_iff (b : Buckets) : b.dateAttribute = none ↔ ¬ b.KnowsDate := by
  unfold dateAttribute dateCategory dateFilter KnowsDate
  cases hcategory : b.categories.find? Category.isDate with
  | some c =>
    have hdate : c.isDate = true := List.find?_some hcategory
    have hmem : c ∈ b.categories := List.mem_of_find?_eq_some hcategory
    simp only [nonEmpty?_eq_none_iff]
    apply not_congr
    constructor
    · intro hstated
      exact Or.inl ⟨c, rfl, hstated⟩
    · rintro (⟨_, hc, hstated⟩ | ⟨hnone, -⟩)
      · cases hc
        exact hstated
      · exact absurd hdate (hnone c hmem)
  | none =>
    have hnone : ∀ c ∈ b.categories, ¬ c.isDate := List.find?_eq_none.mp hcategory
    cases b.filters.findSome? (·.dateFilter) with
    | none => simp
    | some f =>
      simp only [Option.bind_some, nonEmpty?_eq_none_iff]
      apply not_congr
      constructor
      · intro hstated
        exact Or.inr ⟨hnone, f, rfl, hstated⟩
      · rintro (⟨_, hc, -⟩ | ⟨-, _, hf, hstated⟩)
        · cases hc
        · cases hf
          exact hstated

theorem shareAttribute_eq_none_iff (b : Buckets) : b.shareAttribute = none ↔ ¬ b.KnowsTotal := by
  unfold shareAttribute KnowsTotal
  cases b.categories.head? with
  | none => simp
  | some c => simp [nonEmpty?_eq_none_iff]

theorem exists_dateAttribute {b : Buckets} (h : b.KnowsDate) :
    ∃ uri, b.dateAttribute = some uri :=
  Option.ne_none_iff_exists'.mp fun hnone => b.dateAttribute_eq_none_iff.mp hnone h

theorem exists_shareAttribute {b : Buckets} (h : b.KnowsTotal) :
    ∃ uri, b.shareAttribute = some uri :=
  Option.ne_none_iff_exists'.mp fun hnone => b.shareAttribute_eq_none_iff.mp hnone h

end Buckets

/-- The format is text. -/
def NumberFormat.IsText : NumberFormat → Prop
  | .text _ => True
  | .foreign _ => False

instance : DecidablePred NumberFormat.IsText
  | .text _ => isTrue trivial
  | .foreign _ => isFalse id

theorem NumberFormat.exists_text {format : Option NumberFormat} (h : ∀ f ∈ format, f.IsText) :
    ∃ text : Option Text, format = text.map .text := by
  cases format with
  | none => exact ⟨none, rfl⟩
  | some f =>
    cases f with
    | text s => exact ⟨some s, rfl⟩
    | foreign value => exact absurd (h (.foreign value) rfl) id

namespace Measure

/-- The format of the measure is text or missing, as it is in every measure that was read from a
description. -/
def HasTextFormat (m : Measure) : Prop :=
  ∀ f ∈ m.format, f.IsText

instance (m : Measure) : Decidable m.HasTextFormat := by
  unfold HasTextFormat
  infer_instance

/-- Some filter of the measure selects elements. -/
def SelectsElements (m : Measure) : Prop :=
  ∃ f ∈ m.filters, ∃ a ∈ f.attributeFilter, a.selection.elements ≠ []

instance (m : Measure) : Decidable m.SelectsElements := by
  unfold SelectsElements
  infer_instance

theorem hasSelection_iff (m : Measure) : m.hasSelection = true ↔ m.SelectsElements := by
  unfold hasSelection selections SelectsElements
  rw [Bool.not_eq_true', List.isEmpty_eq_false_iff_exists_mem]
  constructor
  · rintro ⟨a, ha⟩
    obtain ⟨f, hf, hselecting⟩ := List.mem_filterMap.mp ha
    obtain ⟨hgiven, hexecutable⟩ := Option.filter_eq_some_iff.mp hselecting
    exact ⟨f, hf, a, hgiven, by simpa [AttributeFilter.isExecutable] using hexecutable⟩
  · rintro ⟨f, hf, a, hgiven, hselected⟩
    refine ⟨a, List.mem_filterMap.mpr ⟨f, hf, Option.filter_eq_some_iff.mpr ⟨hgiven, ?_⟩⟩⟩
    simpa [AttributeFilter.isExecutable] using hselected

/-- The uri of the measure has enough segments to name a project and an object. -/
def IsNameable (m : Measure) : Prop :=
  5 ≤ m.objectUri.toList.count (.char '/')

instance (m : Measure) : Decidable m.IsNameable := by
  unfold IsNameable
  infer_instance

/-- The measure needs a metric of its own, which has to be named. -/
def NeedsName (m : Measure) : Prop :=
  m.showsPrevious ∨ m.showsShare ∨ m.kind = factKind ∨ m.kind = attributeKind ∨ m.SelectsElements

instance (m : Measure) : Decidable m.NeedsName := by
  unfold NeedsName
  infer_instance

/-- The content of the aggregate of the measure. -/
def aggregateContent (m : Measure) : Text :=
  MetricName.content (Expression.aggregate m) (Title.base m.title)
    (m.format.map Construction.formatText)

/-- The content of the share of the measure. -/
def shareContent (b : Buckets) (m : Measure) : Text :=
  MetricName.content (Expression.share m b.shareAttribute) (Title.base m.title)
    (some Construction.shareFormat)

/-- The content of the previous period of what `inner` writes down. -/
def previousContent (b : Buckets) (m : Measure) (inner : Text) (format : Option Text) : Text :=
  MetricName.content (Expression.previous (b.dateAttribute.getD "") inner) (Title.previous m.title)
    format

/-- How the expression for the previous period refers to what it is compared with. -/
def comparedText (m : Measure) : Text :=
  if m.isDerived then "(" ++ Expression.aggregate m ++ ")" else Expression.bracketed m.objectUri

/-- The content of the previous period of the measure. -/
def earlierContent (b : Buckets) (m : Measure) : Text :=
  m.previousContent b m.comparedText (m.format.map Construction.formatText)

/-- The content of the previous period of the share of the measure. -/
def earlierShareContent (b : Buckets) (m : Measure) : Text :=
  m.previousContent b ("(" ++ Expression.share m b.shareAttribute ++ ")")
    (some Construction.shareFormat)

/-- The contents of the metrics that the measure needs, in the order in which they are named. -/
def contents (b : Buckets) (m : Measure) : List Text :=
  if m.showsShare then
    m.shareContent b :: if m.showsPrevious then [m.earlierShareContent b] else []
  else
    (if m.isDerived then [m.aggregateContent] else []) ++
      if m.showsPrevious then [m.earlierContent b] else []

/-- Why the measure cannot be made into columns under the standard rules, if it cannot. -/
def failure? (b : Buckets) (m : Measure) : Option CompileFailure :=
  if m.showsPrevious ∧ ¬ b.KnowsDate then some (.noDateAttribute m.title)
  else if m.showsShare ∧ ¬ b.KnowsTotal then some (.noShareAttribute m.title)
  else if m.NeedsName ∧ ¬ m.IsNameable then some (.malformedUri m.objectUri)
  else if ¬ m.NeedsName ∧ m.kind ≠ metricKind then some (.noRule m.title m.objectUri)
  else ((m.contents b).findSome? Text.halves?).map .unencodable

theorem isDerived_iff (m : Measure) :
    m.isDerived = true ↔ m.kind = factKind ∨ m.kind = attributeKind ∨ m.SelectsElements := by
  simp [isDerived, hasSelection_iff, or_assoc]

end Measure

/-- A result fails for the given reason, or succeeds when there is none. -/
def FailsWith {α : Type} (result : Except CompileFailure α) : Option CompileFailure → Prop
  | some e => result = .error e
  | none => ∃ a, result = .ok a

/-- A result that fails with a given reason, if at all, fails with nothing else. -/
theorem FailsWith.eq_error_iff {α : Type} {result : Except CompileFailure α}
    {failure : Option CompileFailure} (h : FailsWith result failure) (e : CompileFailure) :
    result = .error e ↔ failure = some e := by
  cases failure with
  | none =>
    obtain ⟨a, rfl⟩ := h
    simp
  | some reason =>
    rw [FailsWith] at h
    simp [h]

/-- A result succeeds when there is no reason for a failure, and only then. -/
theorem FailsWith.exists_ok_iff {α : Type} {result : Except CompileFailure α}
    {failure : Option CompileFailure} (h : FailsWith result failure) :
    (∃ a, result = .ok a) ↔ failure = none := by
  cases failure with
  | none => simpa [FailsWith] using h
  | some reason =>
    rw [FailsWith] at h
    simp [h]

/-- Where a result hands on the failure of a first step, the first step that fails decides. -/
theorem FailsWith.andThen {α β : Type} {x : Except CompileFailure α}
    {result : Except CompileFailure β} {first second : Option CompileFailure}
    (hfirst : FailsWith x first)
    (herror : ∀ e, x = .error e → result = .error e)
    (hok : ∀ a, x = .ok a → FailsWith result second) : FailsWith result (first.or second) := by
  cases first with
  | some e => exact herror e hfirst
  | none =>
    obtain ⟨a, ha⟩ := hfirst
    exact hok a ha

theorem FailsWith.singleton {x : Except CompileFailure GeneratedMetric}
    {failure : Option CompileFailure} (h : FailsWith x failure) :
    FailsWith (x.map ([·])) failure := by
  cases failure with
  | none =>
    obtain ⟨g, rfl⟩ := h
    exact ⟨[g], rfl⟩
  | some reason =>
    rw [FailsWith] at h
    rw [h]
    rfl

namespace Measure

/-- Why metrics of the measure with such contents cannot be named, if they cannot. -/
def nameFailure? (m : Measure) (contents : List Text) : Option CompileFailure :=
  if m.IsNameable then (contents.findSome? Text.halves?).map .unencodable
  else some (.malformedUri m.objectUri)

/-- Metrics are named one after another, so the first that cannot be named decides. -/
theorem nameFailure?_append (m : Measure) (first second : List Text) :
    m.nameFailure? (first ++ second) = (m.nameFailure? first).or (m.nameFailure? second) := by
  by_cases hnameable : m.IsNameable
  · simp only [nameFailure?, if_pos hnameable, List.findSome?_append]
    cases first.findSome? Text.halves? <;> rfl
  · simp only [nameFailure?, if_neg hnameable, Option.some_or]

end Measure

namespace Construction

variable {m : Measure} {b : Buckets} {index : Int}

/-! ## Failures of the constructions -/

/-- With a text for a format, a new metric fails only because it cannot be named. -/
theorem generate_failsWith {isPrevious : Bool} {token expression title : Text}
    {format : Option NumberFormat} (hformat : ∀ f ∈ format, f.IsText) :
    FailsWith (generate m index isPrevious token expression title format)
      (m.nameFailure? [MetricName.content expression title (format.map formatText)]) := by
  obtain ⟨text, rfl⟩ := NumberFormat.exists_text hformat
  rw [Measure.nameFailure?]
  by_cases hnameable : m.IsNameable
  · rw [if_pos hnameable, List.findSome?_singleton, Text.halves?]
    cases hstring :
        (MetricName.content expression title ((text.map .text).map formatText)).string with
    | ok s =>
      have hdigest : MetricName.contentDigest expression title ((text.map .text).map formatText) =
          .ok (Text.digest s) := by
        rw [MetricName.contentDigest, hstring]
        rfl
      obtain ⟨identifier, hidentifier⟩ := MetricName.exists_ofContent hnameable token hdigest
      rw [generate, hidentifier]
      cases text <;> exact ⟨_, rfl⟩
    | error halves =>
      have hdigest : MetricName.contentDigest expression title ((text.map .text).map formatText) =
          .error halves := by
        rw [MetricName.contentDigest, hstring]
        rfl
      rw [generate, MetricName.ofContent_of_unencodable hnameable token hdigest]
      rfl
  · rw [if_neg hnameable]
    rw [FailsWith, generate, MetricName.ofContent_of_short (Nat.lt_of_not_le hnameable)]

/-- The format of shares is text. -/
theorem shareFormat_isText : ∀ f ∈ some (NumberFormat.text shareFormat), f.IsText := by
  decide

theorem shareMetric_failsWith (m : Measure) (b : Buckets) (index : Int) :
    FailsWith (shareMetric m b index)
      (if b.KnowsTotal then m.nameFailure? [m.shareContent b]
        else some (.noShareAttribute m.title)) := by
  unfold shareMetric
  by_cases htotal : b.KnowsTotal
  · obtain ⟨uri, huri⟩ := b.exists_shareAttribute htotal
    rw [if_pos htotal, Measure.shareContent, huri]
    exact generate_failsWith shareFormat_isText
  · rw [if_neg htotal, b.shareAttribute_eq_none_iff.mpr htotal]
    rfl

theorem comparedMetric_failsWith (hformat : m.HasTextFormat) (index : Int) :
    FailsWith (comparedMetric m index)
      (if m.isDerived then m.nameFailure? [m.aggregateContent] else none) := by
  unfold comparedMetric
  by_cases hderived : m.isDerived = true
  · have haggregate : FailsWith (aggregateMetric m index) (m.nameFailure? [m.aggregateContent]) :=
      generate_failsWith hformat
    rw [if_pos hderived, if_pos hderived, ← Option.or_none (o := m.nameFailure? _)]
    apply haggregate.andThen
    · intro e he
      rw [he]
    · intro g hg
      rw [hg]
      exact ⟨_, rfl⟩
  · rw [if_neg hderived, if_neg hderived]
    exact ⟨_, rfl⟩

/-- The metric that a previous period is compared with is referred to in one way only. -/
theorem comparedMetric_refers {g : GeneratedMetric} {inner : Text}
    (h : comparedMetric m index = .ok (g, inner)) : inner = m.comparedText := by
  rcases comparedMetric_eq_ok h with ⟨hderived, -, rfl⟩ | ⟨hplain, -, rfl⟩
  · rw [Measure.comparedText, if_pos hderived]
  · rw [Measure.comparedText, if_neg (by simp [hplain])]

/-- The pair for a previous period needs a date and two names, unless the compared metric is there
already. -/
theorem previousPair_failsWith (hformat : m.HasTextFormat) :
    FailsWith (previousPair m b index)
      (if b.KnowsDate then
        m.nameFailure? ((if m.isDerived then [m.aggregateContent] else []) ++ [m.earlierContent b])
      else some (.noDateAttribute m.title)) := by
  unfold previousPair
  by_cases hdate : b.KnowsDate
  · obtain ⟨date, hattribute⟩ := b.exists_dateAttribute hdate
    have hcompared := comparedMetric_failsWith hformat index
    have hearlier : FailsWith (previousMetric m date m.comparedText m.format index)
        (m.nameFailure? [m.earlierContent b]) := by
      rw [Measure.earlierContent, Measure.previousContent, hattribute]
      exact generate_failsWith hformat
    have hfailure :
        m.nameFailure? ((if m.isDerived then [m.aggregateContent] else []) ++
            [m.earlierContent b]) =
          (if m.isDerived then m.nameFailure? [m.aggregateContent] else none).or
            ((m.nameFailure? [m.earlierContent b]).or none) := by
      cases m.isDerived
      · simp
      · rw [Measure.nameFailure?_append, Option.or_none]
        rfl
    rw [if_pos hdate, hattribute, hfailure]
    apply hcompared.andThen
    · intro e he
      simp only [he]
    · intro pair hpair
      simp only [hpair, comparedMetric_refers hpair]
      apply hearlier.andThen
      · intro e he
        simp only [he]
      · intro earlier hg
        simp only [hg]
        exact ⟨_, rfl⟩
  · rw [if_neg hdate, b.dateAttribute_eq_none_iff.mpr hdate]
    rfl

/-- The pair for the previous period of a share asks for the date first. -/
theorem previousSharePair_failsWith :
    FailsWith (previousSharePair m b index)
      (if ¬ b.KnowsDate then some (.noDateAttribute m.title)
        else if b.KnowsTotal then m.nameFailure? [m.shareContent b, m.earlierShareContent b]
        else some (.noShareAttribute m.title)) := by
  unfold previousSharePair
  by_cases hdate : b.KnowsDate
  · obtain ⟨date, hattribute⟩ := b.exists_dateAttribute hdate
    have hshare := shareMetric_failsWith m b index
    have hearlier : FailsWith (previousMetric m date
        ("(" ++ Expression.share m b.shareAttribute ++ ")") (some (.text shareFormat)) index)
        (m.nameFailure? [m.earlierShareContent b]) := by
      rw [Measure.earlierShareContent, Measure.previousContent, hattribute]
      exact generate_failsWith shareFormat_isText
    have hfailure :
        (if b.KnowsTotal then m.nameFailure? [m.shareContent b, m.earlierShareContent b]
          else some (.noShareAttribute m.title)) =
        (if b.KnowsTotal then m.nameFailure? [m.shareContent b]
          else some (.noShareAttribute m.title)).or
          ((m.nameFailure? [m.earlierShareContent b]).or none) := by
      by_cases htotal : b.KnowsTotal
      · rw [if_pos htotal, if_pos htotal, Option.or_none, ← Measure.nameFailure?_append]
        rfl
      · simp [htotal]
    rw [if_neg (not_not_intro hdate), hattribute, hfailure]
    apply hshare.andThen
    · intro e he
      simp only [he]
    · intro compared hg
      simp only [hg]
      apply hearlier.andThen
      · intro e he
        simp only [he]
      · intro earlier hg
        simp only [hg]
        exact ⟨_, rfl⟩
  · rw [if_pos hdate, b.dateAttribute_eq_none_iff.mpr hdate]
    rfl

/-- Why a construction fails for a measure, if it does. -/
def failure? (b : Buckets) (m : Measure) : Construction → Option CompileFailure
  | .reference => none
  | .aggregate => m.nameFailure? [m.aggregateContent]
  | .share =>
    if b.KnowsTotal then m.nameFailure? [m.shareContent b] else some (.noShareAttribute m.title)
  | .previous =>
    if b.KnowsDate then
      m.nameFailure? ((if m.isDerived then [m.aggregateContent] else []) ++ [m.earlierContent b])
    else some (.noDateAttribute m.title)
  | .previousShare =>
    if ¬ b.KnowsDate then some (.noDateAttribute m.title)
    else if b.KnowsTotal then m.nameFailure? [m.shareContent b, m.earlierShareContent b]
    else some (.noShareAttribute m.title)

theorem build_failsWith (hformat : m.HasTextFormat) (c : Construction) :
    FailsWith (c.build m b index) (c.failure? b m) := by
  cases c with
  | reference => exact ⟨_, rfl⟩
  | aggregate => exact (generate_failsWith hformat).singleton
  | share => exact (shareMetric_failsWith m b index).singleton
  | previous => exact previousPair_failsWith hformat
  | previousShare => exact previousSharePair_failsWith

end Construction

namespace RuleBook

variable {m : Measure} {b : Buckets} {index : Int}

/-! ## Failures under the standard rules -/

/-- The reason for which a measure fails is that of the construction which the standard rules choose
for it, or that they choose none. -/
theorem failure?_eq_of_dispatch (m : Measure) (b : Buckets) :
    m.failure? b =
      match standard.dispatch m with
      | .error e => some e
      | .ok construction => construction.failure? b m := by
  have hneeds : m.NeedsName ↔
      m.showsPrevious = true ∨ m.showsShare = true ∨ m.isDerived = true := by
    rw [Measure.NeedsName, Measure.isDerived_iff]
  rw [dispatch_standard, Measure.failure?, Measure.contents]
  simp only [hneeds]
  -- Both sides look at the same flags, in different orders.
  cases m.showsPrevious <;> cases m.showsShare <;> cases hderived : m.isDerived <;>
    by_cases hkind : m.kind = Measure.metricKind <;>
      by_cases htotal : b.KnowsTotal <;>
        simp [Construction.failure?, Measure.nameFailure?, hderived, hkind, htotal]

/-- Under the standard rules a measure fails for the stated reason, or is made into columns when
there is none. -/
theorem metricsOf_standard_failsWith (hformat : m.HasTextFormat) :
    FailsWith (standard.metricsOf b index m) (m.failure? b) := by
  rw [failure?_eq_of_dispatch, metricsOf]
  cases standard.dispatch m with
  | error e => rfl
  | ok construction => exact Construction.build_failsWith hformat construction

/-- Measures are made into columns one after another, so the first one that fails decides. -/
theorem metricsFrom_failsWith {book : RuleBook} {failure? : Measure → Option CompileFailure}
    {measures : List Measure}
    (hone : ∀ m ∈ measures, ∀ index, FailsWith (book.metricsOf b index m) (failure? m))
    (index : Int) :
    FailsWith (book.metricsFrom b index measures) (measures.findSome? failure?) := by
  induction measures generalizing index with
  | nil => exact ⟨[], rfl⟩
  | cons m rest ih =>
    have hfirst := hone m List.mem_cons_self index
    have hothers := ih (fun x hx => hone x (List.mem_cons_of_mem m hx)) (index + 1)
    have hfailure : (m :: rest).findSome? failure? =
        (failure? m).or ((rest.findSome? failure?).or none) := by
      rw [Option.or_none, List.findSome?_cons]
      cases failure? m <;> rfl
    rw [metricsFrom, hfailure]
    apply hfirst.andThen
    · intro e he
      rw [he]
    · intro first hgs
      rw [hgs]
      apply hothers.andThen
      · intro e he
        simp only [he]
      · intro others hgs
        simp only [hgs]
        exact ⟨first ++ others, rfl⟩

/-- Under the standard rules the first measure that fails decides. -/
theorem metrics_standard_failsWith (hformats : ∀ m ∈ b.measures, m.HasTextFormat) :
    FailsWith (standard.metrics b) (b.measures.findSome? (Measure.failure? b)) :=
  metricsFrom_failsWith (fun m hm _ => metricsOf_standard_failsWith (hformats m hm)) 0

end RuleBook

end ChartQuery
