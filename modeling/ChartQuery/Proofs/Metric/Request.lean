/-
# Measures that ask for the same metrics

What a measure is made into, apart from its position and from how it is sorted, depends on a part of
the measure only: on its object, its kind, its aggregation in whatever letter case, its title, its
format, its two flags, and what its executable attribute filters select. Of the buckets it depends
on the date and on the attribute of the total, and on these only where they are asked for. Each
function from the choice of a construction to the metrics comes with the statement that two measures
which ask for the same give the same.
-/

import Mathlib.Data.List.Forall2
import ChartQuery.Proofs.Metric.Failure
import ChartQuery.Proofs.Text.Case

namespace ChartQuery

/-- What a filter restricts; its display form plays no part inside of an expression. -/
def AttributeFilter.restricted (f : AttributeFilter) : Option Text × List Text × Bool :=
  (f.attributeUri, f.selection.elements, f.selection.negative)

namespace Measure

/-- The aggregation with its ASCII letters small. -/
def plainAggregation (m : Measure) : Option (List Point) :=
  m.aggregation.map fun name => name.toList.map Point.toLower

/-- The two measures ask for the same metrics. -/
structure AsksLike (m₁ m₂ : Measure) : Prop where
  objectUri : m₁.objectUri = m₂.objectUri
  kind : m₁.kind = m₂.kind
  aggregation : m₁.plainAggregation = m₂.plainAggregation
  title : m₁.title = m₂.title
  format : m₁.format = m₂.format
  showsPrevious : m₁.showsPrevious = m₂.showsPrevious
  showsShare : m₁.showsShare = m₂.showsShare
  restricted : m₁.selections.map (·.restricted) = m₂.selections.map (·.restricted)

variable {m₁ m₂ : Measure}

namespace AsksLike

theorem hasSelection (h : m₁.AsksLike m₂) : m₁.hasSelection = m₂.hasSelection := by
  have hempty : m₁.selections = [] ↔ m₂.selections = [] := by
    rw [← List.map_eq_nil_iff (f := (·.restricted)), h.restricted, List.map_eq_nil_iff]
  have hboth : m₁.selections.isEmpty = m₂.selections.isEmpty := by
    rw [Bool.eq_iff_iff, List.isEmpty_iff, List.isEmpty_iff, hempty]
  rw [Measure.hasSelection, Measure.hasSelection, hboth]

theorem isDerived (h : m₁.AsksLike m₂) : m₁.isDerived = m₂.isDerived := by
  rw [Measure.isDerived, Measure.isDerived, h.kind, h.hasSelection]

/-- Both aggregations are missing or empty, or have the same forms. -/
theorem aggregation_cases (h : m₁.AsksLike m₂) :
    (nonEmpty? m₁.aggregation = none ∧ nonEmpty? m₂.aggregation = none) ∨
      ∃ name₁ name₂, nonEmpty? m₁.aggregation = some name₁ ∧
        nonEmpty? m₂.aggregation = some name₂ ∧ Text.upper name₁ = Text.upper name₂ ∧
        Text.lower name₁ = Text.lower name₂ := by
  have hplain := h.aggregation
  unfold plainAggregation at hplain
  cases h₁ : m₁.aggregation with
  | none =>
    cases h₂ : m₂.aggregation with
    | none => exact Or.inl ⟨rfl, rfl⟩
    | some name₂ => simp [h₁, h₂] at hplain
  | some name₁ =>
    cases h₂ : m₂.aggregation with
    | none => simp [h₁, h₂] at hplain
    | some name₂ =>
      have hletters : name₁.toList.map Point.toLower = name₂.toList.map Point.toLower := by
        simpa [h₁, h₂] using hplain
      have hempty : name₁ = "" ↔ name₂ = "" := by
        have hlength := congrArg List.length hletters
        simp only [List.length_map, Text.length_toList] at hlength
        rw [← Text.length_eq_zero_iff, hlength, Text.length_eq_zero_iff]
      by_cases hnone : name₂ = ""
      · exact Or.inl ⟨if_pos (hempty.mpr hnone), if_pos hnone⟩
      · exact Or.inr ⟨name₁, name₂, if_neg ((not_congr hempty).mpr hnone), if_neg hnone,
          Text.upper_congr hletters, Text.lower_congr hletters⟩

end AsksLike

end Measure

namespace Expression

variable {m₁ m₂ : Measure}

theorem restriction_congr (h : m₁.AsksLike m₂) : restriction m₁ = restriction m₂ := by
  have hclauses : m₁.selections.map clause = m₂.selections.map clause := by
    -- A clause shows nothing of its filter but what it restricts.
    let written : Option Text × List Text × Bool → Text := fun r =>
      clause ⟨r.1, none, r.2.1, r.2.2⟩
    have hwritten : ∀ m : Measure,
        m.selections.map clause = (m.selections.map (·.restricted)).map written := by
      intro m
      rw [List.map_map]
      rfl
    rw [hwritten, hwritten, h.restricted]
  have hrestriction : ∀ m : Measure, restriction m =
      if m.selections.map clause = [] then ("" : Text)
      else " WHERE " ++ Text.joined " AND " (m.selections.map clause) := by
    intro m
    unfold restriction
    cases m.selections with
    | nil => rfl
    | cons f fs => simp
  rw [hrestriction, hrestriction, hclauses]

theorem aggregated_congr (h : m₁.AsksLike m₂) : aggregated m₁ = aggregated m₂ := by
  unfold aggregated
  rcases h.aggregation_cases with ⟨h₁, h₂⟩ | ⟨name₁, name₂, h₁, h₂, hupper, -⟩
  · rw [h₁, h₂, h.objectUri]
  · simp only [h₁, h₂, hupper, h.objectUri]

theorem aggregate_congr (h : m₁.AsksLike m₂) : aggregate m₁ = aggregate m₂ := by
  rw [aggregate, aggregate, unrestricted, unrestricted, aggregated_congr h, restriction_congr h]

theorem share_congr (h : m₁.AsksLike m₂) (attributeUri : Option Text) :
    share m₁ attributeUri = share m₂ attributeUri := by
  have hbase : shareBase m₁ = shareBase m₂ := by
    rw [shareBase, shareBase, unrestricted, unrestricted, h.isDerived, aggregated_congr h,
      h.objectUri]
  delta share
  rw [hbase, restriction_congr h]

end Expression

/-- A metric without its position and its sorting: its name, what it is defined as, and whether it
is a previous period. -/
def GeneratedMetric.content (g : GeneratedMetric) : Text × Option Definition × Bool :=
  (g.element, g.definition, g.isPrevious)

/-- Two results agree: they fail for the same reason, or a function does not tell them apart. -/
def AgreeOn {α β : Type} (view : α → β) (x y : Except CompileFailure α) : Prop :=
  x.map view = y.map view

namespace AgreeOn

variable {α β : Type} {view : α → β} {x y : Except CompileFailure α}

theorem cases (h : AgreeOn view x y) :
    (∃ e, x = .error e ∧ y = .error e) ∨ ∃ a b, x = .ok a ∧ y = .ok b ∧ view a = view b := by
  cases x with
  | error e =>
    cases y with
    | error e' =>
      cases h
      exact Or.inl ⟨e, rfl, rfl⟩
    | ok b => cases h
  | ok a =>
    cases y with
    | error e' => cases h
    | ok b => exact Or.inr ⟨a, b, rfl, rfl, Except.ok.inj h⟩

/-- A single result agrees as the list of it does. -/
theorem singleton (h : AgreeOn view x y) :
    AgreeOn (List.map view) (x.map ([·])) (y.map ([·])) := by
  rcases h.cases with ⟨e, rfl, rfl⟩ | ⟨a, b, rfl, rfl, hview⟩
  · rfl
  · show Except.ok [view a] = Except.ok [view b]
    rw [hview]

/-- Metrics that agree still agree behind earlier ones that agree. -/
theorem cons {view : GeneratedMetric → β} {x y : Except CompileFailure GeneratedMetric}
    {g₁ g₂ : GeneratedMetric} : AgreeOn view x y → view g₁ = view g₂ →
      AgreeOn (List.map view)
        (match x with
          | .error e => .error e
          | .ok earlier => .ok [earlier, g₁])
        (match y with
          | .error e => .error e
          | .ok earlier => .ok [earlier, g₂]) := by
  intro h hview
  rcases h.cases with ⟨e, rfl, rfl⟩ | ⟨a, b, rfl, rfl, hearlier⟩
  · rfl
  · show Except.ok [view a, view g₁] = Except.ok [view b, view g₂]
    rw [hearlier, hview]

end AgreeOn

/-- Two results agree, unless there is a flaw and the first of them fails because of halves. -/
def AgreeUnless {α β : Type} (flawed : Prop) (view : α → β) (x y : Except CompileFailure α) :
    Prop :=
  (flawed ∧ ∃ halves, x = .error (.unencodable halves)) ∨ AgreeOn view x y

namespace AgreeUnless

variable {α β : Type} {flawed : Prop} {view : α → β} {x y : Except CompileFailure α}

theorem of_agreeOn (h : AgreeOn view x y) : AgreeUnless flawed view x y :=
  Or.inr h

theorem cases (h : AgreeUnless flawed view x y) :
    (flawed ∧ ∃ halves, x = .error (.unencodable halves)) ∨
      (∃ e, x = .error e ∧ y = .error e) ∨ ∃ a b, x = .ok a ∧ y = .ok b ∧ view a = view b :=
  h.imp_right AgreeOn.cases

theorem mono {other : Prop} (h : AgreeUnless flawed view x y) (himp : flawed → other) :
    AgreeUnless other view x y :=
  h.imp_left fun ⟨hflawed, hhalves⟩ => ⟨himp hflawed, hhalves⟩

theorem singleton (h : AgreeUnless flawed view x y) :
    AgreeUnless flawed (List.map view) (x.map ([·])) (y.map ([·])) := by
  rcases h with ⟨hflawed, halves, rfl⟩ | h
  · exact Or.inl ⟨hflawed, halves, rfl⟩
  · exact Or.inr h.singleton

theorem cons {view : GeneratedMetric → β} {x y : Except CompileFailure GeneratedMetric}
    {g₁ g₂ : GeneratedMetric} : AgreeUnless flawed view x y → view g₁ = view g₂ →
      AgreeUnless flawed (List.map view)
        (match x with
          | .error e => .error e
          | .ok earlier => .ok [earlier, g₁])
        (match y with
          | .error e => .error e
          | .ok earlier => .ok [earlier, g₂]) := by
  rintro (⟨hflawed, halves, rfl⟩ | h) hview
  · exact Or.inl ⟨hflawed, halves, rfl⟩
  · exact Or.inr (h.cons hview)

end AgreeUnless

namespace Construction

variable {m₁ m₂ : Measure} {b₁ b₂ : Buckets}

/-! ## The constructions -/

theorem generate_congr (h : m₁.AsksLike m₂) (i j : Int) (isPrevious : Bool)
    (token expression title : Text) (format : Option NumberFormat) :
    AgreeOn GeneratedMetric.content
      (generate m₁ i isPrevious token expression title format)
      (generate m₂ j isPrevious token expression title format) := by
  have hname : MetricName.ofContent m₁ token expression title (format.map formatText) =
      MetricName.ofContent m₂ token expression title (format.map formatText) := by
    rw [MetricName.ofContent, MetricName.ofContent, h.objectUri, h.kind, h.hasSelection]
  unfold generate
  rw [hname]
  cases MetricName.ofContent m₂ token expression title (format.map formatText) with
  | error e => rfl
  | ok identifier =>
    cases hdefinition : define identifier expression title format with
    | error e =>
      simp only [hdefinition]
      rfl
    | ok definition =>
      simp only [hdefinition]
      rfl

theorem aggregateMetric_congr (h : m₁.AsksLike m₂) (i j : Int) :
    AgreeOn GeneratedMetric.content (aggregateMetric m₁ i) (aggregateMetric m₂ j) := by
  have htoken : aggregateToken m₁ = aggregateToken m₂ := by
    unfold aggregateToken
    rcases h.aggregation_cases with ⟨h₁, h₂⟩ | ⟨name₁, name₂, h₁, h₂, -, hlower⟩
    · rw [h₁, h₂]
    · rw [h₁, h₂, Option.getD_some, Option.getD_some, hlower]
  rw [aggregateMetric, aggregateMetric, htoken, Expression.aggregate_congr h, h.title, h.format]
  exact generate_congr h i j false _ _ _ _

theorem shareMetric_congr (h : m₁.AsksLike m₂) (i j : Int)
    (hshare : b₁.shareAttribute = b₂.shareAttribute) :
    AgreeOn GeneratedMetric.content (shareMetric m₁ b₁ i) (shareMetric m₂ b₂ j) := by
  unfold shareMetric
  rw [hshare, h.title]
  cases b₂.shareAttribute with
  | none => rfl
  | some uri =>
    simp only [Expression.share_congr h]
    exact generate_congr h i j false _ _ _ _

/-- The metric that is compared agrees, and both are referred to by the same text. -/
theorem comparedMetric_congr (h : m₁.AsksLike m₂) (i j : Int) :
    AgreeOn (fun compared => (compared.1.content, compared.2)) (comparedMetric m₁ i)
      (comparedMetric m₂ j) := by
  unfold comparedMetric
  rw [h.isDerived, Expression.aggregate_congr h, h.objectUri]
  split
  · rcases (aggregateMetric_congr h i j).cases with ⟨e, he₁, he₂⟩ | ⟨g₁, g₂, hg₁, hg₂, hcontent⟩
    · rw [he₁, he₂]
      rfl
    · rw [hg₁, hg₂]
      show Except.ok (g₁.content, _) = Except.ok (g₂.content, _)
      rw [hcontent]
  · show Except.ok (_, _) = Except.ok (_, _)
    rw [GeneratedMetric.content, GeneratedMetric.content, referenceMetric, referenceMetric,
      h.objectUri]

theorem previousPair_congr (h : m₁.AsksLike m₂) (i j : Int)
    (hdate : b₁.dateAttribute = b₂.dateAttribute) :
    AgreeOn (List.map GeneratedMetric.content) (previousPair m₁ b₁ i) (previousPair m₂ b₂ j) := by
  unfold previousPair
  rw [hdate, h.title]
  cases b₂.dateAttribute with
  | none => rfl
  | some date =>
    rcases (comparedMetric_congr h i j).cases with
      ⟨e, he₁, he₂⟩ | ⟨⟨g₁, inner₁⟩, ⟨g₂, inner₂⟩, hg₁, hg₂, hview⟩
    · simp only [he₁, he₂]
      rfl
    · obtain ⟨hcontent, hinner⟩ := Prod.mk.inj hview
      have hearlier : AgreeOn GeneratedMetric.content
          (previousMetric m₁ date inner₁ m₁.format i)
          (previousMetric m₂ date inner₂ m₂.format j) := by
        simp only at hinner
        rw [previousMetric, previousMetric, hinner, h.title, h.format]
        exact generate_congr h i j true _ _ _ _
      simp only [hg₁, hg₂]
      exact hearlier.cons hcontent

theorem previousSharePair_congr (h : m₁.AsksLike m₂) (i j : Int)
    (hdate : b₁.dateAttribute = b₂.dateAttribute)
    (hshare : b₁.shareAttribute = b₂.shareAttribute) :
    AgreeOn (List.map GeneratedMetric.content) (previousSharePair m₁ b₁ i)
      (previousSharePair m₂ b₂ j) := by
  unfold previousSharePair
  rw [hdate, h.title]
  cases b₂.dateAttribute with
  | none => rfl
  | some date =>
    have hearlier : AgreeOn GeneratedMetric.content
        (previousMetric m₁ date ("(" ++ Expression.share m₁ b₁.shareAttribute ++ ")")
          (some (.text shareFormat)) i)
        (previousMetric m₂ date ("(" ++ Expression.share m₂ b₂.shareAttribute ++ ")")
          (some (.text shareFormat)) j) := by
      rw [previousMetric, previousMetric, Expression.share_congr h, hshare, h.title]
      exact generate_congr h i j true _ _ _ _
    rcases (shareMetric_congr h i j hshare).cases with
      ⟨e, he₁, he₂⟩ | ⟨g₁, g₂, hg₁, hg₂, hcontent⟩
    · simp only [he₁, he₂]
      rfl
    · simp only [hg₁, hg₂]
      exact hearlier.cons hcontent

end Construction

namespace RuleBook

variable {m₁ m₂ : Measure} {b₁ b₂ : Buckets}

/-- Where the columns of single measures agree unless there is a flaw, so do those of all measures,
one after another. -/
theorem metricsFrom_agreeUnless {β : Type} {flawed : Prop} {view : GeneratedMetric → β}
    {book : RuleBook} {related : Measure → Measure → Prop} {measures₁ measures₂ : List Measure}
    (hone : ∀ m₁ m₂, related m₁ m₂ → ∀ index, AgreeUnless flawed (List.map view)
      (book.metricsOf b₁ index m₁) (book.metricsOf b₂ index m₂))
    (h : List.Forall₂ related measures₁ measures₂) (index : Int) :
    AgreeUnless flawed (List.map view) (book.metricsFrom b₁ index measures₁)
      (book.metricsFrom b₂ index measures₂) := by
  induction h generalizing index with
  | nil => exact .of_agreeOn rfl
  | cons hm _ ih =>
    rw [metricsFrom, metricsFrom]
    rcases (hone _ _ hm index).cases with
      ⟨hflawed, halves, he₁⟩ | ⟨e, he₁, he₂⟩ | ⟨first₁, first₂, hfirst₁, hfirst₂, hview⟩
    · rw [he₁]
      exact Or.inl ⟨hflawed, halves, rfl⟩
    · rw [he₁, he₂]
      exact .of_agreeOn rfl
    · rw [hfirst₁, hfirst₂]
      rcases (ih (index + 1)).cases with
        ⟨hflawed, halves, he₁⟩ | ⟨e, he₁, he₂⟩ | ⟨later₁, later₂, hlater₁, hlater₂, hviews⟩
      · simp only [he₁]
        exact Or.inl ⟨hflawed, halves, rfl⟩
      · simp only [he₁, he₂]
        exact .of_agreeOn rfl
      · simp only [hlater₁, hlater₂]
        refine .of_agreeOn ?_
        show Except.ok _ = Except.ok _
        rw [List.map_append, List.map_append, hview, hviews]

/-- Where the columns of single measures agree, those of all measures agree. -/
theorem metricsFrom_agree {β : Type} {view : GeneratedMetric → β} {book : RuleBook}
    {related : Measure → Measure → Prop} {measures₁ measures₂ : List Measure}
    (hone : ∀ m₁ m₂, related m₁ m₂ → ∀ index,
      AgreeOn (List.map view) (book.metricsOf b₁ index m₁) (book.metricsOf b₂ index m₂))
    (h : List.Forall₂ related measures₁ measures₂) (index : Int) :
    AgreeOn (List.map view) (book.metricsFrom b₁ index measures₁)
      (book.metricsFrom b₂ index measures₂) :=
  (metricsFrom_agreeUnless (fun m₁ m₂ hm i => .of_agreeOn (hone m₁ m₂ hm i)) h index).resolve_left
    fun hflawed => hflawed.1

/-! ## The standard rules -/

theorem dispatch_standard_congr (h : m₁.AsksLike m₂) :
    standard.dispatch m₁ = standard.dispatch m₂ := by
  rw [dispatch_standard, dispatch_standard, h.showsPrevious, h.showsShare, h.isDerived, h.kind,
    h.title, h.objectUri]

/-- The construction that is chosen for a measure asks for the date only when the measure shows its
previous period, and for the attribute of the total only when it shows a share. -/
theorem build_congr (h : m₁.AsksLike m₂)
    (hdate : m₁.showsPrevious = true → b₁.dateAttribute = b₂.dateAttribute)
    (hshare : m₁.showsShare = true → b₁.shareAttribute = b₂.shareAttribute) (i j : Int)
    {c : Construction} (hchosen : standard.dispatch m₁ = .ok c) :
    AgreeOn (List.map GeneratedMetric.content) (c.build m₁ b₁ i) (c.build m₂ b₂ j) := by
  rw [dispatch_standard_eq_ok_iff] at hchosen
  cases c with
  | reference =>
    show Except.ok [(_, _, _)] = Except.ok [(_, _, _)]
    rw [Construction.referenceMetric, Construction.referenceMetric, h.objectUri]
  | aggregate => exact (Construction.aggregateMetric_congr h i j).singleton
  | share => exact (Construction.shareMetric_congr h i j (hshare hchosen.2)).singleton
  | previous => exact Construction.previousPair_congr h i j (hdate hchosen.1)
  | previousShare =>
    exact Construction.previousSharePair_congr h i j (hdate hchosen.1) (hshare hchosen.2)

/-- Measures that ask for the same are made into the same metrics, wherever they stand: in whatever
charts, at whatever positions, however they are sorted, and beside whatever other measures,
categories and filters. The standard rules choose the same construction for both or reject both, and
what is chosen fails for both with the same reason, or makes metrics for both that agree one by one
on their names, their definitions and on which of them are previous periods. Only where the measures
show a previous period or a share do the buckets have to give the same date or the same attribute of
the total. -/
theorem standard_metrics_agree (h : m₁.AsksLike m₂)
    (hdate : m₁.showsPrevious = true → b₁.dateAttribute = b₂.dateAttribute)
    (hshare : m₁.showsShare = true → b₁.shareAttribute = b₂.shareAttribute) (i j : Int) :
    standard.dispatch m₁ = standard.dispatch m₂ ∧
      ∀ c, standard.dispatch m₁ = .ok c →
        (∃ e, c.build m₁ b₁ i = .error e ∧ c.build m₂ b₂ j = .error e) ∨
          ∃ gs₁ gs₂, c.build m₁ b₁ i = .ok gs₁ ∧ c.build m₂ b₂ j = .ok gs₂ ∧
            gs₁.map GeneratedMetric.content = gs₂.map GeneratedMetric.content := by
  refine ⟨dispatch_standard_congr h, ?_⟩
  intro c hchosen
  exact (build_congr h hdate hshare i j hchosen).cases

/-- A share and its previous period over the same attributes, which stand in other categories. The
second measure is sorted, writes its aggregation in capitals, and has filters that restrict
nothing. -/
theorem standard_metrics_agree_share :
    let f : AttributeFilter :=
      ⟨some "/gdc/md/p1/obj/2", some "/gdc/md/p1/obj/3", ⟨["/gdc/md/p1/obj/2/elements?id=1"], true⟩⟩
    let m₁ : Measure :=
      ⟨"/gdc/md/p1/obj/5", "fact", some "sum", some "Revenue", some (.text "#,##0"), none, true,
        true, [⟨some f, none⟩]⟩
    let m₂ : Measure :=
      { m₁ with
        aggregation := some "SUM", sort := some (.plain .ascending)
        filters := [⟨some { f with selection := ⟨[], false⟩ }, none⟩,
          ⟨some { f with displayForm := none }, none⟩] }
    let b₁ : Buckets := ⟨[m₁], [⟨"/gdc/md/p1/obj/10", "date", some "/gdc/md/p1/obj/11", none⟩], []⟩
    let b₂ : Buckets :=
      ⟨[m₂, m₁, m₂],
        [⟨"/gdc/md/p1/obj/20", "attribute", some "/gdc/md/p1/obj/11", none⟩,
          ⟨"/gdc/md/p1/obj/10", "date", some "/gdc/md/p1/obj/11", some .descending⟩], []⟩
    standard.dispatch m₁ = standard.dispatch m₂ ∧
      ∃ gs₁ gs₂, Construction.build .previousShare m₁ b₁ 0 = .ok gs₁ ∧
        Construction.build .previousShare m₂ b₂ 2 = .ok gs₂ ∧
        gs₁.map GeneratedMetric.content = gs₂.map GeneratedMetric.content := by
  intro f m₁ m₂ b₁ b₂
  have hasks : m₁.AsksLike m₂ :=
    ⟨rfl, rfl, by decide, rfl, rfl, rfl, rfl, by decide⟩
  have hdate : m₁.showsPrevious = true → b₁.dateAttribute = b₂.dateAttribute := fun _ => rfl
  have hshare : m₁.showsShare = true → b₁.shareAttribute = b₂.shareAttribute := fun _ => by
    decide +kernel
  obtain ⟨hdispatch, hagree⟩ := standard_metrics_agree hasks hdate hshare 0 2
  have hsome : (Construction.build .previousShare m₁ b₁ 0).toOption.isSome = true := by
    decide +kernel
  obtain ⟨gs, hgs⟩ := Option.isSome_iff_exists.mp hsome
  rcases hagree .previousShare rfl with ⟨e, h₁, -⟩ | hmade
  · rw [h₁] at hgs
    cases hgs
  · exact ⟨hdispatch, hmade⟩

end RuleBook

end ChartQuery
