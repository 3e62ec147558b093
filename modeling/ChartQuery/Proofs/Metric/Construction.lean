/-
# What constructions make

Every construction makes metrics of two sorts only: the object of a measure as it is, or a new
metric that is named after its own content. Everything that holds of both sorts holds of all columns
of a query, whatever rules chose the constructions.
-/

import ChartQuery.Metric.Construction
import ChartQuery.Proofs.Metric.Name

namespace ChartQuery

/-- What the measure at a position can be made into. -/
inductive MadeFrom (m : Measure) (index : Int) : GeneratedMetric → Prop
  | reference : MadeFrom m index (Construction.referenceMetric m index)
  | named (isPrevious : Bool) (token : Text) (d : Definition)
      (hname : MetricName.ofContent m token d.expression d.title d.format = .ok d.identifier) :
      MadeFrom m index ⟨d.identifier, index, isPrevious, some d, m.directionFor isPrevious⟩

namespace MadeFrom

variable {m : Measure} {index : Int} {g : GeneratedMetric}

/-- A metric carries the position of its measure. -/
theorem measureIndex_eq (h : MadeFrom m index g) : g.measureIndex = index := by
  cases h <;> rfl

/-- A metric asks for the direction that its measure gives for it. -/
theorem sort_eq (h : MadeFrom m index g) : g.sort = m.directionFor g.isPrevious := by
  cases h <;> rfl

/-- A metric is known by the identifier of its definition. -/
theorem identifier_eq (h : MadeFrom m index g) {d : Definition} (hd : g.definition = some d) :
    d.identifier = g.element := by
  cases h with
  | reference => cases hd
  | named isPrevious token definition hname =>
    cases hd
    rfl

/-- A metric with a definition is named after the content of that definition. -/
theorem exists_name (h : MadeFrom m index g) {d : Definition} (hd : g.definition = some d) :
    ∃ token, MetricName.ofContent m token d.expression d.title d.format = .ok d.identifier := by
  cases h with
  | reference => cases hd
  | named isPrevious token definition hname =>
    cases hd
    exact ⟨token, hname⟩

/-- A metric without a definition is the object of its measure. -/
theorem eq_reference (h : MadeFrom m index g) (hd : g.definition = none) :
    g = Construction.referenceMetric m index := by
  cases h with
  | reference => rfl
  | named isPrevious token definition hname => cases hd

/-- A metric has no name exactly when its measure has no uri: without a uri nothing can be named. -/
theorem element_eq_empty_iff (h : MadeFrom m index g) : g.element = "" ↔ m.objectUri = "" := by
  cases h with
  | reference => exact Iff.rfl
  | named isPrevious token definition hname =>
    constructor
    · intro hempty
      exact absurd hempty (MetricName.ofContent_ne_empty hname)
    · intro huri
      have hshort : m.objectUri.toList.count (.char '/') < 5 := by simp [huri]
      rw [MetricName.ofContent_of_short hshort] at hname
      cases hname

/-- A metric without a name is the object of its measure: what is generated has a name. -/
theorem eq_reference_of_nameless (h : MadeFrom m index g) (hnameless : g.element = "") :
    g = Construction.referenceMetric m index := by
  cases h with
  | reference => rfl
  | named isPrevious token definition hname =>
    exact absurd hnameless (MetricName.ofContent_ne_empty hname)

end MadeFrom

/-- The title of a metric made from the measure. -/
def Measure.titleOf (m : Measure) (isPrevious : Bool) : Text :=
  if isPrevious then Title.previous m.title else Title.base m.title

namespace Construction

variable {m : Measure} {b : Buckets} {index : Int}

/-- A definition takes over what it is made from, and its format is text. -/
theorem define_eq_ok {identifier expression title : Text} {format : Option NumberFormat}
    {d : Definition} (h : define identifier expression title format = .ok d) :
    ∃ text : Option Text,
      format = text.map .text ∧ d = ⟨identifier, expression, title, text⟩ := by
  unfold define at h
  split at h
  · cases h
    exact ⟨none, rfl, rfl⟩
  · next s =>
    cases h
    exact ⟨some s, rfl, rfl⟩
  · cases h

/-- A new metric is named after its content, and its definition is that content under its name. -/
theorem generate_eq_ok {isPrevious : Bool} {token expression title : Text}
    {format : Option NumberFormat} {g : GeneratedMetric}
    (h : generate m index isPrevious token expression title format = .ok g) :
    ∃ (identifier : Text) (text : Option Text), format = text.map .text ∧
      MetricName.ofContent m token expression title text = .ok identifier ∧
      g = ⟨identifier, index, isPrevious, some ⟨identifier, expression, title, text⟩,
        m.directionFor isPrevious⟩ := by
  unfold generate at h
  split at h
  · cases h
  · next identifier hname =>
    split at h
    · cases h
    · next definition hdefinition =>
      cases h
      obtain ⟨text, rfl, rfl⟩ := define_eq_ok hdefinition
      have hformat : (text.map NumberFormat.text).map formatText = text := by
        cases text <;> rfl
      rw [hformat] at hname
      exact ⟨identifier, text, rfl, hname, rfl⟩

theorem madeFrom_of_generate {isPrevious : Bool} {token expression title : Text}
    {format : Option NumberFormat} {g : GeneratedMetric}
    (h : generate m index isPrevious token expression title format = .ok g) :
    MadeFrom m index g := by
  obtain ⟨identifier, text, -, hname, rfl⟩ := generate_eq_ok h
  exact MadeFrom.named isPrevious token ⟨identifier, expression, title, text⟩ hname

/-- A share is taken over the attribute that the buckets give for it. -/
theorem shareMetric_eq_ok {g : GeneratedMetric} (h : shareMetric m b index = .ok g) :
    ∃ uri, b.shareAttribute = some uri ∧
      generate m index false shareToken (Expression.share m (some uri)) (Title.base m.title)
        (some (.text shareFormat)) = .ok g := by
  unfold shareMetric at h
  split at h
  · cases h
  · next uri huri => exact ⟨uri, huri, h⟩

/-- A derived measure is compared by its aggregate, every other one by its object. -/
theorem comparedMetric_eq_ok {g : GeneratedMetric} {inner : Text}
    (h : comparedMetric m index = .ok (g, inner)) :
    (m.isDerived = true ∧ aggregateMetric m index = .ok g ∧
        inner = "(" ++ Expression.aggregate m ++ ")") ∨
      (m.isDerived = false ∧ g = referenceMetric m index ∧
        inner = Expression.bracketed m.objectUri) := by
  unfold comparedMetric at h
  split at h
  · next hderived =>
    split at h
    · cases h
    · next aggregated haggregate =>
      cases h
      exact Or.inl ⟨hderived, haggregate, rfl⟩
  · next hplain =>
    cases h
    exact Or.inr ⟨by simpa using hplain, rfl, rfl⟩

/-- The pair for a previous period is that period over the given date, then what it is compared
with. -/
theorem previousPair_eq_ok {gs : List GeneratedMetric} (h : previousPair m b index = .ok gs) :
    ∃ date inner earlier compared, b.dateAttribute = some date ∧
      comparedMetric m index = .ok (compared, inner) ∧
      previousMetric m date inner m.format index = .ok earlier ∧ gs = [earlier, compared] := by
  unfold previousPair at h
  split at h
  · cases h
  · next date hdate =>
    split at h
    · cases h
    · next compared inner hcompared =>
      split at h
      · cases h
      · next earlier hearlier =>
        cases h
        exact ⟨date, inner, earlier, compared, hdate, hcompared, hearlier, rfl⟩

/-- The pair for the previous period of a share is that period, then the share. -/
theorem previousSharePair_eq_ok {gs : List GeneratedMetric}
    (h : previousSharePair m b index = .ok gs) :
    ∃ date earlier compared, b.dateAttribute = some date ∧ shareMetric m b index = .ok compared ∧
      previousMetric m date ("(" ++ Expression.share m b.shareAttribute ++ ")")
        (some (.text shareFormat)) index = .ok earlier ∧ gs = [earlier, compared] := by
  unfold previousSharePair at h
  split at h
  · cases h
  · next date hdate =>
    split at h
    · cases h
    · next compared hcompared =>
      simp only at h
      split at h
      · cases h
      · next earlier hearlier =>
        cases h
        exact ⟨date, earlier, compared, hdate, hcompared, hearlier, rfl⟩

/-- A metric comes from a measure: it is the object of the measure as it is, or a new metric under
the title that the measure gives for it. -/
inductive Generated (m : Measure) (index : Int) : GeneratedMetric → Prop
  | reference : Generated m index (referenceMetric m index)
  | new (isPrevious : Bool) {token expression : Text} {format : Option NumberFormat}
      {g : GeneratedMetric}
      (hgenerate :
        generate m index isPrevious token expression (m.titleOf isPrevious) format = .ok g) :
      Generated m index g

theorem Generated.madeFrom {g : GeneratedMetric} (h : Generated m index g) :
    MadeFrom m index g := by
  cases h with
  | reference => exact MadeFrom.reference
  | new isPrevious hgenerate => exact madeFrom_of_generate hgenerate

theorem generated_of_aggregateMetric {g : GeneratedMetric} (h : aggregateMetric m index = .ok g) :
    Generated m index g :=
  .new false h

theorem generated_of_shareMetric {g : GeneratedMetric} (h : shareMetric m b index = .ok g) :
    Generated m index g := by
  obtain ⟨uri, -, hshare⟩ := shareMetric_eq_ok h
  exact .new false hshare

theorem generated_of_comparedMetric {g : GeneratedMetric} {inner : Text}
    (h : comparedMetric m index = .ok (g, inner)) : Generated m index g := by
  rcases comparedMetric_eq_ok h with ⟨-, haggregate, -⟩ | ⟨-, rfl, -⟩
  · exact generated_of_aggregateMetric haggregate
  · exact Generated.reference

theorem generated_of_previousMetric {date inner : Text} {format : Option NumberFormat}
    {g : GeneratedMetric} (h : previousMetric m date inner format index = .ok g) :
    Generated m index g :=
  .new true h

theorem madeFrom_of_shareMetric {g : GeneratedMetric} (h : shareMetric m b index = .ok g) :
    MadeFrom m index g :=
  (generated_of_shareMetric h).madeFrom

theorem madeFrom_of_comparedMetric {g : GeneratedMetric} {inner : Text}
    (h : comparedMetric m index = .ok (g, inner)) : MadeFrom m index g :=
  (generated_of_comparedMetric h).madeFrom

/-- A construction of a single metric succeeds with that metric. -/
theorem singleton_eq_ok {x : Except CompileFailure GeneratedMetric} {gs : List GeneratedMetric}
    (h : x.map ([·]) = .ok gs) : ∃ g, x = .ok g ∧ gs = [g] := by
  cases x with
  | error e => cases h
  | ok g =>
    cases h
    exact ⟨g, rfl, rfl⟩

/-- A construction that succeeds makes at least one metric, and each comes from the measure. -/
theorem generated_of_build {c : Construction} {gs : List GeneratedMetric}
    (h : c.build m b index = .ok gs) : gs ≠ [] ∧ ∀ g ∈ gs, Generated m index g := by
  cases c with
  | reference =>
    cases h
    exact ⟨by simp, by simpa using Generated.reference⟩
  | aggregate =>
    obtain ⟨g, haggregate, rfl⟩ := singleton_eq_ok h
    exact ⟨by simp, by simpa using generated_of_aggregateMetric haggregate⟩
  | share =>
    obtain ⟨g, hshare, rfl⟩ := singleton_eq_ok h
    exact ⟨by simp, by simpa using generated_of_shareMetric hshare⟩
  | previous =>
    obtain ⟨date, inner, earlier, compared, -, hcompared, hearlier, rfl⟩ := previousPair_eq_ok h
    exact ⟨by simp, by
      simp [generated_of_previousMetric hearlier, generated_of_comparedMetric hcompared]⟩
  | previousShare =>
    obtain ⟨date, earlier, compared, -, hcompared, hearlier, rfl⟩ := previousSharePair_eq_ok h
    exact ⟨by simp, by
      simp [generated_of_previousMetric hearlier, generated_of_shareMetric hcompared]⟩

theorem madeFrom_of_build {c : Construction} {gs : List GeneratedMetric}
    (h : c.build m b index = .ok gs) : gs ≠ [] ∧ ∀ g ∈ gs, MadeFrom m index g := by
  obtain ⟨hne, hgenerated⟩ := generated_of_build h
  exact ⟨hne, fun g hg => (hgenerated g hg).madeFrom⟩

end Construction

end ChartQuery
