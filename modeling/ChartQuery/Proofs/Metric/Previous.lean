/-
# Measures without their previous period

A construction that shows a previous period makes the compared metric itself; it does not ask the
rules again. Showing no previous period leaves the choice to the rules. Both ways lead to the same
metric as long as the kind of the measure is one that the rules know, so that not showing previous
periods only takes their columns away.
-/

import ChartQuery.Proofs.Metric.Dispatch

namespace ChartQuery

namespace Measure

/-- The measure without its previous period. -/
def withoutPrevious (m : Measure) : Measure :=
  { m with showsPrevious := false }

/-- The kind of the measure is one of those that the rules ask for. -/
def HasKnownKind (m : Measure) : Prop :=
  m.kind = factKind ∨ m.kind = attributeKind ∨ m.kind = metricKind

instance (m : Measure) : Decidable m.HasKnownKind := by
  unfold HasKnownKind
  infer_instance

/-- A measure of a known kind that needs no metric of its own is a metric of the project. -/
theorem HasKnownKind.eq_metricKind {m : Measure} (hkind : m.HasKnownKind)
    (hplain : m.isDerived = false) : m.kind = metricKind := by
  rcases hkind with h | h | h
  · simp [isDerived, h] at hplain
  · simp [isDerived, h] at hplain
  · exact h

end Measure

namespace Construction

variable {m : Measure} {b : Buckets} {index : Int} {gs : List GeneratedMetric}

/-- The construction of what a previous period is compared with. -/
def compared (m : Measure) : Construction → Construction
  | .reference => .reference
  | .aggregate => .aggregate
  | .share => .share
  | .previous => if m.isDerived then .aggregate else .reference
  | .previousShare => .share

theorem isPrevious_of_generate {isPrevious : Bool} {token expression title : Text}
    {format : Option NumberFormat} {g : GeneratedMetric}
    (h : generate m index isPrevious token expression title format = .ok g) :
    g.isPrevious = isPrevious := by
  obtain ⟨identifier, text, -, -, rfl⟩ := generate_eq_ok h
  rfl

theorem isPrevious_of_shareMetric {g : GeneratedMetric} (h : shareMetric m b index = .ok g) :
    g.isPrevious = false := by
  obtain ⟨uri, -, hshare⟩ := shareMetric_eq_ok h
  exact isPrevious_of_generate hshare

/-- The compared metric is made on its own as it is made beside its previous period. -/
theorem build_compared_previous {g : GeneratedMetric} {inner : Text}
    (h : comparedMetric m index = .ok (g, inner)) :
    (compared m .previous).build m b index = .ok [g] ∧ g.isPrevious = false := by
  rcases comparedMetric_eq_ok h with ⟨hderived, haggregate, -⟩ | ⟨hplain, rfl, -⟩
  · rw [compared, if_pos hderived, build, haggregate]
    exact ⟨rfl, isPrevious_of_generate haggregate⟩
  · rw [compared, if_neg (by simp [hplain])]
    exact ⟨rfl, rfl⟩

/-- The metrics of a construction, less the previous periods, are those of the construction of what
is compared. -/
theorem build_compared {c : Construction} (h : c.build m b index = .ok gs) :
    (c.compared m).build m b index = .ok (gs.filter fun g => !g.isPrevious) := by
  cases c with
  | reference =>
    cases h
    rfl
  | aggregate =>
    obtain ⟨g, haggregate, rfl⟩ := singleton_eq_ok h
    have hown : g.isPrevious = false := isPrevious_of_generate haggregate
    rw [compared, h]
    simp [hown]
  | share =>
    obtain ⟨g, hshare, rfl⟩ := singleton_eq_ok h
    have hown : g.isPrevious = false := isPrevious_of_shareMetric hshare
    rw [compared, h]
    simp [hown]
  | previous =>
    obtain ⟨date, inner, earlier, g, -, hcompared, hearlier, rfl⟩ := previousPair_eq_ok h
    have hprevious : earlier.isPrevious = true := isPrevious_of_generate hearlier
    obtain ⟨hbuild, hown⟩ := build_compared_previous (b := b) hcompared
    rw [hbuild]
    simp [hprevious, hown]
  | previousShare =>
    obtain ⟨date, earlier, g, -, hshare, hearlier, rfl⟩ := previousSharePair_eq_ok h
    have hprevious : earlier.isPrevious = true := isPrevious_of_generate hearlier
    have hown : g.isPrevious = false := isPrevious_of_shareMetric hshare
    rw [compared, build, hshare]
    simp [hprevious, hown, Except.map]

theorem generate_withoutPrevious (m : Measure) (index : Int) (isPrevious : Bool)
    (token expression title : Text) (format : Option NumberFormat) :
    generate m.withoutPrevious index isPrevious token expression title format =
      generate m index isPrevious token expression title format :=
  rfl

theorem share_withoutPrevious (m : Measure) :
    Expression.share m.withoutPrevious = Expression.share m :=
  rfl

theorem comparedMetric_withoutPrevious (m : Measure) (index : Int) :
    comparedMetric m.withoutPrevious index = comparedMetric m index :=
  rfl

/-- A construction looks neither at whether the measure shows its previous period nor at the other
measures. -/
theorem build_withoutPrevious (c : Construction) (m : Measure) (b : Buckets)
    (measures : List Measure) (index : Int) :
    c.build m.withoutPrevious { b with measures := measures } index = c.build m b index := by
  have hdate : Buckets.dateAttribute { b with measures := measures } = b.dateAttribute := rfl
  have hshare : Buckets.shareAttribute { b with measures := measures } = b.shareAttribute := rfl
  cases c with
  | reference => rfl
  | aggregate => rfl
  | share => rfl
  | previous =>
    simp only [build, previousPair, previousMetric, hdate, comparedMetric_withoutPrevious,
      generate_withoutPrevious]
    rfl
  | previousShare =>
    simp only [build, previousSharePair, previousMetric, shareMetric, hdate, hshare,
      share_withoutPrevious, generate_withoutPrevious]
    rfl

end Construction

namespace RuleBook

variable {m : Measure} {b : Buckets} {index : Int} {gs : List GeneratedMetric}

/-- A measure that does not show its previous period gets the construction of what it would be
compared with. -/
theorem dispatch_withoutPrevious (hkind : m.HasKnownKind) {c : Construction}
    (h : standard.dispatch m = .ok c) :
    standard.dispatch m.withoutPrevious = .ok (c.compared m) := by
  rw [dispatch_standard_eq_ok_iff] at h ⊢
  cases c with
  | reference => exact ⟨rfl, h.2⟩
  | aggregate => exact ⟨rfl, h.2⟩
  | share => exact ⟨rfl, h.2⟩
  | previousShare => exact ⟨rfl, h.2⟩
  | previous =>
    -- The rules are asked what the construction decided by itself.
    cases hderived : m.isDerived with
    | true =>
      rw [Construction.compared, if_pos hderived]
      exact ⟨rfl, h.2, hderived⟩
    | false =>
      rw [Construction.compared, if_neg (by simp [hderived])]
      exact ⟨rfl, h.2, hderived, hkind.eq_metricKind hderived⟩

/-- One measure without its previous period has the metrics that it had, less the previous ones. -/
theorem metricsOf_withoutPrevious (hkind : m.HasKnownKind) (measures : List Measure)
    (h : standard.metricsOf b index m = .ok gs) :
    standard.metricsOf { b with measures := measures } index m.withoutPrevious =
      .ok (gs.filter fun g => !g.isPrevious) := by
  obtain ⟨c, hdispatch, hbuild⟩ := exists_build_of_metricsOf h
  rw [metricsOf, dispatch_withoutPrevious hkind hdispatch]
  simp only [Construction.build_withoutPrevious]
  exact Construction.build_compared hbuild

/-- So have all measures without their previous periods, in the same order. -/
theorem metricsFrom_withoutPrevious {measures : List Measure} (others : List Measure)
    (hkinds : ∀ m ∈ measures, m.HasKnownKind)
    (h : standard.metricsFrom b index measures = .ok gs) :
    standard.metricsFrom { b with measures := others } index
        (measures.map Measure.withoutPrevious) =
      .ok (gs.filter fun g => !g.isPrevious) := by
  induction measures generalizing index gs with
  | nil =>
    cases h
    rfl
  | cons m rest ih =>
    obtain ⟨first, later, hfirst, hlater, rfl⟩ := metricsFrom_cons_eq_ok h
    have hm := metricsOf_withoutPrevious (hkinds m List.mem_cons_self) others hfirst
    have hrest := ih (fun x hx => hkinds x (List.mem_cons_of_mem m hx)) hlater
    rw [List.map_cons, metricsFrom, hm]
    simp only [hrest, List.filter_append]

end RuleBook

end ChartQuery
