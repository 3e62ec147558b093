/-
# Columns of all measures

A rule book chooses a construction for every measure, and the columns follow the order of the
measures. Whatever the rules ask, every column is made from the measure at its position, and every
measure has a column.
-/

import ChartQuery.Metric.Dispatch
import ChartQuery.Proofs.Metric.Construction

namespace ChartQuery.RuleBook

/-- The standard rules look at the flags first, then at whether the measure needs a metric of its
own, and only then at its kind. -/
theorem dispatch_standard (m : Measure) :
    standard.dispatch m =
      if m.showsPrevious && m.showsShare then .ok .previousShare
      else if m.showsPrevious then .ok .previous
      else if m.showsShare then .ok .share
      else if m.isDerived then .ok .aggregate
      else if m.kind = Measure.metricKind then .ok .reference
      else .error (.noRule m.title m.objectUri) := by
  unfold dispatch standard
  simp only [List.find?_cons, Rule.takes, List.all_cons, List.all_nil, Trait.holds, Bool.and_true]
  cases m.showsPrevious <;> cases m.showsShare <;> cases m.isDerived <;>
    by_cases hkind : m.kind = Measure.metricKind <;>
      simp [hkind, beq_eq_false_iff_ne.mpr]

/-- The measures for which the standard rules choose a construction. -/
def Chooses (m : Measure) : Construction → Prop
  | .previousShare => m.showsPrevious = true ∧ m.showsShare = true
  | .previous => m.showsPrevious = true ∧ m.showsShare = false
  | .share => m.showsPrevious = false ∧ m.showsShare = true
  | .aggregate => m.showsPrevious = false ∧ m.showsShare = false ∧ m.isDerived = true
  | .reference =>
    m.showsPrevious = false ∧ m.showsShare = false ∧ m.isDerived = false ∧
      m.kind = Measure.metricKind

theorem dispatch_standard_eq_ok_iff {m : Measure} {c : Construction} :
    standard.dispatch m = .ok c ↔ Chooses m c := by
  rw [dispatch_standard]
  cases hprevious : m.showsPrevious <;> cases hshare : m.showsShare <;>
    cases hderived : m.isDerived <;> by_cases hkind : m.kind = Measure.metricKind <;>
      cases c <;> simp [Chooses, hprevious, hshare, hderived, hkind]

variable {book : RuleBook} {b : Buckets}

/-- The columns of a measure are those of the construction that is chosen for it. -/
theorem exists_build_of_metricsOf {m : Measure} {index : Int} {gs : List GeneratedMetric}
    (h : book.metricsOf b index m = .ok gs) :
    ∃ c, book.dispatch m = .ok c ∧ c.build m b index = .ok gs := by
  unfold metricsOf at h
  split at h
  · cases h
  · next c hdispatch => exact ⟨c, hdispatch, h⟩

theorem metricsOf_eq_ok {m : Measure} {index : Int} {gs : List GeneratedMetric}
    (h : book.metricsOf b index m = .ok gs) : gs ≠ [] ∧ ∀ g ∈ gs, MadeFrom m index g := by
  obtain ⟨c, -, hbuild⟩ := exists_build_of_metricsOf h
  exact Construction.madeFrom_of_build hbuild

/-- The columns of several measures are those of the first, then those of the others. -/
theorem metricsFrom_cons_eq_ok {m : Measure} {rest : List Measure} {index : Int}
    {gs : List GeneratedMetric} (h : book.metricsFrom b index (m :: rest) = .ok gs) :
    ∃ first others, book.metricsOf b index m = .ok first ∧
      book.metricsFrom b (index + 1) rest = .ok others ∧ gs = first ++ others := by
  rw [metricsFrom] at h
  split at h
  · cases h
  · next first hfirst =>
    split at h
    · cases h
    · next others hothers =>
      cases h
      exact ⟨first, others, hfirst, hothers, rfl⟩

/-- Every column is one of those of the measure at its position. -/
theorem exists_metricsOf_of_mem {measures : List Measure} {index : Int}
    {gs : List GeneratedMetric} (h : book.metricsFrom b index measures = .ok gs)
    {g : GeneratedMetric} (hg : g ∈ gs) :
    ∃ (position : Nat) (m : Measure) (own : List GeneratedMetric),
      measures[position]? = some m ∧ book.metricsOf b (index + position) m = .ok own ∧ g ∈ own := by
  induction measures generalizing index gs with
  | nil =>
    cases h
    cases hg
  | cons m rest ih =>
    obtain ⟨first, others, hfirst, hothers, rfl⟩ := metricsFrom_cons_eq_ok h
    rcases List.mem_append.mp hg with hg | hg
    · exact ⟨0, m, first, rfl, by simpa using hfirst, hg⟩
    · obtain ⟨position, found, own, hfound, hown, hg⟩ := ih hothers hg
      refine ⟨position + 1, found, own, by simpa using hfound, ?_, hg⟩
      have hindex : index + ((position + 1 : Nat) : Int) = index + 1 + position := by omega
      rw [hindex]
      exact hown

/-- The columns of every measure are among those of all measures. -/
theorem exists_metricsOf_of_measure {measures : List Measure} {index : Int}
    {gs : List GeneratedMetric} (h : book.metricsFrom b index measures = .ok gs) {position : Nat}
    {m : Measure} (hm : measures[position]? = some m) :
    ∃ own, book.metricsOf b (index + position) m = .ok own ∧ own ⊆ gs := by
  induction measures generalizing index gs position with
  | nil => simp at hm
  | cons first rest ih =>
    obtain ⟨columns, others, hcolumns, hothers, rfl⟩ := metricsFrom_cons_eq_ok h
    cases position with
    | zero =>
      have hfirst : first = m := by simpa using hm
      exact ⟨columns, by simpa [← hfirst] using hcolumns, List.subset_append_left columns others⟩
    | succ position =>
      obtain ⟨own, hown, hsubset⟩ := ih hothers (by simpa using hm)
      have hindex : index + ((position + 1 : Nat) : Int) = index + 1 + position := by omega
      rw [hindex]
      exact ⟨own, hown, List.Subset.trans hsubset (List.subset_append_right columns others)⟩

/-- Every column is made from the measure at its position. -/
theorem exists_madeFrom_of_mem {measures : List Measure} {index : Int}
    {gs : List GeneratedMetric} (h : book.metricsFrom b index measures = .ok gs)
    {g : GeneratedMetric} (hg : g ∈ gs) :
    ∃ (position : Nat) (m : Measure), measures[position]? = some m ∧
      MadeFrom m (index + position) g := by
  obtain ⟨position, m, own, hm, hown, hg⟩ := exists_metricsOf_of_mem h hg
  exact ⟨position, m, hm, (metricsOf_eq_ok hown).2 g hg⟩

/-- Every measure has a column. -/
theorem exists_mem_of_measure {measures : List Measure} {index : Int}
    {gs : List GeneratedMetric} (h : book.metricsFrom b index measures = .ok gs) {m : Measure}
    (hm : m ∈ measures) : ∃ g ∈ gs, ∃ position, MadeFrom m position g := by
  obtain ⟨position, hposition⟩ := List.mem_iff_getElem?.mp hm
  obtain ⟨own, hown, hsubset⟩ := exists_metricsOf_of_measure h hposition
  obtain ⟨hne, hmade⟩ := metricsOf_eq_ok hown
  obtain ⟨g, hg⟩ := List.exists_mem_of_ne_nil own hne
  exact ⟨g, hsubset hg, index + position, hmade g hg⟩

end ChartQuery.RuleBook
