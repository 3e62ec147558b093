/-
# Metrics and their directions

How a measure is sorted enters its metrics in one place, the direction that each of them asks for.
Measures that ask for the same metrics, one by one and in one order, are made into the same metrics
but for these directions, or the first that fails fails for the same reason.
-/

import ChartQuery.Proofs.Metric.Request

namespace ChartQuery

/-- The measure without its sort setting. -/
def Measure.withoutSort (m : Measure) : Measure :=
  { m with sort := none }

/-- A metric without the direction that it asks for. -/
def GeneratedMetric.unsorted (g : GeneratedMetric) : GeneratedMetric :=
  { g with sort := none }

/-- Measures that differ in their sort settings ask for the same metrics. -/
theorem Measure.AsksLike.of_withoutSort {m₁ m₂ : Measure}
    (h : m₁.withoutSort = m₂.withoutSort) : m₁.AsksLike m₂ where
  objectUri := congrArg (fun m => m.objectUri) h
  kind := congrArg (fun m => m.kind) h
  aggregation := congrArg (fun m => m.plainAggregation) h
  title := congrArg (fun m => m.title) h
  format := congrArg (fun m => m.format) h
  showsPrevious := congrArg (fun m => m.showsPrevious) h
  showsShare := congrArg (fun m => m.showsShare) h
  restricted := congrArg (fun m => m.selections.map (·.restricted)) h

namespace GeneratedMetric

/-- Metrics of measures at one position differ in their directions only when they have the same
contents. -/
theorem map_unsorted_eq {gs₁ gs₂ : List GeneratedMetric} {index : Int}
    (h₁ : ∀ g ∈ gs₁, g.measureIndex = index) (h₂ : ∀ g ∈ gs₂, g.measureIndex = index)
    (h : gs₁.map content = gs₂.map content) :
    gs₁.map unsorted = gs₂.map unsorted := by
  let placed : Text × Option Definition × Bool → GeneratedMetric := fun content =>
    ⟨content.1, index, content.2.2, content.2.1, none⟩
  have hplaced : ∀ gs : List GeneratedMetric, (∀ g ∈ gs, g.measureIndex = index) →
      gs.map unsorted = (gs.map content).map placed := by
    intro gs hindex
    rw [List.map_map]
    refine List.map_congr_left fun g hg => ?_
    simp [placed, unsorted, content, hindex g hg]
  rw [hplaced gs₁ h₁, hplaced gs₂ h₂, h]

/-- Metrics that differ at most in their directions are the same when each asks for the direction
that one measure gives for it. -/
theorem eq_of_map_unsorted {gs₁ gs₂ : List GeneratedMetric} {m : Measure}
    (h₁ : ∀ g ∈ gs₁, g.sort = m.directionFor g.isPrevious)
    (h₂ : ∀ g ∈ gs₂, g.sort = m.directionFor g.isPrevious)
    (h : gs₁.map unsorted = gs₂.map unsorted) : gs₁ = gs₂ := by
  let sorted : GeneratedMetric → GeneratedMetric := fun g =>
    { g with sort := m.directionFor g.isPrevious }
  have hsorted : ∀ gs : List GeneratedMetric, (∀ g ∈ gs, g.sort = m.directionFor g.isPrevious) →
      gs = (gs.map unsorted).map sorted := by
    intro gs hsort
    rw [List.map_map]
    refine (List.map_congr_left (g := id) fun g hg => ?_).trans (List.map_id gs) |>.symm
    simp only [Function.comp_apply, sorted, unsorted, ← hsort g hg, id]
  rw [hsorted gs₁ h₁, hsorted gs₂ h₂, h]

end GeneratedMetric

namespace RuleBook

variable {m₁ m₂ : Measure} {b₁ b₂ : Buckets} {measures₁ measures₂ : List Measure}

/-- Measures at one position that ask for the same metrics have the same columns but for their
directions. -/
theorem metricsOf_congr (h : m₁.AsksLike m₂) (hdate : b₁.dateAttribute = b₂.dateAttribute)
    (hshare : b₁.shareAttribute = b₂.shareAttribute) (index : Int) :
    AgreeOn (List.map GeneratedMetric.unsorted) (standard.metricsOf b₁ index m₁)
      (standard.metricsOf b₂ index m₂) := by
  have hdispatch := dispatch_standard_congr h
  unfold metricsOf
  cases hchosen : standard.dispatch m₁ with
  | error e =>
    rw [← hdispatch, hchosen]
    rfl
  | ok c =>
    rw [← hdispatch, hchosen]
    rcases (build_congr h (fun _ => hdate) (fun _ => hshare) index index hchosen).cases with
      ⟨e, he₁, he₂⟩ | ⟨gs₁, gs₂, hgs₁, hgs₂, hcontent⟩
    · simp only [he₁, he₂]
      rfl
    · have hmade₁ := (Construction.madeFrom_of_build hgs₁).2
      have hmade₂ := (Construction.madeFrom_of_build hgs₂).2
      simp only [hgs₁, hgs₂]
      show Except.ok _ = Except.ok _
      rw [GeneratedMetric.map_unsorted_eq (fun g hg => (hmade₁ g hg).measureIndex_eq)
        (fun g hg => (hmade₂ g hg).measureIndex_eq) hcontent]

/-- So have all measures, one after another. -/
theorem metricsFrom_congr (h : List.Forall₂ Measure.AsksLike measures₁ measures₂)
    (hdate : b₁.dateAttribute = b₂.dateAttribute)
    (hshare : b₁.shareAttribute = b₂.shareAttribute) (index : Int) :
    AgreeOn (List.map GeneratedMetric.unsorted) (standard.metricsFrom b₁ index measures₁)
      (standard.metricsFrom b₂ index measures₂) :=
  metricsFrom_agree (fun _ _ hasks => metricsOf_congr hasks hdate hshare) h index

/-- Measures at one position that ask for the same metrics and are sorted alike have the same
columns. -/
theorem metricsOf_eq (h : m₁.AsksLike m₂) (hsort : m₁.sort = m₂.sort)
    (hdate : b₁.dateAttribute = b₂.dateAttribute)
    (hshare : b₁.shareAttribute = b₂.shareAttribute) (index : Int) :
    standard.metricsOf b₁ index m₁ = standard.metricsOf b₂ index m₂ := by
  have hdirection : m₁.directionFor = m₂.directionFor := by
    funext isPrevious
    rw [Measure.directionFor, Measure.directionFor, hsort]
  rcases (metricsOf_congr h hdate hshare index).cases with
    ⟨e, he₁, he₂⟩ | ⟨gs₁, gs₂, hgs₁, hgs₂, hunsorted⟩
  · rw [he₁, he₂]
  · have hsort₁ : ∀ g ∈ gs₁, g.sort = m₁.directionFor g.isPrevious := fun g hg =>
      ((metricsOf_eq_ok hgs₁).2 g hg).sort_eq
    have hsort₂ : ∀ g ∈ gs₂, g.sort = m₁.directionFor g.isPrevious := fun g hg =>
      hdirection ▸ ((metricsOf_eq_ok hgs₂).2 g hg).sort_eq
    rw [hgs₁, hgs₂, GeneratedMetric.eq_of_map_unsorted hsort₁ hsort₂ hunsorted]

/-- So have all measures, one after another. -/
theorem metricsFrom_eq
    (h : List.Forall₂ (fun m₁ m₂ => m₁.AsksLike m₂ ∧ m₁.sort = m₂.sort) measures₁ measures₂)
    (hdate : b₁.dateAttribute = b₂.dateAttribute)
    (hshare : b₁.shareAttribute = b₂.shareAttribute) (index : Int) :
    standard.metricsFrom b₁ index measures₁ = standard.metricsFrom b₂ index measures₂ := by
  induction h generalizing index with
  | nil => rfl
  | cons hm _ ih =>
    rw [metricsFrom, metricsFrom, metricsOf_eq hm.1 hm.2 hdate hshare index, ih]

end RuleBook

end ChartQuery
