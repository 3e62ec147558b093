/-
# Arranging definitions keeps them

Arranging drops definitions and moves them, but it makes none: what comes out is a rearrangement of
the first definition of each identifier. No identifier is left out and none is defined twice.
-/

import ChartQuery.Metric.Dependency
import Mathlib.Data.List.Nodup
import Mathlib.Data.List.Perm.Basic

namespace ChartQuery.Definition

/-! ## The first definition of each identifier -/

/-- The kept definitions are given ones whose identifier did not come before. -/
theorem mem_of_mem_firstsAfter {seen : List Text} {ds : List Definition} {d : Definition}
    (h : d ∈ firstsAfter seen ds) : d ∈ ds ∧ d.identifier ∉ seen := by
  induction ds generalizing seen with
  | nil => cases h
  | cons e rest ih =>
    rw [firstsAfter] at h
    split at h
    · have hrest := ih h
      exact ⟨List.mem_cons_of_mem e hrest.1, hrest.2⟩
    · next hseen =>
      rcases List.mem_cons.mp h with rfl | h
      · exact ⟨List.mem_cons_self, by simpa using hseen⟩
      · obtain ⟨hmem, hnot⟩ := ih h
        exact ⟨List.mem_cons_of_mem e hmem, fun hin => hnot (List.mem_cons_of_mem _ hin)⟩

/-- Every given identifier came before or is kept. -/
theorem exists_mem_firstsAfter (seen : List Text) {ds : List Definition} {d : Definition}
    (h : d ∈ ds) :
    d.identifier ∈ seen ∨ ∃ kept ∈ firstsAfter seen ds, kept.identifier = d.identifier := by
  induction ds generalizing seen with
  | nil => cases h
  | cons e rest ih =>
    rw [firstsAfter]
    by_cases hseen : e.identifier ∈ seen
    · rw [if_pos (by simpa using hseen)]
      rcases List.mem_cons.mp h with rfl | h
      · exact Or.inl hseen
      · exact ih seen h
    · rw [if_neg (by simpa using hseen)]
      rcases List.mem_cons.mp h with rfl | h
      · exact Or.inr ⟨d, List.mem_cons_self, rfl⟩
      · rcases ih (e.identifier :: seen) h with hbefore | ⟨kept, hkept, hsame⟩
        · rcases List.mem_cons.mp hbefore with hsame | hbefore
          · exact Or.inr ⟨e, List.mem_cons_self, hsame.symm⟩
          · exact Or.inl hbefore
        · exact Or.inr ⟨kept, List.mem_cons_of_mem _ hkept, hsame⟩

/-- No identifier is kept twice. -/
theorem nodup_firstsAfter (seen : List Text) (ds : List Definition) :
    ((firstsAfter seen ds).map (·.identifier)).Nodup := by
  induction ds generalizing seen with
  | nil => exact List.nodup_nil
  | cons d rest ih =>
    rw [firstsAfter]
    split
    · exact ih seen
    · rw [List.map_cons, List.nodup_cons]
      refine ⟨?_, ih (d.identifier :: seen)⟩
      intro htwice
      obtain ⟨kept, hkept, hsame⟩ := List.mem_map.mp htwice
      exact (mem_of_mem_firstsAfter hkept).2 (hsame ▸ List.mem_cons_self)

/-- The kept definitions keep their order. -/
theorem firstsAfter_sublist (seen : List Text) (ds : List Definition) :
    (firstsAfter seen ds).Sublist ds := by
  induction ds generalizing seen with
  | nil => exact List.Sublist.refl _
  | cons d rest ih =>
    rw [firstsAfter]
    split
    · exact (ih seen).cons d
    · exact (ih (d.identifier :: seen)).cons_cons d

/-- The kept definition of an identifier is the first one that has it. -/
theorem find?_firstsAfter {seen : List Text} {identifier : Text} (h : identifier ∉ seen)
    (ds : List Definition) :
    (firstsAfter seen ds).find? (·.identifier == identifier) =
      ds.find? (·.identifier == identifier) := by
  induction ds generalizing seen with
  | nil => rfl
  | cons d rest ih =>
    by_cases hsame : d.identifier = identifier
    · subst hsame
      rw [firstsAfter, if_neg (by simpa using h), List.find?_cons_of_pos (by simp),
        List.find?_cons_of_pos (by simp)]
    · rw [List.find?_cons_of_neg (by simpa using hsame), firstsAfter]
      split
      · exact ih h
      · rw [List.find?_cons_of_neg (by simpa using hsame)]
        exact ih (by simpa [Ne.symm hsame] using h)

/-- Definitions with distinct identifiers are all kept. -/
theorem firstsAfter_eq_self {seen : List Text} {ds : List Definition}
    (hnodup : (ds.map (·.identifier)).Nodup) (hfresh : ∀ d ∈ ds, d.identifier ∉ seen) :
    firstsAfter seen ds = ds := by
  induction ds generalizing seen with
  | nil => rfl
  | cons d rest ih =>
    obtain ⟨hd, hrest⟩ := List.nodup_cons.mp hnodup
    rw [firstsAfter, if_neg (by simpa using hfresh d List.mem_cons_self), ih hrest]
    intro e he hseen
    rcases List.mem_cons.mp hseen with hsame | hseen
    · exact hd (List.mem_map.mpr ⟨e, he, hsame⟩)
    · exact hfresh e (List.mem_cons_of_mem d he) hseen

/-! ## Arranging -/

/-- Taking out the first member with a property splits the list there. -/
theorem extract?_eq_some {p : Definition → Bool} {ds others : List Definition} {d : Definition}
    (h : extract? p ds = some (d, others)) :
    ∃ before after, ds = before ++ d :: after ∧ others = before ++ after ∧ p d = true ∧
      ∀ e ∈ before, p e = false := by
  induction ds generalizing d others with
  | nil => cases h
  | cons e rest ih =>
    rw [extract?] at h
    by_cases hready : p e = true
    · rw [if_pos hready] at h
      cases h
      exact ⟨[], rest, rfl, rfl, hready, by simp⟩
    · rw [if_neg hready] at h
      obtain ⟨⟨found, remaining⟩, hfound, hpair⟩ := Option.map_eq_some_iff.mp h
      cases hpair
      obtain ⟨before, after, rfl, rfl, hd, hbefore⟩ := ih hfound
      refine ⟨e :: before, after, rfl, rfl, hd, ?_⟩
      intro x hx
      rcases List.mem_cons.mp hx with rfl | hx
      · simpa using hready
      · exact hbefore x hx

theorem extract?_eq_none {p : Definition → Bool} {ds : List Definition} (h : extract? p ds = none) :
    ∀ d ∈ ds, p d = false := by
  induction ds with
  | nil => simp
  | cons e rest ih =>
    rw [extract?] at h
    by_cases hready : p e = true
    · rw [if_pos hready] at h
      cases h
    · rw [if_neg hready] at h
      exact List.forall_mem_cons.mpr
        ⟨by simpa using hready, ih (Option.map_eq_none_iff.mp h)⟩

/-- Arranging the waiting definitions only moves them. -/
theorem arrangedWithin_perm (count : Nat) (waiting : List Definition) :
    (arrangedWithin count waiting).Perm waiting := by
  induction count generalizing waiting with
  | zero => exact List.Perm.refl waiting
  | succ count ih =>
    rw [arrangedWithin]
    split
    · next next others hextract =>
      obtain ⟨before, after, rfl, rfl, -, -⟩ := extract?_eq_some hextract
      exact ((ih (before ++ after)).cons next).trans List.perm_middle.symm
    · exact List.Perm.refl waiting

/-- What is arranged is the first definition of each identifier. -/
theorem arranged_perm (ds : List Definition) : (arranged ds).Perm (firsts ds) :=
  arrangedWithin_perm _ _

/-- Arranging makes no definition. -/
theorem mem_of_mem_arranged {ds : List Definition} {d : Definition} (h : d ∈ arranged ds) :
    d ∈ ds :=
  (mem_of_mem_firstsAfter ((arranged_perm ds).mem_iff.mp h)).1

/-- Arranging loses no identifier. -/
theorem exists_mem_arranged {ds : List Definition} {d : Definition} (h : d ∈ ds) :
    ∃ kept ∈ arranged ds, kept.identifier = d.identifier := by
  rcases exists_mem_firstsAfter [] h with hbefore | ⟨kept, hkept, hsame⟩
  · cases hbefore
  · exact ⟨kept, (arranged_perm ds).mem_iff.mpr hkept, hsame⟩

/-- No identifier is defined twice. -/
theorem nodup_arranged (ds : List Definition) : ((arranged ds).map (·.identifier)).Nodup :=
  (((arranged_perm ds).map (·.identifier)).nodup_iff).mpr (nodup_firstsAfter [] ds)

/-- Every identifier is defined exactly once. -/
theorem count_arranged {ds : List Definition} {d : Definition} (h : d ∈ ds) :
    ((arranged ds).map (·.identifier)).count d.identifier = 1 := by
  obtain ⟨kept, hkept, hsame⟩ := exists_mem_arranged h
  apply List.count_eq_one_of_mem (nodup_arranged ds)
  rw [← hsame]
  exact List.mem_map_of_mem hkept

/-- Nothing is lost by arranging if and only if definitions with the same identifier are the same.
-/
theorem subset_arranged_iff (ds : List Definition) :
    ds ⊆ arranged ds ↔ ∀ d₁ ∈ ds, ∀ d₂ ∈ ds, d₁.identifier = d₂.identifier → d₁ = d₂ := by
  constructor
  · intro hkept d₁ h₁ d₂ h₂ hsame
    exact List.inj_on_of_nodup_map (nodup_arranged ds) (hkept h₁) (hkept h₂) hsame
  · intro hagree d hd
    obtain ⟨kept, hkept, hsame⟩ := exists_mem_arranged hd
    have heq : kept = d := hagree kept (mem_of_mem_arranged hkept) d hd hsame
    exact heq ▸ hkept

end ChartQuery.Definition
