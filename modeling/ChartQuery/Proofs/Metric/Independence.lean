/-
# Definitions that refer to nothing

References are written in braces. Where no expression holds one, nothing waits for anything else,
and the first definition that waits is always next: arranging moves nothing and only leaves out the
later definitions of an identifier (`arranged_eq_eraseDupsBy`). What is left out lies behind what is
kept, so two definitions that stand side by side still do, provided that both are new there
(`pair_infix_firsts`).
-/

import ChartQuery.Proofs.Metric.Arrangement

namespace ChartQuery.Definition

variable {ds front : List Definition} {d₁ d₂ : Definition}

/-- The kept definitions are those that did not come before, each identifier once. -/
theorem firstsAfter_eq_eraseDupsBy (seen : List Text) (ds : List Definition) :
    firstsAfter seen ds = (ds.filter fun d => !seen.contains d.identifier).eraseDupsBy
      fun d e => d.identifier == e.identifier := by
  induction ds generalizing seen with
  | nil => rfl
  | cons d rest ih =>
    rw [firstsAfter]
    by_cases hseen : seen.contains d.identifier = true
    · rw [if_pos hseen, List.filter_cons_of_neg (by simpa using hseen), ih]
    · rw [if_neg hseen, List.filter_cons_of_pos (by simpa using hseen), List.eraseDupsBy_cons, ih,
        List.filter_filter]
      congr 2
      refine List.filter_congr fun e _ => ?_
      by_cases hsame : e.identifier = d.identifier <;> simp [hsame]

/-- The first definition of each identifier is what is left when later ones are erased. -/
theorem firsts_eq_eraseDupsBy (ds : List Definition) :
    firsts ds = ds.eraseDupsBy fun d e => d.identifier == e.identifier := by
  rw [firsts, firstsAfter_eq_eraseDupsBy]
  simp

/-- What is kept of a list does not depend on what follows it. -/
theorem exists_firstsAfter_append (seen : List Text) (front rest : List Definition) :
    ∃ later : List Text,
      (∀ identifier, identifier ∈ later ↔
        identifier ∈ seen ∨ ∃ d ∈ front, d.identifier = identifier) ∧
      firstsAfter seen (front ++ rest) = firstsAfter seen front ++ firstsAfter later rest := by
  induction front generalizing seen with
  | nil => exact ⟨seen, by simp, rfl⟩
  | cons d front ih =>
    rw [List.cons_append, firstsAfter, firstsAfter]
    by_cases hseen : seen.contains d.identifier = true
    · obtain ⟨later, hlater, hkept⟩ := ih seen
      refine ⟨later, fun identifier => ?_, by rw [if_pos hseen, if_pos hseen, hkept]⟩
      rw [hlater, List.exists_mem_cons_iff]
      constructor
      · exact Or.imp_right Or.inr
      · rintro (hbefore | rfl | hfront)
        · exact Or.inl hbefore
        · exact Or.inl (by simpa using hseen)
        · exact Or.inr hfront
    · obtain ⟨later, hlater, hkept⟩ := ih (d.identifier :: seen)
      refine ⟨later, fun identifier => ?_, by rw [if_neg hseen, if_neg hseen, hkept]; rfl⟩
      rw [hlater, List.exists_mem_cons_iff, List.mem_cons, eq_comm (a := identifier), or_assoc]
      tauto

/-- Two definitions side by side whose identifiers are new are kept side by side. -/
theorem pair_infix_firsts (hfresh : ∀ d ∈ front,
      d.identifier ≠ d₁.identifier ∧ d.identifier ≠ d₂.identifier)
    (hdistinct : d₁.identifier ≠ d₂.identifier) (back : List Definition) :
    [d₁, d₂] <:+: firsts (front ++ d₁ :: d₂ :: back) := by
  obtain ⟨later, hlater, hkept⟩ := exists_firstsAfter_append [] front (d₁ :: d₂ :: back)
  have hnew : d₁.identifier ∉ later ∧ d₂.identifier ∉ later := by
    simp only [hlater, List.not_mem_nil, false_or]
    exact ⟨fun ⟨d, hd, hsame⟩ => (hfresh d hd).1 hsame, fun ⟨d, hd, hsame⟩ => (hfresh d hd).2 hsame⟩
  have hsecond : d₂.identifier ∉ d₁.identifier :: later := by simp [hdistinct.symm, hnew.2]
  rw [firsts, hkept, firstsAfter, if_neg (by simpa using hnew.1), firstsAfter,
    if_neg (by simpa using hsecond)]
  exact ⟨_, _, List.append_assoc _ _ _⟩

/-- Where no expression holds a brace nothing is moved. -/
theorem arranged_eq_firsts (h : ∀ d ∈ ds, Point.char '{' ∉ d.expression.toList) :
    arranged ds = firsts ds := by
  have hnone : ∀ d e, ¬ RefersWithin (firsts ds) d e := by
    rintro d e ⟨hd, -, -, hrefers⟩
    have hbrace : Point.char '{' ∈ referenceTo e.identifier := List.mem_cons_self
    exact h d (firstsAfter_sublist [] ds |>.subset hd) (hrefers.subset hbrace)
  have horder : IsOrderOf (firsts ds) (firsts ds) :=
    ⟨List.Perm.refl _, fun d e hrefers => absurd hrefers (hnone d e)⟩
  obtain ⟨done, left, harranged, harranges⟩ := exists_arranges_firsts ds
  rw [harranged, harranges.append_eq_of_isOrderOf (nodup_firsts ds) horder]

theorem arranged_eq_eraseDupsBy (h : ∀ d ∈ ds, Point.char '{' ∉ d.expression.toList) :
    arranged ds = ds.eraseDupsBy fun d e => d.identifier == e.identifier :=
  (arranged_eq_firsts h).trans (firsts_eq_eraseDupsBy ds)

end ChartQuery.Definition
