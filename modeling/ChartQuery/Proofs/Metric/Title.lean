/-
# Titles that fit

A title and its suffix are kept whole when they fit together. Otherwise the title is cut so that
what is left of it, the mark of the cut and the suffix have exactly the length of the limit
(`IsCut`); a title that ends with a closing parenthesis has another mark than all others. Every
generated metric takes its title from one of the two title functions (`Generated.titledFor`).
Suffixes that leave no room for a mark are not considered.
-/

import ChartQuery.Proofs.Metric.Dispatch

namespace ChartQuery

namespace Title

variable {title suffix mark text : Text}

/-! ## One title -/

/-- The mark at the cut of a title. -/
def markOf (title : Text) : Text :=
  if endsClosed title then "…)" else "…"

/-- The text is the front part of a title, a mark and a suffix, and has the length of the limit. -/
def IsCut (title mark suffix text : Text) : Prop :=
  ∃ kept : Text, kept.toList <+: title.toList ∧ text = kept ++ mark ++ suffix ∧
    kept.length + mark.length + suffix.length = limit

theorem endsClosed_iff : endsClosed title = true ↔ title.toList.getLast? = some (.char ')') := by
  simp [endsClosed]

theorem fitted_of_fits (h : title.length + suffix.length ≤ limit) :
    fitted title suffix = title ++ suffix := by
  have hroom : (title.length : Int) ≤ (limit : Int) - suffix.length := by omega
  simp only [fitted, if_pos hroom]

/-- The part of a title that is kept in front of the mark. -/
def keptOf (title suffix : Text) : Text :=
  Text.ofList (title.toList.take (limit - suffix.length - (markOf title).length))

/-- A title that does not fit is its front part, the mark and the suffix. -/
theorem fitted_of_long (hsuffix : suffix.length + 2 ≤ limit)
    (h : limit < title.length + suffix.length) :
    fitted title suffix = keptOf title suffix ++ markOf title ++ suffix := by
  have hroom : ¬ (title.length : Int) ≤ (limit : Int) - suffix.length := by omega
  simp only [fitted, if_neg hroom]
  unfold keptOf markOf
  cases endsClosed title with
  | true =>
    have hcut : (limit : Int) - suffix.length - 2 = ((limit - suffix.length - 2 : Nat) : Int) := by
      omega
    rw [hcut]
    simp only [if_true, Text.ofList_append]
    rfl
  | false =>
    have hcut : (limit : Int) - suffix.length - 1 = ((limit - suffix.length - 1 : Nat) : Int) := by
      omega
    rw [hcut]
    simp only [Text.ofList_append]
    rfl

theorem length_markOf_le (title : Text) : (markOf title).length ≤ 2 := by
  unfold markOf
  split <;> decide

theorem isCut_fitted (hsuffix : suffix.length + 2 ≤ limit)
    (h : limit < title.length + suffix.length) :
    IsCut title (markOf title) suffix (fitted title suffix) := by
  have hmark := length_markOf_le title
  refine ⟨keptOf title suffix, ?_, fitted_of_long hsuffix h, ?_⟩
  · rw [keptOf, Text.toList_ofList]
    exact List.take_prefix _ _
  · have hshorter : limit - suffix.length - (markOf title).length ≤ title.length := by omega
    rw [keptOf, Text.length_ofList, List.length_take, Text.length_toList,
      Nat.min_eq_left hshorter]
    omega

theorem IsCut.length_eq (h : IsCut title mark suffix text) : text.length = limit := by
  obtain ⟨kept, -, rfl, hlength⟩ := h
  simpa [Text.length_append] using hlength

/-- A text is cut with one mark only. -/
theorem not_isCut_of_isCut (h : IsCut title "…)" suffix text) : ¬ IsCut title "…" suffix text := by
  obtain ⟨kept, -, rfl, -⟩ := h
  rintro ⟨other, -, hsame, -⟩
  have htext : kept.toList ++ [.char '…', .char ')'] ++ suffix.toList =
      other.toList ++ [.char '…'] ++ suffix.toList := by
    simpa using congrArg Text.toList hsame
  have hlast := congrArg List.getLast? (List.append_cancel_right htext)
  simp at hlast

/-- A title that is too long is cut with one mark when it ends with a closing parenthesis, and with
the other when it does not. -/
theorem isCut_fitted_iff (hsuffix : suffix.length + 2 ≤ limit)
    (h : limit < title.length + suffix.length) :
    (IsCut title "…)" suffix (fitted title suffix) ↔ title.toList.getLast? = some (.char ')')) ∧
      (IsCut title "…" suffix (fitted title suffix) ↔
        title.toList.getLast? ≠ some (.char ')')) := by
  have hcut := isCut_fitted hsuffix h
  rw [Ne, ← endsClosed_iff]
  cases hends : endsClosed title with
  | true =>
    rw [markOf, hends, if_pos rfl] at hcut
    simp [hcut, not_isCut_of_isCut hcut]
  | false =>
    rw [markOf, hends, if_neg Bool.false_ne_true] at hcut
    have hother : ¬ IsCut title "…)" suffix (fitted title suffix) := fun hclosed =>
      not_isCut_of_isCut hclosed hcut
    simp [hcut, hother]

/-- The text is a title with its suffix as the limit allows: whole if both fit, else of exactly the
length of the limit and cut with the mark that the end of the title asks for. -/
structure IsFitted (title suffix text : Text) : Prop where
  whole : title.length + suffix.length ≤ limit → text = title ++ suffix
  length : limit < title.length + suffix.length → text.length = limit
  closed : limit < title.length + suffix.length →
    (IsCut title "…)" suffix text ↔ title.toList.getLast? = some (.char ')'))
  unclosed : limit < title.length + suffix.length →
    (IsCut title "…" suffix text ↔ title.toList.getLast? ≠ some (.char ')'))

theorem isFitted_fitted (title : Text) (hsuffix : suffix.length + 2 ≤ limit) :
    IsFitted title suffix (fitted title suffix) where
  whole := fitted_of_fits
  length hlong := (isCut_fitted hsuffix hlong).length_eq
  closed hlong := (isCut_fitted_iff hsuffix hlong).1
  unclosed hlong := (isCut_fitted_iff hsuffix hlong).2

theorem length_fitted_le (title : Text) (hsuffix : suffix.length + 2 ≤ limit) :
    (fitted title suffix).length ≤ limit := by
  rcases Nat.lt_or_ge limit (title.length + suffix.length) with hlong | hfits
  · exact Nat.le_of_eq (isCut_fitted hsuffix hlong).length_eq
  · rwa [fitted_of_fits hfits, Text.length_append]

/-- Whatever becomes of the title, the suffix stays. -/
theorem exists_fitted_eq_append (title suffix : Text) :
    ∃ front, fitted title suffix = front ++ suffix := by
  unfold fitted
  simp only
  split
  · exact ⟨title, rfl⟩
  · split
    · exact ⟨_, rfl⟩
    · exact ⟨_, rfl⟩

theorem length_base_le (title : Option Text) : (base title).length ≤ limit :=
  length_fitted_le _ (by decide)

theorem length_previous_le (title : Option Text) : (previous title).length ≤ limit :=
  length_fitted_le _ (by decide)

/-- A title that was cut fits. -/
theorem base_base (title : Option Text) : base (some (base title)) = base title := by
  have hfits : (base title).length + "".length ≤ limit := length_base_le title
  show fitted (base title) "" = base title
  rw [fitted_of_fits hfits, Text.append_empty]

end Title

/-! ## The titles of metrics -/

/-- The metric has the title that its measure gives for it, if it has one of its own; a previous
period always has. -/
structure GeneratedMetric.TitledFor (g : GeneratedMetric) (m : Measure) : Prop where
  title : ∀ d, g.definition = some d → d.title = m.titleOf g.isPrevious
  defined : g.isPrevious = true → g.definition.isSome = true

/-- Whatever comes from a measure is titled after it. -/
theorem Construction.Generated.titledFor {m : Measure} {index : Int} {g : GeneratedMetric}
    (h : Construction.Generated m index g) : g.TitledFor m := by
  cases h with
  | reference =>
    refine ⟨fun d hd => ?_, fun hprevious => ?_⟩
    · cases hd
    · cases hprevious
  | new isPrevious hgenerate =>
    obtain ⟨identifier, text, -, -, rfl⟩ := Construction.generate_eq_ok hgenerate
    refine ⟨fun d hd => ?_, fun _ => rfl⟩
    cases hd
    rfl

/-- Every metric of several measures is titled after one of them. -/
theorem RuleBook.exists_titledFor_of_mem {book : RuleBook} {b : Buckets} {index : Int}
    {measures : List Measure} {gs : List GeneratedMetric}
    (h : book.metricsFrom b index measures = .ok gs) {g : GeneratedMetric} (hg : g ∈ gs) :
    ∃ m ∈ measures, g.TitledFor m := by
  obtain ⟨position, m, own, hm, hown, hg⟩ := exists_metricsOf_of_mem h hg
  obtain ⟨c, -, hbuild⟩ := exists_build_of_metricsOf hown
  exact ⟨m, List.mem_of_getElem? hm, ((Construction.generated_of_build hbuild).2 g hg).titledFor⟩

namespace GeneratedMetric

variable {g : GeneratedMetric} {m : Measure}

theorem TitledFor.length_title_le (h : g.TitledFor m) {d : Definition}
    (hd : g.definition = some d) : d.title.length ≤ Title.limit := by
  rw [h.title d hd, Measure.titleOf]
  split
  · exact Title.length_previous_le m.title
  · exact Title.length_base_le m.title

theorem TitledFor.exists_title_eq_append (h : g.TitledFor m) (hprevious : g.isPrevious = true) :
    ∃ d front, g.definition = some d ∧ d.title = front ++ Title.previousSuffix := by
  obtain ⟨d, hd⟩ := Option.isSome_iff_exists.mp (h.defined hprevious)
  obtain ⟨front, hfront⟩ := Title.exists_fitted_eq_append (m.title.getD "") Title.previousSuffix
  refine ⟨d, front, hd, ?_⟩
  rw [h.title d hd, hprevious]
  exact hfront

end GeneratedMetric

end ChartQuery
