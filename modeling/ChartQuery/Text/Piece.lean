/-
# Pieces of a text

Cutting a text at a separator, the piece after the last separator, and the question whether one
text occurs inside another. Everything works on lists of characters or of code points, so that a
claim about a text is a claim about a list.
-/

import ChartQuery.Text.Basic

namespace ChartQuery.Text

variable {α : Type} [DecidableEq α]

/-- The pieces between the occurrences of `sep`; there is one more piece than separators. -/
def pieces (sep : α) : List α → List (List α)
  | [] => [[]]
  | c :: rest =>
    if c = sep then [] :: pieces sep rest
    else
      match pieces sep rest with
      | [] => [[c]]
      | first :: others => (c :: first) :: others

/-- The part after the last `sep`, or the whole text when there is none. -/
def afterLast (sep : α) (text : List α) : List α :=
  (text.reverse.takeWhile (· ≠ sep)).reverse

/-- `needle` stands somewhere in the text. -/
def occursIn (needle : List α) : List α → Bool
  | [] => needle.isEmpty
  | c :: rest => needle.isPrefixOf (c :: rest) || occursIn needle rest

/-- The texts with `sep` between neighbours. -/
def joined (sep : Text) : List Text → Text
  | [] => ""
  | [only] => only
  | first :: rest => first ++ sep ++ joined sep rest

/-- What occurs in a text is a part of it without gaps. -/
theorem occursIn_iff (needle text : List α) :
    occursIn needle text = true ↔ needle.IsInfix text := by
  induction text with
  | nil => simp [occursIn, List.infix_nil]
  | cons c rest ih => rw [occursIn, Bool.or_eq_true, ih, List.isPrefixOf_iff_prefix,
      List.infix_cons_iff]

theorem pieces_ne_nil (sep : α) (text : List α) : pieces sep text ≠ [] := by
  cases text with
  | nil => simp [pieces]
  | cons c rest =>
    unfold pieces
    split
    · simp
    · split <;> simp

/-- There is one more piece than separators. -/
theorem length_pieces (sep : α) (text : List α) :
    (pieces sep text).length = text.count sep + 1 := by
  induction text with
  | nil => rfl
  | cons c rest ih =>
    by_cases h : c = sep
    · simp [pieces, h, ih]
    · cases hrest : pieces sep rest with
      | nil => exact absurd hrest (pieces_ne_nil sep rest)
      | cons first others =>
        rw [hrest] at ih
        simpa [pieces, h, hrest, List.count_cons] using ih

/-- What stands in a piece stands in the text. -/
theorem mem_of_mem_pieces {sep c : α} {text piece : List α} (h : piece ∈ pieces sep text)
    (hc : c ∈ piece) : c ∈ text := by
  induction text generalizing piece with
  | nil =>
    rw [pieces, List.mem_singleton] at h
    rw [h] at hc
    cases hc
  | cons first rest ih =>
    unfold pieces at h
    split at h
    · rcases List.mem_cons.mp h with rfl | h
      · cases hc
      · exact List.mem_cons_of_mem first (ih h hc)
    · split at h
      · next hnil => exact absurd hnil (pieces_ne_nil sep rest)
      · next head tail hpieces =>
        rcases List.mem_cons.mp h with rfl | h
        · rcases List.mem_cons.mp hc with rfl | hc
          · exact List.mem_cons_self
          · exact List.mem_cons_of_mem first (ih (hpieces ▸ List.mem_cons_self) hc)
        · exact List.mem_cons_of_mem first (ih (hpieces ▸ List.mem_cons_of_mem head h) hc)

/-- A text is cut at the same separator in two ways only if the first parts have different numbers
of separators. -/
theorem eq_of_append_sep (sep : α) {left₁ left₂ right₁ right₂ : List α}
    (hsame : left₁ ++ sep :: right₁ = left₂ ++ sep :: right₂)
    (hcount : left₁.count sep = left₂.count sep) : left₁ = left₂ ∧ right₁ = right₂ := by
  induction left₁ generalizing left₂ with
  | nil =>
    cases left₂ with
    | nil => simpa using hsame
    | cons c rest =>
      have hc : sep = c := by simpa using congrArg List.head? hsame
      simp [hc] at hcount
  | cons c rest ih =>
    cases left₂ with
    | nil =>
      have hc : c = sep := by simpa using congrArg List.head? hsame
      simp [hc] at hcount
    | cons d others =>
      obtain ⟨rfl, hrest⟩ := List.cons.inj hsame
      have hothers : rest.count sep = others.count sep := by
        rw [List.count_cons, List.count_cons] at hcount
        omega
      obtain ⟨rfl, rfl⟩ := ih hrest hothers
      exact ⟨rfl, rfl⟩

end ChartQuery.Text
