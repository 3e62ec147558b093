/-
# Texts as lines

Cutting a text at a separator and putting a separator between texts undo each other. Everything else
about lines is said by the library's `splitOn` and `intercalate`, which are the same operations.
-/

import ChartQuery.Text.Piece
import Mathlib.Data.List.Basic

namespace ChartQuery.Text

variable {sep : Point}

theorem pieces_eq_splitOn (sep : Point) (text : List Point) :
    pieces sep text = text.splitOn sep := by
  induction text with
  | nil => rfl
  | cons c rest ih =>
    rw [pieces, List.splitOn_cons_eq_if_modifyHead, ← ih]
    by_cases hc : c = sep
    · rw [if_pos hc, if_pos (beq_iff_eq.mpr hc)]
    · rw [if_neg hc, if_neg (by simpa using hc)]
      cases hrest : pieces sep rest with
      | nil => exact absurd hrest (pieces_ne_nil sep rest)
      | cons first others => rfl

/-- No piece holds the separator. -/
theorem not_mem_of_mem_pieces {text piece : List Point} (h : piece ∈ pieces sep text) :
    sep ∉ piece := by
  induction text generalizing piece with
  | nil =>
    rw [List.mem_singleton.mp h]
    exact List.not_mem_nil
  | cons c rest ih =>
    unfold pieces at h
    split at h
    · rcases List.mem_cons.mp h with rfl | h
      · exact List.not_mem_nil
      · exact ih h
    · next hc =>
      split at h
      · next hnil => exact absurd hnil (pieces_ne_nil sep rest)
      · next head tail hpieces =>
        rcases List.mem_cons.mp h with rfl | h
        · rw [List.mem_cons, not_or]
          exact ⟨Ne.symm hc, ih (hpieces ▸ List.mem_cons_self)⟩
        · exact ih (hpieces ▸ List.mem_cons_of_mem head h)

theorem intercalate_pieces (sep : Point) (text : List Point) :
    [sep].intercalate (pieces sep text) = text := by
  rw [pieces_eq_splitOn, List.intercalate_splitOn]

theorem pieces_intercalate {lines : List (List Point)} (hlines : ∀ line ∈ lines, sep ∉ line)
    (hsome : lines ≠ []) : pieces sep ([sep].intercalate lines) = lines := by
  rw [pieces_eq_splitOn, List.splitOn_intercalate sep hlines hsome]

/-- The characters of lines that are joined. -/
theorem toList_joined {separator : Text} (hsep : separator.toList = [sep])
    (lines : List (List Point)) :
    (joined separator (lines.map Text.ofList)).toList = [sep].intercalate lines := by
  induction lines with
  | nil => rfl
  | cons first rest ih =>
    cases rest with
    | nil => rw [List.map_singleton, joined, Text.toList_ofList, List.intercalate_singleton]
    | cons second others =>
      have hjoined : joined separator ((first :: second :: others).map Text.ofList) =
          Text.ofList first ++ separator ++
            joined separator ((second :: others).map Text.ofList) := rfl
      rw [hjoined, Text.toList_append, Text.toList_append, Text.toList_ofList, hsep, ih,
        List.intercalate_cons_cons]

/-- A separator adds nothing to the number of any other character. -/
theorem count_intercalate {c : Point} (hc : c ≠ sep) (lines : List (List Point)) :
    ([sep].intercalate lines).count c = lines.flatten.count c := by
  induction lines with
  | nil => rfl
  | cons first rest ih =>
    cases rest with
    | nil => rw [List.intercalate_singleton, List.flatten_singleton]
    | cons second others =>
      have hnone : [sep].count c = 0 := List.count_eq_zero.mpr (by rwa [List.mem_singleton])
      rw [List.intercalate_cons_cons, List.count_append, List.count_append, hnone, ih,
        Nat.add_zero, ← List.count_append, ← List.flatten_cons]

/-- Leaving characters out of a text leaves them out of its pieces, as long as the separators
stay. -/
theorem pieces_filter {p : Point → Bool} (hsep : p sep = true) (text : List Point) :
    pieces sep (text.filter p) = (pieces sep text).map (List.filter p) := by
  induction text with
  | nil => rfl
  | cons c rest ih =>
    by_cases hc : c = sep
    · rw [List.filter_cons_of_pos (hc ▸ hsep), pieces, if_pos hc, ih, pieces, if_pos hc]
      rfl
    · cases hrest : pieces sep rest with
      | nil => exact absurd hrest (pieces_ne_nil sep rest)
      | cons first others =>
        rw [hrest] at ih
        have hpieces : pieces sep (c :: rest) = (c :: first) :: others := by
          rw [pieces, if_neg hc, hrest]
        rw [hpieces, List.map_cons]
        by_cases hp : p c = true
        · rw [List.filter_cons_of_pos hp, List.filter_cons_of_pos hp, pieces, if_neg hc, ih]
          rfl
        · rw [List.filter_cons_of_neg hp, List.filter_cons_of_neg hp, ih]
          rfl

end ChartQuery.Text
