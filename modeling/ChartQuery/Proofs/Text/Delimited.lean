/-
# Texts that show where they end

Things are written one after another without a parser for the result. What was written can still be
told from the text when each thing shows where it ends: whatever it is followed by, no other thing
gives the same text. Some things show it only in front of texts that do not go on as they do
(`follows`); a list with separators is the standard case.
-/

import ChartQuery.Text.Piece

namespace ChartQuery.Text

variable {α : Type}

/-- Things of a form can be told from a text that they begin, whatever follows of some kind: they
are equal when the texts are, and so is what follows them. -/
def Delimited (form : α → Prop) (follows : List Point → Prop) (write : α → Text) : Prop :=
  ∀ ⦃a b : α⦄ ⦃r s : List Point⦄, form a → form b → follows r → follows s →
    (write a).toList ++ r = (write b).toList ++ s → a = b ∧ r = s

/-- The text does not begin with a character. -/
def StartsOtherThan (c : Point) (text : List Point) : Prop :=
  text.head? ≠ some c

theorem startsOtherThan_nil (c : Point) : StartsOtherThan c [] := by
  simp [StartsOtherThan]

theorem startsOtherThan_cons {c d : Point} (h : d ≠ c) (rest : List Point) :
    StartsOtherThan c (d :: rest) := by
  simpa [StartsOtherThan] using h

/-- What ends with a character that it does not hold inside can be told from any text. -/
theorem eq_of_append_closing (closing : Point) {a b r s : List Point} (ha : closing ∉ a)
    (hb : closing ∉ b) (h : a ++ closing :: r = b ++ closing :: s) : a = b ∧ r = s :=
  eq_of_append_sep closing h
    ((List.count_eq_zero.mpr ha).trans (List.count_eq_zero.mpr hb).symm)

/-- A list of several texts begins with the first of them and the separator. -/
theorem toList_joined_cons (sep first second : Text) (others : List Text) :
    (joined sep (first :: second :: others)).toList =
      first.toList ++ (sep.toList ++ (joined sep (second :: others)).toList) := by
  rw [joined, toList_append, toList_append, List.append_assoc]
  simp

/-- Things that can be told from any text can be told from a list of them with separators, provided
that the text behind the list does not begin as the separator does. The list has to hold something,
because nothing at all is not seen. -/
theorem Delimited.joined {form : α → Prop} {write : α → Text} {sep : Text} {c : Point}
    (hwrite : Delimited form (fun _ => True) write) (hsep : sep.toList.head? = some c) :
    Delimited (fun as : List α => as ≠ [] ∧ ∀ a ∈ as, form a) (StartsOtherThan c)
      (fun as => joined sep (as.map write)) := by
  -- A list that ends first is followed by a text that would have to begin with the separator.
  have hended : ∀ {a b : α} {r rest : List Point}, form a → form b → StartsOtherThan c r →
      (write a).toList ++ r = (write b).toList ++ (sep.toList ++ rest) → False := by
    intro a b r rest ha hb hr h
    obtain ⟨-, rfl⟩ := hwrite ha hb trivial trivial h
    apply hr
    rw [List.head?_append, hsep, Option.some_or]
  intro as bs r s has hbs hr hs h
  obtain ⟨hsome, hforms⟩ := has
  obtain ⟨hsome', hforms'⟩ := hbs
  induction as generalizing bs with
  | nil => exact absurd rfl hsome
  | cons a as ih =>
    cases bs with
    | nil => exact absurd rfl hsome'
    | cons b bs =>
      have ha := hforms a List.mem_cons_self
      have hb := hforms' b List.mem_cons_self
      cases as with
      | nil =>
        cases bs with
        | nil =>
          obtain ⟨rfl, hrest⟩ := hwrite ha hb trivial trivial h
          exact ⟨rfl, hrest⟩
        | cons b' bs =>
          simp only [List.map_cons, toList_joined_cons, List.append_assoc] at h
          exact absurd h fun h => hended ha hb hr h
      | cons a' as =>
        cases bs with
        | nil =>
          simp only [List.map_cons, toList_joined_cons, List.append_assoc] at h
          exact absurd h.symm fun h => hended hb ha hs h
        | cons b' bs =>
          simp only [List.map_cons, toList_joined_cons, List.append_assoc] at h
          obtain ⟨rfl, hrest⟩ := hwrite ha hb trivial trivial h
          obtain ⟨hothers, hrest⟩ := @ih (b' :: bs) (List.append_cancel_left hrest)
            (List.cons_ne_nil a' as)
            (fun x hx => hforms x (List.mem_cons_of_mem a hx)) (List.cons_ne_nil b' bs)
            (fun x hx => hforms' x (List.mem_cons_of_mem a hx))
          rw [hothers]
          exact ⟨rfl, hrest⟩

end ChartQuery.Text
