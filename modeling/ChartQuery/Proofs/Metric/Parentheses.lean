/-
# Parentheses in titles

A title that is cut keeps one closing parenthesis if it ended with one. That closes exactly one
group, so the cut title is balanced when one group is open at the cut: not when the cut lies between
groups, nor inside nested ones. This module shows that there is no other exception; other brackets
are not considered.
-/

import ChartQuery.Proofs.Metric.Title

namespace ChartQuery

namespace Text

/-- No parenthesis closes a group that is not open, and every group is closed. -/
structure IsBalanced (text : List Point) : Prop where
  front : ∀ front, front <+: text → front.count (.char ')') ≤ front.count (.char '(')
  whole : text.count (.char '(') = text.count (.char ')')

/-- The number of groups that are open at the end of a text. -/
def openGroups (text : List Point) : Nat :=
  text.count (.char '(') - text.count (.char ')')

variable {text suffix : List Point}

/-- A text behind so many open groups closes all of them and its own, and no more. -/
def closesAll : Nat → List Point → Bool
  | depth, [] => depth == 0
  | depth, c :: rest =>
    if c = .char '(' then closesAll (depth + 1) rest
    else if c = .char ')' then decide (0 < depth) && closesAll (depth - 1) rest
    else closesAll depth rest

theorem forall_front_cons_iff {p : List Point → Prop} (c : Point) (rest : List Point) :
    (∀ front, front <+: c :: rest → p front) ↔ p [] ∧ ∀ front, front <+: rest → p (c :: front) := by
  constructor
  · intro h
    exact ⟨h [] (List.nil_prefix),
      fun front hfront => h _ (List.cons_prefix_cons.mpr ⟨rfl, hfront⟩)⟩
  · rintro ⟨hnil, hcons⟩ front hfront
    rcases List.prefix_cons_iff.mp hfront with rfl | ⟨behind, rfl, hbehind⟩
    · exact hnil
    · exact hcons behind hbehind

theorem closesAll_iff (depth : Nat) (text : List Point) :
    closesAll depth text = true ↔
      (∀ front, front <+: text → front.count (.char ')') ≤ depth + front.count (.char '(')) ∧
        depth + text.count (.char '(') = text.count (.char ')') := by
  induction text generalizing depth with
  | nil => simp [closesAll]
  | cons c rest ih =>
    rw [closesAll, forall_front_cons_iff]
    by_cases hopening : c = .char '('
    · subst hopening
      rw [if_pos rfl, ih]
      simp [Nat.add_assoc, Nat.add_comm 1]
    · by_cases hclosing : c = .char ')'
      · subst hclosing
        rw [if_neg hopening, if_pos rfl, Bool.and_eq_true, ih, decide_eq_true_iff]
        simp only [List.count_cons_self, List.count_nil,
          List.count_cons_of_ne (by decide : Point.char ')' ≠ .char '(')]
        constructor
        · rintro ⟨hdepth, hfront, hwhole⟩
          refine ⟨⟨Nat.zero_le _, fun front hfrom => ?_⟩, by omega⟩
          have hlater := hfront front hfrom
          omega
        · rintro ⟨⟨-, hfront⟩, hwhole⟩
          have hdepth : 1 ≤ depth := by simpa using hfront [] List.nil_prefix
          refine ⟨hdepth, fun front hfrom => ?_, by omega⟩
          have hlater := hfront front hfrom
          omega
      · rw [if_neg hopening, if_neg hclosing, ih]
        simp [hopening, hclosing]

theorem closesAll_zero_iff : closesAll 0 text = true ↔ IsBalanced text := by
  rw [closesAll_iff]
  simp only [Nat.zero_add]
  exact ⟨fun h => ⟨h.1, h.2⟩, fun h => ⟨h.front, h.whole⟩⟩

instance : Decidable (IsBalanced text) :=
  decidable_of_iff _ closesAll_zero_iff

/-- A text without parentheses behind another one changes nothing. -/
theorem isBalanced_append_iff (hopening : .char '(' ∉ suffix) (hclosing : .char ')' ∉ suffix) :
    IsBalanced (text ++ suffix) ↔ IsBalanced text := by
  constructor
  · rintro ⟨hfront, hwhole⟩
    refine ⟨fun front hfrom => hfront front (hfrom.trans (List.prefix_append text suffix)), ?_⟩
    simpa [List.count_eq_zero.mpr hopening, List.count_eq_zero.mpr hclosing] using hwhole
  · rintro ⟨hfront, hwhole⟩
    refine ⟨fun front hfrom => ?_, ?_⟩
    · have htext := hfront _ (List.take_prefix front.length text)
      have hnone : (suffix.take (front.length - text.length)).count (.char ')') = 0 :=
        List.count_eq_zero.mpr fun hmem => hclosing (List.mem_of_mem_take hmem)
      rw [List.prefix_iff_eq_take.mp hfrom, List.take_append, List.count_append,
        List.count_append, hnone]
      omega
    · simpa [List.count_eq_zero.mpr hopening, List.count_eq_zero.mpr hclosing] using hwhole

/-- A closing parenthesis balances a text that closes no group too many exactly when one group is
open. -/
theorem isBalanced_closed_iff
    (h : ∀ front, front <+: text → front.count (.char ')') ≤ front.count (.char '(')) :
    IsBalanced (text ++ [.char '…', .char ')']) ↔ openGroups text = 1 := by
  have hall := h text (List.prefix_refl text)
  have hopening : [Point.char '…', .char ')'].count (.char '(') = 0 := by decide
  have hclosing : [Point.char '…', .char ')'].count (.char ')') = 1 := by decide
  unfold openGroups
  constructor
  · rintro ⟨-, hwhole⟩
    rw [List.count_append, List.count_append, hopening, hclosing] at hwhole
    omega
  · intro hone
    refine ⟨fun front hfrom => ?_, by rw [List.count_append, List.count_append]; omega⟩
    rw [List.prefix_iff_eq_take.mp hfrom, List.take_append, List.count_append, List.count_append]
    rcases Nat.le_total front.length text.length with hinside | hbehind
    · rw [Nat.sub_eq_zero_of_le hinside]
      exact h _ (List.take_prefix front.length text)
    · have hlast :
          ([Point.char '…', .char ')'].take (front.length - text.length)).count (.char ')') ≤ 1 :=
        (List.take_sublist _ [Point.char '…', .char ')']).count_le (.char ')')
      rw [List.take_of_length_le hbehind]
      omega

end Text

namespace Title

open Text

variable {title suffix : Text}

/-- Fitting a balanced title that ends with a closing parenthesis keeps the balance when nothing is
cut, or when one group is open at the cut. -/
theorem isBalanced_fitted_iff (hbalanced : IsBalanced title.toList)
    (hclosed : title.toList.getLast? = some (.char ')')) (hsuffix : suffix.length + 2 ≤ limit)
    (hopening : .char '(' ∉ suffix.toList) (hclosing : .char ')' ∉ suffix.toList) :
    IsBalanced (fitted title suffix).toList ↔
      title.length + suffix.length ≤ limit ∨
        openGroups (title.toList.take (limit - suffix.length - 2)) = 1 := by
  rcases Nat.lt_or_ge limit (title.length + suffix.length) with hlong | hfits
  · have hmark : markOf title = "…)" := if_pos (endsClosed_iff.mpr hclosed)
    have hcut : (fitted title suffix).toList =
        (title.toList.take (limit - suffix.length - 2) ++ [.char '…', .char ')']) ++
          suffix.toList := by
      rw [fitted_of_long hsuffix hlong, keptOf, hmark, Text.toList_append, Text.toList_append,
        Text.toList_ofList]
      rfl
    have hfront (front : List Point)
        (hfrom : front <+: title.toList.take (limit - suffix.length - 2)) :
        front.count (.char ')') ≤ front.count (.char '(') :=
      hbalanced.front front (hfrom.trans (List.take_prefix _ _))
    rw [hcut, isBalanced_append_iff hopening hclosing, isBalanced_closed_iff hfront,
      or_iff_right (Nat.not_le.mpr hlong)]
  · rw [fitted_of_fits hfits, Text.toList_append, isBalanced_append_iff hopening hclosing]
    simp [hbalanced, hfits]

/-- A balanced title that ends with a closing parenthesis gives a balanced title for the metric
itself, and for its previous period, exactly when the title is not cut for it or one group is open
at the cut. -/
theorem isBalanced_titles_iff (hbalanced : IsBalanced title.toList)
    (hclosed : title.toList.getLast? = some (.char ')')) :
    (IsBalanced (base (some title)).toList ↔
        title.length ≤ limit ∨ openGroups (title.toList.take (limit - 2)) = 1) ∧
      (IsBalanced (previous (some title)).toList ↔
        title.length + previousSuffix.length ≤ limit ∨
          openGroups (title.toList.take (limit - previousSuffix.length - 2)) = 1) :=
  ⟨isBalanced_fitted_iff hbalanced hclosed (by decide) (by decide) (by decide),
    isBalanced_fitted_iff hbalanced hclosed (by decide) (by decide) (by decide)⟩

/-- A group that opens late is still open at the cut of the title itself, but has not yet opened at
the earlier cut for the previous period. -/
theorem isBalanced_titles_iff_late :
    let title := Text.ofList (List.replicate 240 (.char 'a') ++ .char '(' ::
      List.replicate 20 (.char 'b') ++ [.char ')'])
    IsBalanced title.toList ∧ title.toList.getLast? = some (.char ')') ∧
      IsBalanced (base (some title)).toList ∧ ¬ IsBalanced (previous (some title)).toList := by
  intro title
  have hbalanced : IsBalanced title.toList := by
    rw [Text.toList_ofList]
    decide +kernel
  have hclosed : title.toList.getLast? = some (.char ')') := by
    rw [Text.toList_ofList]
    decide +kernel
  obtain ⟨hbase, hprevious⟩ := isBalanced_titles_iff hbalanced hclosed
  refine ⟨hbalanced, hclosed, hbase.mpr ?_, mt hprevious.mp ?_⟩
  · rw [Text.toList_ofList, Text.length_ofList]
    decide +kernel
  · rw [Text.toList_ofList, Text.length_ofList]
    decide +kernel

/-- A title whose only group is empty and stands behind the cut loses the balance: the parenthesis
that is kept closes nothing. -/
theorem base_loses_balance :
    let title := Text.ofList (List.replicate 254 (.char 'a') ++ [.char '(', .char ')'])
    IsBalanced title.toList ∧ title.toList.getLast? = some (.char ')') ∧
      ¬ IsBalanced (base (some title)).toList := by
  intro title
  have hbalanced : IsBalanced title.toList := by
    rw [Text.toList_ofList]
    decide +kernel
  have hclosed : title.toList.getLast? = some (.char ')') := by
    rw [Text.toList_ofList]
    decide +kernel
  refine ⟨hbalanced, hclosed, ?_⟩
  show ¬ IsBalanced (fitted title "").toList
  rw [isBalanced_fitted_iff hbalanced hclosed (by decide) (by decide) (by decide),
    Text.toList_ofList, Text.length_ofList]
  decide +kernel

end Title

end ChartQuery
