/-
# Restrictions of a list of filters

All filters of a list are merged into one object. Its keys are texts or null, and no two of them are
the same. Under the key of the attribute clauses stands one clause for each executable attribute
filter, in order (`IsClauseOf`); under any other key stands the range of the last executable date
filter on the dimension of that name, if there is one. So the object shows neither how the two sorts
of filters were interleaved nor what stood between them and restricts nothing (`Interleaves`).
-/

import ChartQuery.Proofs.Value.Lookup
import ChartQuery.Query.Where
import Mathlib.Data.List.Forall2
import Mathlib.Data.List.TakeWhile

namespace ChartQuery

/-! ## The last part of a text -/

namespace Text

variable {α : Type} [DecidableEq α] {sep : α} {text part : List α}

/-- The part of a text behind its last separator, or the whole text when it has none. -/
structure IsLastPart {α : Type} (sep : α) (text part : List α) : Prop where
  undivided : sep ∉ part
  ends : text = part ∨ ∃ front, text = front ++ sep :: part

theorem IsLastPart.eq_afterLast (h : IsLastPart sep text part) : part = afterLast sep text := by
  have hpart : ∀ c ∈ part.reverse, decide (c ≠ sep) = true := by
    intro c hc
    refine decide_eq_true ?_
    rintro rfl
    exact h.undivided (List.mem_reverse.mp hc)
  rcases h.ends with rfl | ⟨front, rfl⟩
  · rw [afterLast, List.takeWhile_eq_self_iff.mpr hpart, List.reverse_reverse]
  · rw [afterLast, List.reverse_append, List.reverse_cons, List.append_assoc,
      List.takeWhile_append_of_pos hpart]
    simp

theorem isLastPart_afterLast (sep : α) (text : List α) :
    IsLastPart sep text (afterLast sep text) := by
  constructor
  · intro hsep
    have hne := List.mem_takeWhile_imp (List.mem_reverse.mp hsep)
    simp at hne
  · have htext : text = (text.reverse.dropWhile (· ≠ sep)).reverse ++ afterLast sep text := by
      rw [afterLast, ← List.reverse_append, List.takeWhile_append_dropWhile, List.reverse_reverse]
    have hhead := List.head?_dropWhile_not (· ≠ sep) text.reverse
    cases hrest : text.reverse.dropWhile (· ≠ sep) with
    | nil =>
      rw [hrest] at htext
      exact Or.inl htext
    | cons c front =>
      rw [hrest] at htext hhead
      have hc : c = sep := by simpa using hhead
      rw [hc, List.reverse_cons, List.append_assoc] at htext
      exact Or.inr ⟨front.reverse, htext⟩

end Text

namespace WhereClause

open Value

/-- The clause of an attribute filter: under its display form the last parts of its elements, in
their order, inside of a negation exactly when the selection is negative. -/
def IsClauseOf (a : AttributeFilter) (clause : Value) : Prop :=
  ∃ parts : List (List Point),
    List.Forall₂ (fun (element : Text) part => Text.IsLastPart (.char '=') element.toList part)
      a.selection.elements parts ∧
    let test := ofFields [("$in", .list (parts.map fun part =>
      ofFields [("id", .text (Text.ofList part))]))]
    clause = .object [(ofText? a.displayForm,
      if a.selection.negative then ofFields [("$not", test)] else test)]

/-- The executable filters of a list of entries, those of attributes and those of dates apart. An
entry adds one of either sort, one of both, or none. -/
inductive Interleaves : List AttributeFilter → List DateFilter → List BucketFilter → Prop
  | nil : Interleaves [] [] []
  | idle {f selected ranged rest} (hselecting : f.selecting? = none) (hranging : f.ranging? = none)
      (hrest : Interleaves selected ranged rest) : Interleaves selected ranged (f :: rest)
  | selects {f a selected ranged rest} (hselecting : f.selecting? = some a)
      (hranging : f.ranging? = none) (hrest : Interleaves selected ranged rest) :
      Interleaves (a :: selected) ranged (f :: rest)
  | restricts {f d selected ranged rest} (hselecting : f.selecting? = none)
      (hranging : f.ranging? = some d) (hrest : Interleaves selected ranged rest) :
      Interleaves selected (d :: ranged) (f :: rest)
  | both {f a d selected ranged rest} (hselecting : f.selecting? = some a)
      (hranging : f.ranging? = some d) (hrest : Interleaves selected ranged rest) :
      Interleaves (a :: selected) (d :: ranged) (f :: rest)

variable {filters : List BucketFilter} {selected : List AttributeFilter} {ranged : List DateFilter}

theorem isClauseOf_attributeClause (a : AttributeFilter) : IsClauseOf a (attributeClause a) := by
  refine ⟨a.selection.elements.map fun element => Text.afterLast (.char '=') element.toList, ?_, ?_⟩
  · refine List.forall₂_map_right_iff.mpr (List.forall₂_same.mpr fun element _ => ?_)
    exact Text.isLastPart_afterLast (.char '=') element.toList
  · rw [List.map_map]
    rfl

/-- A filter has one clause. -/
theorem IsClauseOf.eq_attributeClause {a : AttributeFilter} {clause : Value}
    (h : IsClauseOf a clause) : clause = attributeClause a := by
  obtain ⟨parts, hparts, rfl⟩ := h
  have heq : parts = a.selection.elements.map
      fun element => Text.afterLast (.char '=') element.toList := by
    rw [← List.forall₂_eq_eq_eq, List.forall₂_map_right_iff]
    exact hparts.flip.imp fun part element hpart => Text.IsLastPart.eq_afterLast hpart
  rw [heq, List.map_map]
  rfl

/-! ## One object for all filters -/

/-- Under a dimension stands the last of its ranges. -/
theorem under?_rangeEntries (ranged : List DateFilter) (uri : Option Text) :
    under? uri (ofEntries (ranged.map dateEntry)) =
      ((ranged.filter (·.dateUri == uri)).getLast?).map rangeTest := by
  induction ranged using List.reverseRecOn with
  | nil => rfl
  | append_singleton before d ih =>
    rw [List.map_append, List.map_singleton, dateEntry, ofEntries_concat, List.filter_append]
    by_cases huri : d.dateUri = uri
    · rw [huri, under?_setField_self]
      simp [huri]
    · rw [under?_setField_of_ne (mt ofText?_inj.mp huri), ih]
      simp [huri]

theorem under?_ofFilters {uri : Option Text} (h : uri ≠ some ("$and" : Text)) :
    under? uri (ofFilters filters) =
      (((ranges filters).filter (·.dateUri == uri)).getLast?).map rangeTest := by
  have hkey : ofText? (some "$and") ≠ ofText? uri := mt ofText?_inj.mp (Ne.symm h)
  rw [← under?_rangeEntries]
  exact under?_setField_of_ne hkey

theorem under?_ofFilters_conjunction (filters : List BucketFilter) :
    under? (some "$and") (ofFilters filters) =
      some (.list ((selections filters).map attributeClause)) :=
  under?_setField_self (some "$and") _ _

theorem keyedByTexts_ofFilters (filters : List BucketFilter) :
    KeyedByTexts (ofFilters filters) := by
  refine (KeyedByTexts.ofEntries fun entry hentry => ?_).setField (some "$and") _
  obtain ⟨d, -, rfl⟩ := List.mem_map.mp hentry
  exact ⟨d.dateUri, rfl⟩

/-! ## Interleaved filters -/

/-- Entries interleave their own executable filters only. -/
theorem interleaves_iff :
    Interleaves selected ranged filters ↔
      selected = selections filters ∧ ranged = ranges filters := by
  constructor
  · intro h
    induction h with
    | nil => exact ⟨rfl, rfl⟩
    | idle hselecting hranging _ ih =>
      simpa [selections, ranges, hselecting, hranging] using ih
    | selects hselecting hranging _ ih =>
      simpa [selections, ranges, hselecting, hranging] using ih
    | restricts hselecting hranging _ ih =>
      simpa [selections, ranges, hselecting, hranging] using ih
    | both hselecting hranging _ ih =>
      simpa [selections, ranges, hselecting, hranging] using ih
  · rintro ⟨rfl, rfl⟩
    induction filters with
    | nil => exact .nil
    | cons f rest ih =>
      cases hselecting : f.selecting? with
      | none =>
        cases hranging : f.ranging? with
        | none => simpa [selections, ranges, hselecting, hranging] using ih.idle hselecting hranging
        | some d =>
          simpa [selections, ranges, hselecting, hranging] using ih.restricts hselecting hranging
      | some a =>
        cases hranging : f.ranging? with
        | none =>
          simpa [selections, ranges, hselecting, hranging] using ih.selects hselecting hranging
        | some d =>
          simpa [selections, ranges, hselecting, hranging] using ih.both hselecting hranging

/-- The object that a list of filters is merged into. It has texts or null as keys, each once. Under
`$and` it holds, in order, one clause for each executable attribute filter. Under any other key it
holds the range of the last executable date filter on the dimension of that name, and nothing when
there is none. Lists that interleave the same executable filters, in whatever way and with whatever
other filters between them, are merged into the same object. -/
theorem ofFilters_merges (filters : List BucketFilter) :
    KeyedByTexts (ofFilters filters) ∧
      (∃ clauses, under? (some "$and") (ofFilters filters) = some (.list clauses) ∧
        List.Forall₂ IsClauseOf (selections filters) clauses) ∧
      (∀ uri, uri ≠ some ("$and" : Text) → under? uri (ofFilters filters) =
        (((ranges filters).filter (·.dateUri == uri)).getLast?).map rangeTest) ∧
      Interleaves (selections filters) (ranges filters) filters ∧
      ∀ selected ranged others, Interleaves selected ranged filters →
        Interleaves selected ranged others → ofFilters others = ofFilters filters := by
  refine ⟨keyedByTexts_ofFilters filters, ⟨_, under?_ofFilters_conjunction filters, ?_⟩,
    fun uri huri => under?_ofFilters huri, interleaves_iff.mpr ⟨rfl, rfl⟩, ?_⟩
  · refine List.forall₂_map_right_iff.mpr (List.forall₂_same.mpr fun a _ => ?_)
    exact isClauseOf_attributeClause a
  · intro selected ranged others hfilters hothers
    obtain ⟨hselected, hranged⟩ := interleaves_iff.mp hfilters
    obtain ⟨hselected', hranged'⟩ := interleaves_iff.mp hothers
    rw [ofFilters, ofFilters, ← hselected, ← hselected', ← hranged, ← hranged']

/-- Two ranges on one dimension, the later one under another name and with a bound of null, one on
no dimension at all, and a negative selection that stands beside a range in one list and behind all
ranges in the other, between filters that restrict nothing. -/
theorem ofFilters_merges_ranges :
    let day (dimension dataSet : Option Text) (upper : Option Value) : DateFilter :=
      ⟨none, dimension, dataSet, none, some "day", some (.int 1), upper⟩
    let first := day (some "/obj/9") (some "/obj/8") (some (.int 2))
    let second := day (some "") (some "/obj/9") (some .null)
    let nowhere := day none none (some (.int 3))
    let negative : AttributeFilter := ⟨none, some "/obj/3", ⟨["/elements?id=5=6", "7"], true⟩⟩
    let idle : BucketFilter := ⟨some ⟨none, some "/obj/4", ⟨[], false⟩⟩, some (day none none none)⟩
    let filters : List BucketFilter :=
      [⟨some negative, some first⟩, ⟨none, some second⟩, ⟨none, some nowhere⟩]
    let others : List BucketFilter :=
      [idle, ⟨none, some first⟩, idle, ⟨none, some second⟩, ⟨none, some nowhere⟩,
        ⟨some negative, none⟩]
    Interleaves [negative] [first, second, nowhere] filters ∧
      Interleaves [negative] [first, second, nowhere] others ∧
      ofFilters others = ofFilters filters ∧
      under? (some "/obj/9") (ofFilters filters) = some (rangeTest second) ∧
      under? none (ofFilters filters) = some (rangeTest nowhere) ∧
      under? (some "/obj/8") (ofFilters filters) = none ∧
      under? (some "$and") (ofFilters filters) = some (.list [.object [(.text "/obj/3",
        ofFields [("$not", ofFields [("$in", .list
          [ofFields [("id", .text "6")], ofFields [("id", .text "7")]])])])]]) := by
  intro day first second nowhere negative idle filters others
  have hfilters : Interleaves [negative] [first, second, nowhere] filters :=
    interleaves_iff.mpr ⟨rfl, rfl⟩
  have hothers : Interleaves [negative] [first, second, nowhere] others :=
    interleaves_iff.mpr ⟨rfl, rfl⟩
  obtain ⟨-, ⟨clauses, hclauses, hone⟩, hranges, -, hsame⟩ := ofFilters_merges filters
  refine ⟨hfilters, hothers, hsame _ _ others hfilters hothers, (hranges _ (by decide)).trans rfl,
    (hranges _ (by decide)).trans rfl, (hranges _ (by decide)).trans rfl, hclauses.trans ?_⟩
  obtain ⟨clause, rest, hclause, hrest, rfl⟩ := List.forall₂_cons_left_iff.mp hone
  rw [List.forall₂_nil_left_iff.mp hrest, hclause.eq_attributeClause]
  rfl

end WhereClause

end ChartQuery
