/-
# Mappings and headers are matched

Annotating assigns headers to mappings: no header goes to two mappings, and none that had a measure
before goes to any (`IsMatching`). The matching cannot be extended, because a mapping goes away
empty only when all headers of its element have a measure in the end, and it respects the order of
mappings that ask for the same element. A single claim is the step: it changes the first header that
is open for its mapping and no other one, and what later mappings are matched with in the changed
headers, they are matched with in the headers from before.
-/

import ChartQuery.Proofs.Execution.Alignment

namespace ChartQuery.Header

/-- The position of the header that the mapping at a position claims, if it finds one. -/
def claimedPlace : List MetricMapping → List Header → Nat → Option Nat
  | [], _, _ => none
  | m :: _, headers, 0 => headers.findIdx? (·.isOpenFor m.element)
  | m :: rest, headers, i + 1 => claimedPlace rest (claimFirst m headers) i

/-- Mappings are matched with headers, both given by their positions; `before` and `after` are the
headers before and after. -/
structure IsMatching (mappings : List MetricMapping) (before after : List Header)
    (place : Nat → Option Nat) : Prop where
  /-- A header that is matched had no measure and belongs to the element of its mapping, whose
  measure and flag it takes over. The rest of it stays. -/
  matched : ∀ i p, place i = some p → ∃ m h, mappings[i]? = some m ∧ before[p]? = some h ∧
    h.measureIndex = none ∧ h.isOf m.element = true ∧
    after[p]? = some { h with measureIndex := some m.measureIndex, isPrevious := m.isPrevious }
  /-- No header is matched with two mappings. -/
  injective : ∀ i j p, place i = some p → place j = some p → i = j
  /-- Headers that are not matched stay as they are. -/
  kept : ∀ p, (∀ i, place i ≠ some p) → after[p]? = before[p]?
  /-- A mapping without a header leaves no header of its element without a measure. -/
  maximal : ∀ i m, mappings[i]? = some m → place i = none →
    ∀ h ∈ after, h.isOf m.element = true → h.measureIndex ≠ none
  /-- Of two mappings with one element the earlier one has a header when the later one has one, and
  one that stands before it. -/
  ordered : ∀ i j m n q, i < j → mappings[i]? = some m → mappings[j]? = some n →
    m.element = n.element → place j = some q → ∃ p, place i = some p ∧ p < q

variable {m : MetricMapping} {rest : List MetricMapping} {headers after : List Header}
variable {h : Header} {p : Nat}

theorem isOpenFor_iff (h : Header) (element : Text) :
    h.isOpenFor element = true ↔ h.measureIndex = none ∧ h.isOf element = true := by
  rw [isOpenFor, Bool.and_eq_true, Option.isNone_iff_eq_none]

/-! ## Single claims -/

theorem length_claimFirst (m : MetricMapping) (headers : List Header) :
    (claimFirst m headers).length = headers.length := by
  induction headers with
  | nil => rfl
  | cons h rest ih =>
    rw [claimFirst]
    split
    · rfl
    · rw [List.length_cons, ih, List.length_cons]

/-- A claim changes the first header that is open for the mapping and no other one. -/
theorem getElem?_claimFirst (m : MetricMapping) (headers : List Header) (p : Nat) :
    (claimFirst m headers)[p]? =
      if headers.findIdx? (·.isOpenFor m.element) = some p then headers[p]?.map (·.claimedBy m)
      else headers[p]? := by
  induction headers generalizing p with
  | nil => simp [claimFirst]
  | cons h rest ih =>
    rw [claimFirst, List.findIdx?_cons]
    by_cases hopen : h.isOpenFor m.element = true
    · cases p <;> simp [hopen]
    · cases p with
      | zero => simp [hopen]
      | succ p => simp [hopen, ih]

/-- The header that is claimed was open. -/
theorem exists_claimed (hplace : headers.findIdx? (·.isOpenFor m.element) = some p) :
    ∃ h, headers[p]? = some h ∧ h.isOpenFor m.element = true ∧
      (claimFirst m headers)[p]? = some (h.claimedBy m) := by
  obtain ⟨hp, hopen, -⟩ := List.findIdx?_eq_some_iff_getElem.mp hplace
  refine ⟨headers[p], List.getElem?_eq_getElem hp, hopen, ?_⟩
  rw [getElem?_claimFirst, if_pos hplace, List.getElem?_eq_getElem hp, Option.map_some]

theorem getElem?_claimFirst_of_ne (hplace : headers.findIdx? (·.isOpenFor m.element) ≠ some p) :
    (claimFirst m headers)[p]? = headers[p]? := by
  rw [getElem?_claimFirst, if_neg hplace]

/-- A header without a measure was not claimed just now, and stood there before. -/
theorem unclaimed_of_claimFirst (hp : (claimFirst m headers)[p]? = some h)
    (hunclaimed : h.measureIndex = none) :
    headers.findIdx? (·.isOpenFor m.element) ≠ some p ∧ headers[p]? = some h := by
  have hplace : headers.findIdx? (·.isOpenFor m.element) ≠ some p := by
    intro hplace
    obtain ⟨g, -, -, hclaimed⟩ := exists_claimed hplace
    rw [hclaimed, Option.some.injEq] at hp
    rw [← hp] at hunclaimed
    cases hunclaimed
  exact ⟨hplace, getElem?_claimFirst_of_ne hplace ▸ hp⟩

/-- A header that is open for a mapping is passed over only for one that stands before it. -/
theorem exists_place_before {q : Nat} (hq : headers[q]? = some h)
    (hopen : h.isOpenFor m.element = true)
    (hne : headers.findIdx? (·.isOpenFor m.element) ≠ some q) :
    ∃ p, headers.findIdx? (·.isOpenFor m.element) = some p ∧ p < q := by
  obtain ⟨hlength, hget⟩ := List.getElem?_eq_some_iff.mp hq
  cases hplace : headers.findIdx? (·.isOpenFor m.element) with
  | none =>
    have hclosed := List.findIdx?_eq_none_iff.mp hplace h (List.mem_of_getElem? hq)
    rw [hopen] at hclosed
    cases hclosed
  | some p =>
    obtain ⟨hp, -, hfirst⟩ := List.findIdx?_eq_some_iff_getElem.mp hplace
    have hle : p ≤ q := Nat.le_of_not_lt fun hbefore => hfirst q hbefore (hget ▸ hopen)
    exact ⟨p, rfl, Nat.lt_of_le_of_ne hle fun heq => hne (heq ▸ hplace)⟩

/-! ## A claim before others -/

namespace IsMatching

/-- A header that has no measure in the end was matched with no mapping. -/
theorem ne_of_unclaimed {mappings : List MetricMapping} {before : List Header}
    {place : Nat → Option Nat} (hmatching : IsMatching mappings before after place)
    (hp : after[p]? = some h) (hunclaimed : h.measureIndex = none) (i : Nat) :
    place i ≠ some p := by
  intro hi
  obtain ⟨m, g, -, -, -, -, hafter⟩ := hmatching.matched i p hi
  rw [hafter, Option.some.injEq] at hp
  rw [← hp] at hunclaimed
  cases hunclaimed

variable (hrest : IsMatching rest (claimFirst m headers) after
  (claimedPlace rest (claimFirst m headers)))

include hrest

/-- The header that was claimed first is matched with no later mapping. -/
theorem ne_of_claimed (hplace : headers.findIdx? (·.isOpenFor m.element) = some p) (i : Nat) :
    claimedPlace rest (claimFirst m headers) i ≠ some p := by
  intro hlater
  obtain ⟨-, h, -, hp, hunclaimed, -⟩ := hrest.matched i p hlater
  exact (unclaimed_of_claimFirst hp hunclaimed).1 hplace

/-- What the later mappings are matched with is what they are matched with behind the first one. -/
theorem cons : IsMatching (m :: rest) headers after (claimedPlace (m :: rest) headers) where
  matched i p hplace := by
    cases i with
    | zero =>
      obtain ⟨h, hp, hopen, hclaimed⟩ := exists_claimed hplace
      obtain ⟨hunclaimed, hof⟩ := (isOpenFor_iff h m.element).mp hopen
      refine ⟨m, h, rfl, hp, hunclaimed, hof, ?_⟩
      rw [hrest.kept p (hrest.ne_of_claimed hplace), hclaimed, claimedBy]
    | succ i =>
      obtain ⟨n, h, hn, hp, hunclaimed, hof, hafter⟩ := hrest.matched i p hplace
      exact ⟨n, h, hn, (unclaimed_of_claimFirst hp hunclaimed).2, hunclaimed, hof, hafter⟩
  injective i j p hi hj := by
    cases i with
    | zero =>
      cases j with
      | zero => rfl
      | succ j => exact absurd hj (hrest.ne_of_claimed hi j)
    | succ i =>
      cases j with
      | zero => exact absurd hi (hrest.ne_of_claimed hj i)
      | succ j => rw [hrest.injective i j p hi hj]
  kept p hnone := by
    rw [hrest.kept p fun i => hnone (i + 1), getElem?_claimFirst_of_ne (hnone 0)]
  maximal i n hn hnone h hmem hof := by
    cases i with
    | zero =>
      cases hn
      intro hunclaimed
      -- Nothing gave this header a measure, so it stood open for the first mapping.
      obtain ⟨p, hp⟩ := List.mem_iff_getElem?.mp hmem
      rw [hrest.kept p (hrest.ne_of_unclaimed hp hunclaimed)] at hp
      have hbefore := List.mem_of_getElem? (unclaimed_of_claimFirst hp hunclaimed).2
      have hclosed := List.findIdx?_eq_none_iff.mp hnone h hbefore
      rw [(isOpenFor_iff h m.element).mpr ⟨hunclaimed, hof⟩] at hclosed
      cases hclosed
    | succ i => exact hrest.maximal i n hn hnone h hmem hof
  ordered i j n k q hlt hn hk hsame hq := by
    cases j with
    | zero => exact absurd hlt (Nat.not_lt_zero i)
    | succ j =>
      cases i with
      | zero =>
        cases hn
        obtain ⟨k', h, hk', hp, hunclaimed, hof, -⟩ := hrest.matched j q hq
        obtain rfl : k' = k := Option.some.inj (hk'.symm.trans hk)
        obtain ⟨hne, hbefore⟩ := unclaimed_of_claimFirst hp hunclaimed
        have hopen : h.isOpenFor m.element = true :=
          (isOpenFor_iff h m.element).mpr ⟨hunclaimed, hsame ▸ hof⟩
        exact exists_place_before hbefore hopen hne
      | succ i =>
        exact hrest.ordered i j n k q (Nat.lt_of_succ_lt_succ hlt) hn hk hsame hq

end IsMatching

/-! ## All claims -/

theorem isMatching_claimedPlace (mappings : List MetricMapping) (headers : List Header) :
    IsMatching mappings headers (annotate mappings headers) (claimedPlace mappings headers) := by
  induction mappings generalizing headers with
  | nil =>
    refine ⟨?_, ?_, fun _ _ => rfl, ?_, ?_⟩ <;> simp [claimedPlace]
  | cons m rest ih => exact (ih (claimFirst m headers)).cons

theorem length_annotate (mappings : List MetricMapping) (headers : List Header) :
    (annotate mappings headers).length = headers.length := by
  induction mappings generalizing headers with
  | nil => rfl
  | cons m rest ih =>
    have hstep : annotate (m :: rest) headers = annotate rest (claimFirst m headers) := rfl
    rw [hstep, ih, length_claimFirst]

/-- Annotating keeps the number of headers and matches mappings with headers: each with at most one,
which belongs to its element and had no measure, and no two with the same. A mapping that has none
could not be given one besides, and mappings of one element are matched in the order of their
headers. Only the measure and the flag of matched headers change, whatever headers had a measure
before and however their names overlap. -/
theorem annotate_matches (mappings : List MetricMapping) (headers : List Header) :
    (annotate mappings headers).length = headers.length ∧
      ∃ place, IsMatching mappings headers (annotate mappings headers) place :=
  ⟨length_annotate mappings headers, _, isMatching_claimedPlace mappings headers⟩

/-- The first header has the names of both elements, and the second one has a measure already: the
mapping of the other element goes away empty, and the last mapping takes the last header. -/
example :
    let headers : List Header :=
      [⟨some "a", some "b", none, none, none, none, []⟩,
        ⟨some "a", none, none, none, some 7, none, []⟩,
        ⟨none, some "a", none, none, none, none, []⟩]
    [0, 1, 2].map (claimedPlace [⟨"a", 0, none⟩, ⟨"b", 1, none⟩, ⟨"a", 2, some true⟩] headers) =
      [some 0, none, some 2] := by
  decide

end ChartQuery.Header
