/-
# Headers find their measures

Every mapping claims the first header that is open for it. When the headers of a result stand in
the order of the columns, the mappings find them one after the other: at any time the headers that
are claimed are those of the mappings that came before, so the first open header of a mapping is
the next one, also when several columns have the same name.
-/

import ChartQuery.Execution.Header
import ChartQuery.Proofs.Query.Assembly
import ChartQuery.Proofs.Query.Failure
import Mathlib.Data.List.Forall2

namespace ChartQuery

namespace MetricMapping

/-- The mapping has an element, so that it has a column. -/
def isNamed (m : MetricMapping) : Bool :=
  m.element ≠ ""

end MetricMapping

namespace Header

variable {m : MetricMapping} {h : Header}

/-! ## Single claims -/

/-- A claimed header is not open any more. -/
theorem claimedBy_isOpenFor (h : Header) (m : MetricMapping) (element : Text) :
    (h.claimedBy m).isOpenFor element = false := by
  simp [isOpenFor, claimedBy]

/-- A mapping passes over headers that are not open for it. -/
theorem claimFirst_append {settled : List Header} (waiting : List Header)
    (hclosed : ∀ h ∈ settled, h.isOpenFor m.element = false) :
    claimFirst m (settled ++ waiting) = settled ++ claimFirst m waiting := by
  induction settled with
  | nil => rfl
  | cons h rest ih =>
    have hfirst : h.isOpenFor m.element = false := hclosed h List.mem_cons_self
    have hrest : claimFirst m (rest ++ waiting) = rest ++ claimFirst m waiting :=
      ih fun g hg => hclosed g (List.mem_cons_of_mem h hg)
    rw [List.cons_append, claimFirst, hfirst, hrest]
    rfl

/-- A mapping without an open header changes nothing. -/
theorem claimFirst_eq_self {headers : List Header}
    (hclosed : ∀ h ∈ headers, h.isOpenFor m.element = false) : claimFirst m headers = headers := by
  have happend := claimFirst_append [] hclosed
  simpa [claimFirst] using happend

/-- A mapping claims a header that is open for it. -/
theorem claimFirst_cons (rest : List Header) (hopen : h.isOpenFor m.element = true) :
    claimFirst m (h :: rest) = h.claimedBy m :: rest := by
  rw [claimFirst, if_pos hopen]

/-! ## All claims -/

/-- The settled headers are open for none of the mappings; the waiting ones are not claimed, belong
to the named mappings one by one, and none belongs to an unnamed mapping. -/
structure Aligned (mappings : List MetricMapping) (settled waiting : List Header) : Prop where
  settled_closed : ∀ h ∈ settled, ∀ m ∈ mappings, h.isOpenFor m.element = false
  waiting_unclaimed : ∀ h ∈ waiting, h.measureIndex = none
  waiting_named : ∀ h ∈ waiting, ∀ m ∈ mappings, h.isOf m.element = true → m.isNamed = true
  columns : List.Forall₂ (fun m h => h.isOf m.element = true) (mappings.filter (·.isNamed)) waiting

variable {mappings : List MetricMapping} {settled waiting : List Header}

/-- A mapping without a name finds no header. -/
theorem Aligned.unnamed (haligned : Aligned (m :: mappings) settled waiting)
    (hname : m.isNamed = false) :
    claimFirst m (settled ++ waiting) = settled ++ waiting ∧ Aligned mappings settled waiting := by
  constructor
  · apply claimFirst_eq_self
    intro h hh
    rcases List.mem_append.mp hh with hh | hh
    · exact haligned.settled_closed h hh m List.mem_cons_self
    · cases hof : h.isOf m.element with
      | false => simp [isOpenFor, hof]
      | true =>
        have hnamed := haligned.waiting_named h hh m List.mem_cons_self hof
        rw [hname] at hnamed
        cases hnamed
  · refine ⟨?_, haligned.waiting_unclaimed, ?_, ?_⟩
    · exact fun h hh n hn => haligned.settled_closed h hh n (List.mem_cons_of_mem m hn)
    · exact fun h hh n hn => haligned.waiting_named h hh n (List.mem_cons_of_mem m hn)
    · have hcolumns := haligned.columns
      rwa [List.filter_cons_of_neg (by simp [hname])] at hcolumns

/-- A mapping with a name claims the first waiting header, which is settled from then on. -/
theorem Aligned.named (haligned : Aligned (m :: mappings) settled waiting)
    (hname : m.isNamed = true) :
    ∃ next others, waiting = next :: others ∧
      claimFirst m (settled ++ waiting) = (settled ++ [next.claimedBy m]) ++ others ∧
      Aligned mappings (settled ++ [next.claimedBy m]) others := by
  have hcolumns := haligned.columns
  rw [List.filter_cons_of_pos hname, List.forall₂_cons_left_iff] at hcolumns
  obtain ⟨next, others, hof, hrest, rfl⟩ := hcolumns
  have hunclaimed := haligned.waiting_unclaimed next List.mem_cons_self
  have hopen : next.isOpenFor m.element = true := by simp [isOpenFor, hunclaimed, hof]
  refine ⟨next, others, rfl, ?_, ?_, ?_, ?_, hrest⟩
  · rw [claimFirst_append (next :: others)
      fun h hh => haligned.settled_closed h hh m List.mem_cons_self, claimFirst_cons others hopen]
    simp
  · intro h hh n hn
    rcases List.mem_append.mp hh with hh | hh
    · exact haligned.settled_closed h hh n (List.mem_cons_of_mem m hn)
    · rw [List.mem_singleton.mp hh]
      exact claimedBy_isOpenFor next m n.element
  · exact fun h hh => haligned.waiting_unclaimed h (List.mem_cons_of_mem next hh)
  · intro h hh n hn
    exact haligned.waiting_named h (List.mem_cons_of_mem next hh) n (List.mem_cons_of_mem m hn)

/-- Aligned headers are claimed one by one: the settled ones stay, and each waiting one is claimed
by the named mapping that it belongs to. -/
theorem annotate_eq (haligned : Aligned mappings settled waiting) :
    annotate mappings (settled ++ waiting) =
      settled ++ List.zipWith claimedBy waiting (mappings.filter (·.isNamed)) := by
  -- The induction is on the mappings to come: the settled part grows by one header for each named
  -- mapping, and a mapping that finds nothing leaves both parts alone.
  induction mappings generalizing settled waiting with
  | nil =>
    have hnone : waiting = [] := List.forall₂_nil_left_iff.mp haligned.columns
    rw [hnone]
    rfl
  | cons m rest ih =>
    have hstep : annotate (m :: rest) (settled ++ waiting) =
        annotate rest (claimFirst m (settled ++ waiting)) := rfl
    cases hname : m.isNamed with
    | false =>
      obtain ⟨hclaim, hrest⟩ := haligned.unnamed hname
      rw [hstep, hclaim, ih hrest, List.filter_cons_of_neg (by simp [hname])]
    | true =>
      obtain ⟨next, others, rfl, hclaim, hrest⟩ := haligned.named hname
      rw [hstep, hclaim, ih hrest, List.filter_cons_of_pos hname, List.zipWith_cons_cons,
        List.append_assoc, List.singleton_append]

end Header

namespace Compile

variable {book : RuleBook} {v : Visualization} {options : CompileOptions} {c : Configuration}

/-- The metric columns of a query are the elements of the named mappings. -/
theorem columns_eq_isNamed (h : withRules book v options = .ok c) :
    c.columns = categoryColumns v options ++ (c.mappings.filter (·.isNamed)).map (·.element) := by
  rw [columns_eq h, List.filter_map]
  rfl

/-- The headers of the result of a query are annotated as its columns were made. The headers stand
in the order of the columns, no measure has claimed any, each belongs to its column and to no
metric column of another name, and those of the categories belong to no metric column at all. Then
the headers of the categories stay as they are, there are as many others as named mappings, and
each of them is claimed by the named mapping at its place. -/
theorem annotate_withRules (h : withRules book v options = .ok c) {headers : List Header}
    (hunclaimed : ∀ g ∈ headers, g.measureIndex = none)
    (hcolumns : List.Forall₂ (fun column g => g.isOf column = true ∧
      ∀ m ∈ c.mappings, g.isOf m.element = true → m.element = column) c.columns headers)
    (hcategories : ∀ g ∈ headers.take (categoryColumns v options).length,
      ∀ m ∈ c.mappings, g.isOf m.element = false) :
    (headers.drop (categoryColumns v options).length).length =
        (c.mappings.filter (·.isNamed)).length ∧
      Header.annotate c.mappings headers =
        headers.take (categoryColumns v options).length ++
          List.zipWith Header.claimedBy (headers.drop (categoryColumns v options).length)
            (c.mappings.filter (·.isNamed)) := by
  generalize hcount : (categoryColumns v options).length = count at *
  have hmetrics := List.forall₂_drop count hcolumns
  rw [columns_eq_isNamed h, List.drop_left' hcount] at hmetrics
  have haligned : Header.Aligned c.mappings (headers.take count) (headers.drop count) := by
    refine ⟨?_, ?_, ?_, ?_⟩
    · intro g hg m hm
      simp [Header.isOpenFor, hcategories g hg m hm]
    · exact fun g hg => hunclaimed g (List.mem_of_mem_drop hg)
    · intro g hg m hm hof
      obtain ⟨place, hplace, rfl⟩ := List.mem_iff_getElem.mp hg
      have hnamed : place < ((c.mappings.filter (·.isNamed)).map (·.element)).length := by
        rw [hmetrics.length_eq]
        exact hplace
      obtain ⟨-, hown⟩ := hmetrics.get hnamed hplace
      obtain ⟨n, hn, hsame⟩ := List.mem_map.mp (List.get_mem _ ⟨place, hnamed⟩)
      rw [MetricMapping.isNamed, hown m hm hof, ← hsame]
      exact (List.mem_filter.mp hn).2
    · exact (List.forall₂_map_left_iff.mp hmetrics).imp fun m g hfits => hfits.1
  refine ⟨?_, ?_⟩
  · rw [← hmetrics.length_eq, List.length_map]
  · have hannotate := Header.annotate_eq haligned
    rwa [List.take_append_drop] at hannotate

/-- The same metric twice behind a category. The server returns both columns under one name, and
each header is given the position of its own measure. -/
theorem annotate_withRules_twice :
    let revenue : Measure :=
      ⟨"/gdc/md/p1/obj/5", "metric", none, some "Revenue", none, none, false, false, []⟩
    let v : Visualization :=
      ⟨none, some "table",
        ⟨[revenue, revenue], [⟨"/gdc/md/p1/obj/20", "attribute", none, none⟩], []⟩⟩
    let region : Header :=
      ⟨some "region", some "/gdc/md/p1/obj/20", none, some "attrLabel", none, none, []⟩
    let total : Header :=
      ⟨some "/gdc/md/p1/obj/5", none, none, some "metric", none, none, []⟩
    ∃ c, withRules .standard v .standard = .ok c ∧
      Header.annotate c.mappings [region, total, total] =
        [region, { total with measureIndex := some 0 }, { total with measureIndex := some 1 }] := by
  intro revenue v region total
  let c : Configuration :=
    ⟨["/gdc/md/p1/obj/20", "/gdc/md/p1/obj/5", "/gdc/md/p1/obj/5"], [], [],
      WhereClause.ofFilters [],
      [⟨"/gdc/md/p1/obj/5", 0, none⟩, ⟨"/gdc/md/p1/obj/5", 1, none⟩], none⟩
  have hc : withRules .standard v .standard = .ok c := rfl
  have hunclaimed : ∀ g ∈ [region, total, total], g.measureIndex = none := by
    simp [region, total]
  have hcolumns : List.Forall₂ (fun column g => g.isOf column = true ∧
      ∀ m ∈ c.mappings, g.isOf m.element = true → m.element = column) c.columns
        [region, total, total] := by
    simp [c, Header.isOf, region, total]
  have hcategories : ∀ g ∈ [region, total, total].take (categoryColumns v .standard).length,
      ∀ m ∈ c.mappings, g.isOf m.element = false := by
    have hcount : (categoryColumns v .standard).length = 1 := by decide
    simp [hcount, c, Header.isOf, region]
  exact ⟨c, hc, (annotate_withRules hc hunclaimed hcolumns hcategories).2⟩

end Compile

end ChartQuery
