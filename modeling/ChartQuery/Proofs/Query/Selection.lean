/-
# Attribute restrictions of a query

A filter that selects elements restricts a query by one clause, and the clauses stand in the order
of the filters, whatever ranges stand between them. There is one way to lose a clause: an entry that
holds a date filter is left out with the dates as a whole, and takes the attribute filter that it
may hold besides with it. The main statement says that this is the only way, and what follows for a
query with its dates and the query without them; the example after it loses its only restriction.
-/

import ChartQuery.Proofs.Query.Payload

namespace ChartQuery

/-- The entry selects elements, and holds a date filter besides. -/
def BucketFilter.SelectsBesideDate (f : BucketFilter) : Prop :=
  f.dateFilter.isSome ∧ f.selecting?.isSome

instance (f : BucketFilter) : Decidable f.SelectsBesideDate :=
  inferInstanceAs (Decidable (_ ∧ _))

/-- Some entry that selects elements is left out with the dates. -/
def Buckets.LosesSelection (b : Buckets) (options : CompileOptions) : Prop :=
  options.removeDateItems ∧ ∃ f ∈ b.filters, f.SelectsBesideDate

instance (b : Buckets) (options : CompileOptions) : Decidable (b.LosesSelection options) :=
  inferInstanceAs (Decidable (_ ∧ _))

namespace WhereClause

variable {filters : List BucketFilter}

/-- Leaving out entries leaves out selections, and changes nothing else about them. -/
theorem selections_filter_sublist (keep : BucketFilter → Bool) (filters : List BucketFilter) :
    List.Sublist (selections (filters.filter keep)) (selections filters) :=
  List.filter_sublist.filterMap BucketFilter.selecting?

/-- All selections stay exactly when no entry that is left out has one. -/
theorem selections_filter_eq_iff (keep : BucketFilter → Bool) :
    selections (filters.filter keep) = selections filters ↔
      ∀ f ∈ filters, f.selecting?.isSome → keep f = true := by
  induction filters with
  | nil => simp [selections]
  | cons f rest ih =>
    rw [List.forall_mem_cons, ← ih]
    by_cases hkeep : keep f = true
    · cases hselecting : f.selecting? with
      | none => simp [selections, hkeep, hselecting]
      | some a => simp [selections, hkeep, hselecting]
    · cases hselecting : f.selecting? with
      | none => simp [selections, hkeep, hselecting]
      | some a =>
        -- One selection is gone, so too few are left.
        have hshorter : (selections (rest.filter keep)).length < (a :: selections rest).length :=
          Nat.lt_succ_of_le (selections_filter_sublist keep rest).length_le
        have hdiffer : selections (rest.filter keep) ≠ a :: selections rest :=
          fun heq => absurd (congrArg List.length heq) (Nat.ne_of_lt hshorter)
        simpa [selections, hkeep, hselecting] using hdiffer

/-- The clauses tell as much as the selections about what was left out, although two selections may
have the same clause. -/
theorem clauses_filter_eq_iff (keep : BucketFilter → Bool) :
    (selections (filters.filter keep)).map attributeClause =
        (selections filters).map attributeClause ↔
      ∀ f ∈ filters, f.selecting?.isSome → keep f = true := by
  rw [← selections_filter_eq_iff]
  constructor
  · intro hclauses
    apply (selections_filter_sublist keep filters).eq_of_length
    simpa using congrArg List.length hclauses
  · intro hselections
    rw [hselections]

end WhereClause

namespace Compile

open WhereClause

variable {book : RuleBook} {v : Visualization} {options : CompileOptions} {c : Configuration}

/-- The entries that take part select all that the chart selects exactly when no selection is left
out with the dates. -/
theorem clauses_shown_eq_iff (b : Buckets) (options : CompileOptions) :
    (selections (shown b options).filters).map attributeClause =
        (selections b.filters).map attributeClause ↔ ¬ b.LosesSelection options := by
  rw [shown_filters, clauses_filter_eq_iff]
  unfold Buckets.LosesSelection BucketFilter.SelectsBesideDate
  by_cases hremove : options.removeDateItems = true
  · simp only [hremove, Bool.true_and, true_and, not_exists, not_and]
    apply forall₂_congr
    intro f _
    cases f.dateFilter <;> simp
  · simp [hremove]

/-- A query with columns holds the clauses of the entries that take part. -/
theorem field?_conjunction (h : withRules book v options = .ok c) (hcolumns : c.columns ≠ []) :
    Value.field? "$and" c.restrictions =
      some (.list ((selections (shown v.buckets options).filters).map attributeClause)) := by
  obtain ⟨-, -, hrestrictions⟩ := restrictions_eq h
  rw [hrestrictions, restrictions, if_neg (by simpa using hcolumns)]
  exact field?_ofFilters_conjunction

/-- So it holds the clauses of all selections of the chart unless one is left out with the dates. -/
theorem field?_conjunction_eq_iff (h : withRules book v options = .ok c)
    (hcolumns : c.columns ≠ []) :
    Value.field? "$and" c.restrictions =
        some (.list ((selections v.buckets.filters).map attributeClause)) ↔
      ¬ v.buckets.LosesSelection options := by
  rw [field?_conjunction h hcolumns, ← clauses_shown_eq_iff]
  simp only [Option.some.injEq, Value.list.injEq]

/-- How a query with columns restricts attributes, whatever rules made its metrics. Its clauses are
the translations of the selections, one for each and in their order, in the entries that take part:
all, or all without a date filter. They are those of all entries exactly when no entry that selects
elements is left out with the dates. Another query for the same chart has the same clauses exactly
when both lose a selection or none of them does. -/
theorem withRules_selects (h : withRules book v options = .ok c) (hcolumns : c.columns ≠ []) :
    Value.field? "$and" c.restrictions =
        some (.list ((selections (v.buckets.filters.filter fun f =>
          !(options.removeDateItems && f.dateFilter.isSome))).map attributeClause)) ∧
      (Value.field? "$and" c.restrictions =
          some (.list ((selections v.buckets.filters).map attributeClause)) ↔
        ¬ v.buckets.LosesSelection options) ∧
      ∀ other c', withRules book v other = .ok c' → c'.columns ≠ [] →
        (Value.field? "$and" c'.restrictions = Value.field? "$and" c.restrictions ↔
          (v.buckets.LosesSelection other ↔ v.buckets.LosesSelection options)) := by
  refine ⟨?_, field?_conjunction_eq_iff h hcolumns, ?_⟩
  · rw [← shown_filters]
    exact field?_conjunction h hcolumns
  · intro other c' h' hcolumns'
    have hall := field?_conjunction_eq_iff h hcolumns
    have hall' := field?_conjunction_eq_iff h' hcolumns'
    by_cases hlost : v.buckets.LosesSelection options
    · by_cases hlost' : v.buckets.LosesSelection other
      · -- Only a query without its dates loses anything, so both are the same query.
        have hsame : other = options := by
          rw [CompileOptions.mk.injEq, hlost.1, hlost'.1]
        subst hsame
        rw [h] at h'
        cases h'
        simp
      · have hdiffer := mt hall.mp (not_not.mpr hlost)
        rw [hall'.mpr hlost', eq_comm]
        simp [hlost, hlost', hdiffer]
    · rw [hall.mpr hlost, hall']
      simp [hlost]

/-- Two selections with a range between them, and an entry with a date filter that names an
attribute but selects nothing: without its dates the query restricts attributes as it does with
them. -/
theorem withRules_selects_without_dates :
    let range : DateFilter :=
      ⟨none, some "/gdc/md/p1/obj/9", none, none, none, some .null, some .null⟩
    let v : Visualization :=
      ⟨none, some "table",
        ⟨[⟨"/gdc/md/p1/obj/7", "metric", none, some "Orders", none, none, false, false, []⟩], [],
          [⟨some ⟨none, some "/gdc/md/p1/obj/3", ⟨["/gdc/md/p1/obj/2/elements?id=2"], true⟩⟩, none⟩,
            ⟨none, some range⟩,
            ⟨some ⟨none, some "/gdc/md/p1/obj/4", ⟨[], false⟩⟩, some range⟩,
            ⟨some ⟨none, some "/gdc/md/p1/obj/3", ⟨["/gdc/md/p1/obj/2/elements?id=5"], false⟩⟩,
              none⟩]⟩⟩
    ∃ c c', withRules .standard v ⟨false⟩ = .ok c ∧ withRules .standard v ⟨true⟩ = .ok c' ∧
      c.columns ≠ [] ∧ c'.columns ≠ [] ∧
      Value.field? "$and" c'.restrictions = Value.field? "$and" c.restrictions ∧
      Value.field? "$and" c'.restrictions =
        some (.list ((selections v.buckets.filters).map attributeClause)) ∧
      (selections v.buckets.filters).length = 2 := by
  intro range v
  have hcompiled : ∀ remove, (withRules .standard v ⟨remove⟩).toOption.map (·.columns) =
      some [("/gdc/md/p1/obj/7" : Text)] := by
    decide +kernel
  obtain ⟨c, hc, hcolumns⟩ := Option.map_eq_some_iff.mp (hcompiled false)
  obtain ⟨c', hc', hcolumns'⟩ := Option.map_eq_some_iff.mp (hcompiled true)
  replace hcolumns : c.columns ≠ [] := by simp [hcolumns]
  replace hcolumns' : c'.columns ≠ [] := by simp [hcolumns']
  replace hc := eq_ok_of_toOption hc
  replace hc' := eq_ok_of_toOption hc'
  obtain ⟨-, hall, hsame⟩ := withRules_selects hc' hcolumns'
  have hkept : ¬ v.buckets.LosesSelection ⟨true⟩ := by decide
  exact ⟨c, c', hc, hc', hcolumns, hcolumns', ((hsame ⟨false⟩ c hc hcolumns).mpr (by decide)).symm,
    hall.mpr hkept, rfl⟩

/-- An entry that selects an element of an attribute and holds a date filter, the only restriction
of the chart: without its dates the query restricts nothing. -/
theorem chart_loses_selection :
    let v : Visualization :=
      ⟨none, some "table",
        ⟨[⟨"/gdc/md/p1/obj/7", "metric", none, some "Orders", none, none, false, false, []⟩], [],
          [⟨some ⟨none, some "/gdc/md/p1/obj/3", ⟨["/gdc/md/p1/obj/2/elements?id=1"], false⟩⟩,
            some ⟨none, some "/gdc/md/p1/obj/9", none, none, none, some (.text "2020"),
              some (.text "2021")⟩⟩]⟩⟩
    selections v.buckets.filters ≠ [] ∧
      ∃ c, chart v ⟨true⟩ = .ok c ∧ c.columns = [("/gdc/md/p1/obj/7" : Text)] ∧
        Value.field? "$and" c.restrictions = some (.list []) := by
  intro v
  have hcompiled : (chart v ⟨true⟩).toOption.map (·.columns) =
      some [("/gdc/md/p1/obj/7" : Text)] := by
    decide +kernel
  obtain ⟨c, hc, hcolumns⟩ := Option.map_eq_some_iff.mp hcompiled
  have hchart := eq_ok_of_toOption hc
  exact ⟨by decide, c, hchart, hcolumns, field?_conjunction hchart (by simp [hcolumns])⟩

end Compile

end ChartQuery
