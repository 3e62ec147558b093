/-
# Keys of the restrictions

Setting a field adds its key and loses none, so the restrictions of a query have a key for every
range and the key of the attribute clauses. A range without a name for its dimension is the only way
in which a null gets among the keys.
-/

import ChartQuery.Proofs.Value.Lookup
import ChartQuery.Query.Where

namespace ChartQuery

namespace Value

/-- A field whose key is null. -/
def HasNullKey (fields : Fields) : Prop :=
  ∃ entry ∈ fields, entry.1 = .null

theorem hasNullKey_cons (entry : Value × Value) (fields : Fields) :
    HasNullKey (entry :: fields) ↔ entry.1 = .null ∨ HasNullKey fields := by
  simp [HasNullKey]

/-- A field that is set may bring a null key in, and takes none away. -/
theorem hasNullKey_setField (key value : Value) (fields : Fields) :
    HasNullKey (setField key value fields) ↔ key = .null ∨ HasNullKey fields := by
  induction fields with
  | nil => simp [setField, HasNullKey]
  | cons entry rest ih =>
    obtain ⟨k, v⟩ := entry
    rw [setField]
    by_cases hsame : k.sameKey key = true
    · -- The known key stays, so a null that is set has to meet a null that is there.
      rw [if_pos hsame, hasNullKey_cons, hasNullKey_cons]
      constructor
      · exact Or.inr
      · rintro (rfl | h)
        · exact Or.inl ((sameKey_null_iff k).mp hsame)
        · exact h
    · rw [if_neg hsame, hasNullKey_cons, hasNullKey_cons, ih]
      exact or_left_comm

theorem hasNullKey_foldl_setField (entries fields : Fields) :
    HasNullKey (entries.foldl (fun fields (k, v) => setField k v fields) fields) ↔
      HasNullKey entries ∨ HasNullKey fields := by
  induction entries generalizing fields with
  | nil => simp [HasNullKey]
  | cons entry rest ih =>
    rw [List.foldl_cons, ih, hasNullKey_setField, hasNullKey_cons, or_left_comm, or_assoc]

theorem hasNullKey_ofEntries (entries : Fields) :
    HasNullKey (ofEntries entries) ↔ HasNullKey entries := by
  rw [ofEntries, hasNullKey_foldl_setField]
  simp [HasNullKey]

end Value

/-- The filter entry gives a date range on a dimension without a name. -/
def BucketFilter.RangesUnnamed (f : BucketFilter) : Prop :=
  ∃ d ∈ f.dateFilter, d.isExecutable ∧ d.dateUri = none

instance (f : BucketFilter) : Decidable f.RangesUnnamed := by
  unfold BucketFilter.RangesUnnamed
  infer_instance

namespace WhereClause

theorem hasUnnamedRange_iff (fields : Fields) :
    hasUnnamedRange fields = true ↔ Value.HasNullKey fields := by
  simp [hasUnnamedRange, Value.HasNullKey, Value.sameKey_null_iff]

/-- A range stands under no dimension exactly when some filter gives it none. -/
theorem hasUnnamedRange_ofFilters (filters : List BucketFilter) :
    hasUnnamedRange (ofFilters filters) = true ↔ ∃ f ∈ filters, f.RangesUnnamed := by
  have hconjunction : conjunctionKey ≠ .null := by simp [conjunctionKey]
  rw [hasUnnamedRange_iff, ofFilters, Value.hasNullKey_setField, Value.hasNullKey_ofEntries]
  constructor
  · rintro (h | ⟨entry, hentry, hnull⟩)
    · exact absurd h hconjunction
    · obtain ⟨d, hd, rfl⟩ := List.mem_map.mp hentry
      obtain ⟨f, hf, hranging⟩ := List.mem_filterMap.mp hd
      obtain ⟨hgiven, hexecutable⟩ := Option.filter_eq_some_iff.mp hranging
      exact ⟨f, hf, d, hgiven, hexecutable, (Value.ofText?_eq_null_iff _).mp hnull⟩
  · rintro ⟨f, hf, d, hgiven, hexecutable, hunnamed⟩
    have hranging : f.ranging? = some d := Option.filter_eq_some_iff.mpr ⟨hgiven, hexecutable⟩
    have hd : d ∈ ranges filters := List.mem_filterMap.mpr ⟨f, hf, hranging⟩
    exact Or.inr ⟨dateEntry d, List.mem_map_of_mem hd, (Value.ofText?_eq_null_iff _).mpr hunnamed⟩

/-- The clauses that restrictions hold for attributes. -/
def attributeClauses (fields : Fields) : List Value :=
  match Value.field? "$and" fields with
  | some (.list clauses) => clauses
  | _ => []

theorem attributeClauses_ofFilters (filters : List BucketFilter) :
    attributeClauses (ofFilters filters) = (selections filters).map attributeClause := by
  have hfound : Value.field? "$and" (ofFilters filters) =
      some (.list ((selections filters).map attributeClause)) := Value.field?_setField_self _ _ _
  rw [attributeClauses, hfound]

/-- A clause stands under null instead of a display form. -/
def KeyedByNull (clause : Value) : Prop :=
  ∃ fields, clause = .object fields ∧ Value.HasNullKey fields

theorem keyedByNull_attributeClause (f : AttributeFilter) :
    KeyedByNull (attributeClause f) ↔ f.displayForm = none := by
  rw [← Value.ofText?_eq_null_iff]
  constructor
  · rintro ⟨fields, hfields, entry, hentry, hnull⟩
    cases hfields
    rw [List.mem_singleton.mp hentry] at hnull
    exact hnull
  · intro hnull
    exact ⟨_, rfl, _, List.mem_singleton_self _, hnull⟩

/-- A clause stands under null exactly when some filter selects elements without a display form. -/
theorem exists_keyedByNull_iff (filters : List BucketFilter) :
    (∃ clause ∈ attributeClauses (ofFilters filters), KeyedByNull clause) ↔
      ∃ f ∈ filters, ∃ a ∈ f.selecting?, a.displayForm = none := by
  rw [attributeClauses_ofFilters]
  constructor
  · rintro ⟨clause, hclause, hnull⟩
    obtain ⟨a, ha, rfl⟩ := List.mem_map.mp hclause
    obtain ⟨f, hf, hselecting⟩ := List.mem_filterMap.mp ha
    exact ⟨f, hf, a, hselecting, (keyedByNull_attributeClause a).mp hnull⟩
  · rintro ⟨f, hf, a, hselecting, hnone⟩
    have ha : a ∈ selections filters := List.mem_filterMap.mpr ⟨f, hf, hselecting⟩
    exact ⟨attributeClause a, List.mem_map_of_mem ha, (keyedByNull_attributeClause a).mpr hnone⟩

end WhereClause

end ChartQuery
