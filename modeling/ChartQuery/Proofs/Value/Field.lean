/-
# Objects whose keys are texts

In an object whose keys are distinct texts (`WellKeyed`) every field is the one that is found under
its key, so that what holds of all fields can be said key by key (`WellKeyed.forall_mem_iff`).
-/

import ChartQuery.Proofs.Json.Writer
import ChartQuery.Proofs.Value.Lookup

namespace ChartQuery.Value

variable {fields : Fields} {name : Text} {value : Value}

/-- A field under a key that is not there yet comes behind the others. -/
theorem setField_of_fresh {key : Value} (h : ∀ entry ∈ fields, sameKey entry.1 key = false) :
    setField key value fields = fields ++ [(key, value)] := by
  induction fields with
  | nil => rfl
  | cons entry rest ih =>
    obtain ⟨k, v⟩ := entry
    have hother : ¬ sameKey k key = true := by simp [h (k, v) List.mem_cons_self]
    rw [setField, if_neg hother, ih fun e he => h e (List.mem_cons_of_mem _ he), List.cons_append]

/-- The fields have texts as keys, and no two of them the same. -/
structure WellKeyed (fields : Fields) : Prop where
  isText : ∀ entry ∈ fields, entry.1.IsText
  nodup : (fields.map (·.1)).Nodup

namespace WellKeyed

theorem tail {entry : Value × Value} (h : WellKeyed (entry :: fields)) : WellKeyed fields :=
  ⟨fun e he => h.isText e (List.mem_cons_of_mem _ he), (List.nodup_cons.mp h.nodup).2⟩

theorem init {entry : Value × Value} (h : WellKeyed (fields ++ [entry])) : WellKeyed fields := by
  constructor
  · intro e he
    exact h.isText e (List.mem_append_left _ he)
  · have hnodup := h.nodup
    rw [List.map_append, List.nodup_append] at hnodup
    exact hnodup.1

/-- Fields whose keys are apart already are what adding them one after another gives. -/
theorem ofEntries_eq (h : WellKeyed fields) : Value.ofEntries fields = fields := by
  induction fields using List.reverseRecOn with
  | nil => rfl
  | append_singleton before entry ih =>
    obtain ⟨key, value⟩ := entry
    obtain ⟨name, rfl⟩ := h.isText (key, value) (by simp)
    have hfresh : ∀ e ∈ before, sameKey e.1 (.text name) = false := by
      intro e he
      rw [Bool.eq_false_iff, ne_eq, sameKey_text_iff]
      intro hsame
      have hnodup := h.nodup
      rw [List.map_append, List.nodup_append] at hnodup
      exact hnodup.2.2 e.1 (List.mem_map_of_mem he) (.text name) (by simp) hsame
    rw [ofEntries_concat, ih h.init, setField_of_fresh hfresh]

/-- A field is there exactly when it is found. -/
theorem mem_iff (h : WellKeyed fields) :
    (.text name, value) ∈ fields ↔ field? name fields = some value := by
  induction fields with
  | nil => simp [field?]
  | cons entry rest ih =>
    obtain ⟨k, v⟩ := entry
    obtain ⟨other, rfl⟩ := h.isText (k, v) List.mem_cons_self
    have hfresh : Value.text other ∉ rest.map (·.1) := (List.nodup_cons.mp h.nodup).1
    rw [List.mem_cons, ih h.tail, field?]
    split
    · next hsame =>
      subst hsame
      have habsent : field? other rest ≠ some value := fun hfound =>
        hfresh (List.mem_map_of_mem ((ih h.tail).mpr hfound))
      simp [habsent, eq_comm]
    · next hother => simp [Ne.symm hother]

/-- What holds of all values can be said key by key. -/
theorem forall_mem_iff (h : WellKeyed fields) (P : Value → Prop) :
    (∀ entry ∈ fields, P entry.2) ↔ ∀ name value, field? name fields = some value → P value := by
  constructor
  · intro hall name value hfound
    exact hall _ (h.mem_iff.mpr hfound)
  · rintro hall ⟨key, value⟩ hentry
    obtain ⟨name, rfl⟩ := h.isText _ hentry
    exact hall name value (h.mem_iff.mp hentry)

end WellKeyed

end ChartQuery.Value
