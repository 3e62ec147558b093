/-
# Fields under texts

The keys that matter are texts, or null where a text is missing. Setting a field changes what stands
under its own key and nothing else (`under?_setField_self`, `under?_setField_of_ne`), and it keeps
keys apart that are apart (`nodup_setField`). So fields that are added one after another under such
keys make an object in which every key stands once (`KeyedByTexts`).
-/

import ChartQuery.Value.Basic
import Mathlib.Data.List.Induction

namespace ChartQuery.Value

variable {fields : Fields} {key other : Option Text} {name : Text} {value k : Value}

/-! ## The same key -/

/-- Only null is the same key as null. -/
theorem sameKey_null_iff (key : Value) : key.sameKey .null = true ↔ key = .null := by
  cases key <;> simp [sameKey, numericKey?]

/-- Only a text is the same key as a text. -/
theorem sameKey_text_iff (k : Value) (key : Text) :
    k.sameKey (.text key) = true ↔ k = .text key := by
  cases k <;> simp [sameKey, numericKey?]

theorem sameKey_ofText?_iff (k : Value) (key : Option Text) :
    k.sameKey (.ofText? key) = true ↔ k = .ofText? key := by
  cases key with
  | none => exact sameKey_null_iff k
  | some text => exact sameKey_text_iff k text

theorem ofText?_sameKey_iff (k : Value) (key : Option Text) :
    (ofText? key).sameKey k = true ↔ k = .ofText? key := by
  rw [@eq_comm _ k]
  cases key <;> cases k <;> simp [ofText?, sameKey, numericKey?]

theorem ofText?_inj : ofText? key = ofText? other ↔ key = other := by
  cases key <;> cases other <;> simp [ofText?]

theorem ofText?_eq_null_iff (text : Option Text) : ofText? text = .null ↔ text = none := by
  cases text <;> simp [ofText?]

/-! ## What stands under a key -/

/-- What stands under a text, or under null when no text is given. -/
def under? (key : Option Text) (fields : Fields) : Option Value :=
  (fields.find? fun entry => entry.1.sameKey (.ofText? key)).map (·.2)

theorem under?_cons_self (key : Option Text) (value : Value) (fields : Fields) :
    under? key ((.ofText? key, value) :: fields) = some value := by
  have hself : (ofText? key).sameKey (ofText? key) = true := (sameKey_ofText?_iff _ key).mpr rfl
  simp [under?, hself]

/-- A field under another key, which need not be a text, is passed over. -/
theorem under?_cons_of_ne (h : k ≠ .ofText? key) :
    under? key ((k, value) :: fields) = under? key fields := by
  have hother : ¬ k.sameKey (.ofText? key) = true := mt (sameKey_ofText?_iff k key).mp h
  simp [under?, hother]

/-- A field that was set is found, and holds what it was set to. -/
theorem under?_setField_self (key : Option Text) (value : Value) (fields : Fields) :
    under? key (setField (.ofText? key) value fields) = some value := by
  induction fields with
  | nil => exact under?_cons_self key value []
  | cons entry rest ih =>
    obtain ⟨k, v⟩ := entry
    rw [setField]
    by_cases hsame : k.sameKey (.ofText? key) = true
    · rw [if_pos hsame, (sameKey_ofText?_iff k key).mp hsame, under?_cons_self]
    · rw [if_neg hsame, under?_cons_of_ne (mt (sameKey_ofText?_iff k key).mpr hsame), ih]

/-- A field that is set under another key does not change what is found. -/
theorem under?_setField_of_ne (h : k ≠ .ofText? key) :
    under? key (setField k value fields) = under? key fields := by
  induction fields with
  | nil => exact under?_cons_of_ne h
  | cons entry rest ih =>
    obtain ⟨known, v⟩ := entry
    rw [setField]
    split
    · next hsame =>
      have hknown : known ≠ .ofText? key := by
        rintro rfl
        exact h ((ofText?_sameKey_iff k key).mp hsame)
      rw [under?_cons_of_ne hknown, under?_cons_of_ne hknown]
    · by_cases hknown : known = .ofText? key
      · rw [hknown, under?_cons_self, under?_cons_self]
      · rw [under?_cons_of_ne hknown, under?_cons_of_ne hknown, ih]

/-! ## What stands under a text -/

theorem field?_cons_of_ne (h : k ≠ .text name) :
    field? name ((k, value) :: fields) = field? name fields := by
  cases k with
  | text other => rw [field?, if_neg fun heq => h (congrArg Value.text heq)]
  | _ => rfl

theorem field?_eq_under? (name : Text) (fields : Fields) :
    field? name fields = under? (some name) fields := by
  induction fields with
  | nil => rfl
  | cons entry rest ih =>
    obtain ⟨k, v⟩ := entry
    by_cases hk : k = .text name
    · rw [hk, field?, if_pos rfl]
      exact (under?_cons_self (some name) v rest).symm
    · rw [field?_cons_of_ne hk, ih]
      exact (under?_cons_of_ne hk).symm

theorem field?_setField_self (key : Text) (value : Value) (fields : Fields) :
    field? key (setField (.text key) value fields) = some value := by
  rw [field?_eq_under?]
  exact under?_setField_self (some key) value fields

/-! ## Keys -/

/-- One addition more. -/
theorem ofEntries_concat (entries : Fields) (key value : Value) :
    ofEntries (entries ++ [(key, value)]) = setField key value (ofEntries entries) := by
  rw [ofEntries, List.foldl_append]
  rfl

theorem mem_keys_setField {key k : Value} (h : k ∈ (setField key value fields).map (·.1)) :
    k = key ∨ k ∈ fields.map (·.1) := by
  induction fields with
  | nil => exact Or.inl (List.mem_singleton.mp h)
  | cons entry rest ih =>
    obtain ⟨k', v⟩ := entry
    rw [setField] at h
    split at h
    · exact Or.inr h
    · rcases List.mem_cons.mp h with rfl | hrest
      · exact Or.inr List.mem_cons_self
      · exact (ih hrest).imp_right (List.mem_cons_of_mem _)

/-- Setting a field keeps keys apart. -/
theorem nodup_setField (h : (fields.map (·.1)).Nodup) (key : Option Text) (value : Value) :
    ((setField (.ofText? key) value fields).map (·.1)).Nodup := by
  induction fields with
  | nil => simp [setField]
  | cons entry rest ih =>
    obtain ⟨k, v⟩ := entry
    obtain ⟨hfresh, hrest⟩ := List.nodup_cons.mp h
    rw [setField]
    split
    · exact h
    · next hother =>
      refine List.nodup_cons.mpr ⟨fun hk => ?_, ih hrest⟩
      rcases mem_keys_setField hk with heq | hold
      · exact hother ((sameKey_ofText?_iff k key).mpr heq)
      · exact hfresh hold

/-- The keys are texts or null, each of them there once. -/
structure KeyedByTexts (fields : Fields) : Prop where
  isText : ∀ entry ∈ fields, ∃ key, entry.1 = .ofText? key
  nodup : (fields.map (·.1)).Nodup

namespace KeyedByTexts

theorem setField (h : KeyedByTexts fields) (key : Option Text) (value : Value) :
    KeyedByTexts (setField (.ofText? key) value fields) := by
  refine ⟨fun entry hentry => ?_, nodup_setField h.nodup key value⟩
  rcases mem_keys_setField (List.mem_map_of_mem hentry) with hkey | hkey
  · exact ⟨key, hkey⟩
  · obtain ⟨known, hknown, heq⟩ := List.mem_map.mp hkey
    exact heq ▸ h.isText known hknown

/-- Additions under texts and null give distinct keys. -/
theorem ofEntries {entries : Fields} (h : ∀ entry ∈ entries, ∃ key, entry.1 = .ofText? key) :
    KeyedByTexts (ofEntries entries) := by
  induction entries using List.reverseRecOn with
  | nil => exact ⟨by simp [Value.ofEntries], List.nodup_nil⟩
  | append_singleton before entry ih =>
    obtain ⟨k, v⟩ := entry
    obtain ⟨key, rfl⟩ := h (k, v) (by simp)
    rw [ofEntries_concat]
    exact (ih fun e he => h e (List.mem_append_left _ he)).setField key v

end KeyedByTexts

end ChartQuery.Value
