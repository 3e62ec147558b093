/-
# What an accepted reading says about its parts

A reading that is accepted has accepted parts. Each way to combine readings comes with the statement
that takes an accepted result apart, so that a property of everything that was read follows from the
property of its parts. The other way round, what was written part by part is read back when each
part is.
-/

import ChartQuery.Schema.Reading

namespace ChartQuery.Schema

variable {α β : Type}

namespace Reading

theorem map_eq_accepted {f : α → β} {x : Reading α} {b : β} (h : f <$> x = .accepted b) :
    ∃ a, x = .accepted a ∧ b = f a := by
  cases x with
  | accepted a =>
    cases h
    exact ⟨a, rfl, rfl⟩
  | rejected issues => cases h

theorem seq_eq_accepted {f : Reading (α → β)} {x : Reading α} {b : β}
    (h : f <*> x = .accepted b) : ∃ g a, f = .accepted g ∧ x = .accepted a ∧ b = g a := by
  cases f with
  | accepted g =>
    cases x with
    | accepted a =>
      cases h
      exact ⟨g, a, rfl, rfl, rfl⟩
    | rejected issues => cases h
  | rejected issues => cases x <;> cases h

theorem below_eq_accepted {step : PathStep} {x : Reading α} {a : α}
    (h : x.below step = .accepted a) : x = .accepted a := by
  cases x with
  | accepted result =>
    cases h
    rfl
  | rejected issues => cases h

end Reading

/-- A record is read from an object. -/
theorem readRecord_eq_accepted {model : String} {build : Value → Reading α} {v : Value} {a : α}
    (h : readRecord model build v = .accepted a) :
    ∃ fields, v.unmarked = .object fields ∧ build v = .accepted a := by
  unfold readRecord at h
  split at h
  · next fields hfields => exact ⟨fields, hfields, h⟩
  · cases h

theorem required_eq_accepted {record : Value} {name : FieldName} {read : Value → Reading α} {a : α}
    (h : required record name read = .accepted a) : ∃ v, read v = .accepted a := by
  unfold required at h
  split at h
  · next key v _ => exact ⟨v, Reading.below_eq_accepted h⟩
  · cases h

/-- A field that may be left out was read, or has the value to fall back on. -/
theorem optional_eq_accepted {record : Value} {name : FieldName} {fallback : α}
    {read : Value → Reading α} {a : α} (h : optional record name fallback read = .accepted a) :
    a = fallback ∨ ∃ v, read v = .accepted a := by
  unfold optional at h
  split at h
  · next key v _ => exact Or.inr ⟨v, Reading.below_eq_accepted h⟩
  · cases h
    exact Or.inl rfl

theorem readOptional_eq_accepted {read : Value → Reading α} {v : Value} {a : α}
    (h : readOptional read v = .accepted (some a)) : read v = .accepted a := by
  unfold readOptional at h
  split at h
  · cases h
  · obtain ⟨found, hfound, hsome⟩ := Reading.map_eq_accepted h
    cases hsome
    exact hfound

theorem readItems_eq_accepted {read : Value → Reading α} {position : Nat} {items : List Value}
    {results : List α} (h : readItems read position items = .accepted results) :
    ∀ a ∈ results, ∃ v ∈ items, read v = .accepted a := by
  induction items generalizing position results with
  | nil =>
    cases h
    simp
  | cons item rest ih =>
    obtain ⟨build, others, hbuild, hothers, rfl⟩ := Reading.seq_eq_accepted h
    obtain ⟨first, hfirst, rfl⟩ := Reading.map_eq_accepted hbuild
    intro a ha
    rcases List.mem_cons.mp ha with rfl | ha
    · exact ⟨item, List.mem_cons_self, Reading.below_eq_accepted hfirst⟩
    · obtain ⟨v, hv, hread⟩ := ih hothers a ha
      exact ⟨v, List.mem_cons_of_mem item hv, hread⟩

/-- The mark of a collection that holds itself is not among what it gives. -/
theorem items?_unmarked (v : Value) : v.unmarked.items? = v.items? := by
  cases v <;> rfl

/-- Everything in a list that was read is an item that the reader of its items took. -/
theorem readList_eq_accepted {read : Value → Reading α} {v : Value} {results : List α}
    (h : readList read v = .accepted results) :
    ∃ items, v.items? = some items ∧ ∀ a ∈ results, ∃ item ∈ items, read item = .accepted a := by
  unfold readList at h
  rw [← items?_unmarked v]
  split at h
  · next xs hxs => exact ⟨xs, by rw [hxs]; rfl, readItems_eq_accepted h⟩
  · next xs hxs => exact ⟨xs, by rw [hxs]; rfl, readItems_eq_accepted h⟩
  · cases h

/-! ## Reading back what was written -/

namespace Reading

theorem map_of_accepted {f : α → β} {x : Reading α} {a : α} (h : x = .accepted a) :
    f <$> x = .accepted (f a) := by
  rw [h]
  rfl

theorem seq_of_accepted {f : Reading (α → β)} {x : Reading α} {g : α → β} {a : α}
    (hf : f = .accepted g) (hx : x = .accepted a) : f <*> x = .accepted (g a) := by
  rw [hf, hx]
  rfl

end Reading

theorem readItems_map {write : α → Value} {read : Value → Reading β} {f : α → β} {items : List α}
    (h : ∀ a ∈ items, read (write a) = .accepted (f a)) (position : Nat) :
    readItems read position (items.map write) = .accepted (items.map f) := by
  induction items generalizing position with
  | nil => rfl
  | cons a rest ih =>
    have hrest := ih (fun b hb => h b (List.mem_cons_of_mem _ hb)) (position + 1)
    rw [List.map_cons, readItems, h a List.mem_cons_self, hrest]
    rfl

/-- A list of written items is read as what each of them is read as. -/
theorem readList_map {write : α → Value} {read : Value → Reading β} {f : α → β} {items : List α}
    (h : ∀ a ∈ items, read (write a) = .accepted (f a)) :
    readList read (.list (items.map write)) = .accepted (items.map f) :=
  readItems_map h 0

/-- A list is read back when its items are. -/
theorem readList_map_self {write : α → Value} {read : Value → Reading α} {items : List α}
    (h : ∀ a ∈ items, read (write a) = .accepted a) :
    readList read (.list (items.map write)) = .accepted items := by
  rw [readList_map h, List.map_id']

theorem readOptional_ofText? (text : Option Text) :
    readOptional readText (.ofText? text) = .accepted text := by
  cases text <;> rfl

theorem required_of_field {record : Value} {name : FieldName} {read : Value → Reading α} {v : Value}
    {a : α} (hv : Value.field? name.wire record.fields = some v) (ha : read v = .accepted a) :
    required record name read = .accepted a := by
  simp only [required, givenField, hv, ha, Reading.below]

theorem optional_of_field {record : Value} {name : FieldName} {read : Value → Reading α} {v : Value}
    {a fallback : α} (hv : Value.field? name.wire record.fields = some v)
    (ha : read v = .accepted a) : optional record name fallback read = .accepted a := by
  simp only [optional, givenField, hv, ha, Reading.below]

theorem optional_of_absent {record : Value} {name : FieldName} {read : Value → Reading α}
    {fallback : α} (hwire : Value.field? name.wire record.fields = none)
    (halternative : Value.field? name.alternative record.fields = none) :
    optional record name fallback read = .accepted fallback := by
  simp only [optional, givenField, hwire, halternative]

end ChartQuery.Schema
