/-
# Which values have a JSON text

Whether a value can be written depends on the layout and on the value alone, not on the depth at
which it stands (`isOk_written`). So a collection can be written when everything in it can
(`writable_list`, `writable_object`), and whoever puts a value together can ask about its parts.
`Value.Hereditary` collects what such a property of values has to satisfy; the other instance is
`Value.IsJson`. What the text says is not a question here.
-/

import ChartQuery.Json.Writer

namespace ChartQuery

namespace Json

variable {layout : Layout}

/-- The value has a JSON text in the layout. -/
def Writable (layout : Layout) (v : Value) : Prop :=
  ∃ text, write layout v = .ok text

theorem writable_iff_isOk (v : Value) : Writable layout v ↔ (write layout v).isOk = true := by
  unfold Writable
  cases write layout v <;> simp [Except.isOk, Except.toBool]

/-- A text and null can be keys. -/
theorem isOk_keyText_ofText? (text : Option Text) : (keyText (.ofText? text)).isOk = true := by
  cases text <;> rfl

/-! ## One level of nesting -/

theorem isOk_writtenItems_cons (depth : Nat) (x : Value) (xs : List Value) :
    (writtenItems layout depth (x :: xs)).isOk =
      ((written layout depth x).isOk && (writtenItems layout depth xs).isOk) := by
  rw [writtenItems]
  cases written layout depth x with
  | error e => rfl
  | ok first => cases writtenItems layout depth xs <;> rfl

theorem isOk_writtenFields_cons (depth : Nat) (k v : Value) (fs : Fields) :
    (writtenFields layout depth ((k, v) :: fs)).isOk =
      ((keyText k).isOk &&
        ((written layout depth v).isOk && (writtenFields layout depth fs).isOk)) := by
  rw [writtenFields]
  cases keyText k with
  | error e => rfl
  | ok key =>
    cases written layout depth v with
    | error e => rfl
    | ok value => cases writtenFields layout depth fs <;> rfl

/-- The first item of a list is written like the further ones. -/
theorem isOk_written_list (depth : Nat) (xs : List Value) :
    (written layout depth (.list xs)).isOk = (writtenItems layout (depth + 1) xs).isOk := by
  cases xs with
  | nil => rfl
  | cons x rest =>
    rw [isOk_writtenItems_cons, written]
    cases written layout (depth + 1) x with
    | error e => rfl
    | ok first => cases writtenItems layout (depth + 1) rest <;> rfl

/-- The first field of an object is written like the further ones. -/
theorem isOk_written_object (depth : Nat) (fs : Fields) :
    (written layout depth (.object fs)).isOk = (writtenFields layout (depth + 1) fs).isOk := by
  cases fs with
  | nil => rfl
  | cons entry rest =>
    obtain ⟨k, v⟩ := entry
    rw [isOk_writtenFields_cons, written]
    cases keyText k with
    | error e => rfl
    | ok key =>
      cases written layout (depth + 1) v with
      | error e => rfl
      | ok value => cases writtenFields layout (depth + 1) rest <;> rfl

/-- A collection that holds itself is refused in any case. -/
theorem isOk_written_cyclic (depth place : Nat) (v : Value) :
    (written layout depth (.cyclic place v)).isOk = false := by
  rw [written]
  cases written layout depth v <;> rfl

/-! ## All depths -/

mutual

/-- A value that can be written at some depth can be written at every depth. -/
theorem isOk_written (layout : Layout) :
    ∀ (v : Value) (depth : Nat), (written layout depth v).isOk = (written layout 0 v).isOk
  | .list xs, depth => by
    rw [isOk_written_list, isOk_written_list, isOk_writtenItems, isOk_writtenItems]
  | .object fs, depth => by
    rw [isOk_written_object, isOk_written_object, isOk_writtenFields, isOk_writtenFields]
  | .null, _ => rfl
  | .bool _, _ => rfl
  | .int _, _ => rfl
  | .float _, _ => rfl
  | .text _, _ => rfl
  | .bytes _, _ => rfl
  | .date _, _ => rfl
  | .timestamp _, _ => rfl
  | .set _, _ => rfl
  | .cyclic _ _, _ => by rw [isOk_written_cyclic, isOk_written_cyclic]

/-- Items can be written when each of them can. -/
theorem isOk_writtenItems (layout : Layout) :
    ∀ (xs : List Value) (depth : Nat),
      (writtenItems layout depth xs).isOk = xs.all fun x => (written layout 0 x).isOk
  | [], _ => rfl
  | x :: xs, depth => by
    rw [isOk_writtenItems_cons, isOk_written layout x, isOk_writtenItems layout xs, List.all_cons]

/-- Fields can be written when each of them has a key and a value that can. -/
theorem isOk_writtenFields (layout : Layout) :
    ∀ (fs : List (Value × Value)) (depth : Nat),
      (writtenFields layout depth fs).isOk =
        fs.all fun (k, v) => (keyText k).isOk && (written layout 0 v).isOk
  | [], _ => rfl
  | (k, v) :: fs, depth => by
    rw [isOk_writtenFields_cons, isOk_written layout v, isOk_writtenFields layout fs,
      List.all_cons, Bool.and_assoc]

end

/-- A list can be written when its items can. -/
theorem writable_list (xs : List Value) :
    Writable layout (.list xs) ↔ ∀ x ∈ xs, Writable layout x := by
  simp only [writable_iff_isOk, write]
  rw [isOk_written_list, isOk_writtenItems, List.all_eq_true]

/-- An object can be written when its keys have texts and its values can be written. -/
theorem writable_object (fs : Fields) :
    Writable layout (.object fs) ↔
      ∀ entry ∈ fs, (keyText entry.1).isOk = true ∧ Writable layout entry.2 := by
  simp only [writable_iff_isOk, write]
  rw [isOk_written_object, isOk_writtenFields, List.all_eq_true]
  simp only [Bool.and_eq_true]

/-- A whole number can be written when it does not have too many digits. -/
theorem writable_int_iff (n : Int) : Writable layout (.int n) ↔ Numeral.isWritable n = true := by
  rw [writable_iff_isOk, write, written, intText]
  split
  · next hshort => exact iff_of_true rfl hshort
  · next hlong => exact iff_of_false Bool.false_ne_true hlong

end Json

namespace Value

/-- A property of values that everything atomic in JSON has, a whole number unless it has too many
digits, and that a collection has when all its values have it and its keys are keys of the right
sort. -/
structure Hereditary (IsKey P : Value → Prop) : Prop where
  null : P .null
  bool : ∀ b, P (.bool b)
  int : ∀ n, Numeral.isWritable n = true → P (.int n)
  text : ∀ s, P (.text s)
  key : ∀ s, IsKey (.text s)
  list : ∀ xs, P (.list xs) ↔ ∀ x ∈ xs, P x
  object : ∀ fs, P (.object fs) ↔ ∀ entry ∈ fs, IsKey entry.1 ∧ P entry.2

/-- The key is a text. -/
def IsText (key : Value) : Prop :=
  ∃ s, key = .text s

theorem isText_ofText?_iff (text : Option Text) : (ofText? text).IsText ↔ text ≠ none := by
  cases text <;> simp [ofText?, IsText]

theorem isJson_list (xs : List Value) : IsJson (.list xs) ↔ ∀ x ∈ xs, IsJson x := by
  rw [IsJson]
  induction xs with
  | nil => simp [AreJson]
  | cons x rest ih => rw [AreJson, ih, List.forall_mem_cons]

theorem isJson_object (fs : Fields) :
    IsJson (.object fs) ↔ ∀ entry ∈ fs, entry.1.IsText ∧ IsJson entry.2 := by
  rw [IsJson]
  induction fs with
  | nil => simp [FieldsAreJson]
  | cons entry rest ih =>
    obtain ⟨k, v⟩ := entry
    rw [FieldsAreJson, ih, List.forall_mem_cons, and_assoc]
    rfl

theorem hereditary_isJson : Hereditary IsText IsJson where
  null := trivial
  bool _ := trivial
  int _ _ := trivial
  text _ := trivial
  key s := ⟨s, rfl⟩
  list := isJson_list
  object := isJson_object

theorem hereditary_writable (layout : Json.Layout) :
    Hereditary (fun key => (Json.keyText key).isOk = true) (Json.Writable layout) where
  null := ⟨_, rfl⟩
  bool _ := ⟨_, rfl⟩
  int n hshort := (Json.writable_int_iff n).mpr hshort
  text _ := ⟨_, rfl⟩
  key _ := rfl
  list := Json.writable_list
  object := Json.writable_object

mutual

/-- Nothing that JSON can express is refused in a layout that takes all numbers, unless a whole
number has too many digits. -/
theorem writable_of_isJson {layout : Json.Layout} (hall : layout.finiteOnly = false) :
    ∀ v : Value, v.IsJson → v.isWritable = true → Json.Writable layout v
  | .list xs => fun h hshort => (Json.writable_list xs).mpr (writable_of_areJson hall xs h hshort)
  | .object fs => fun h hshort =>
    (Json.writable_object fs).mpr (writable_of_fieldsAreJson hall fs h hshort)
  | .float x => fun _ _ =>
    ⟨Json.numberText x, by simp [Json.write, Json.written, hall]⟩
  | .null => fun _ _ => ⟨_, rfl⟩
  | .bool _ => fun _ _ => ⟨_, rfl⟩
  | .int n => fun _ hshort => (Json.writable_int_iff n).mpr hshort
  | .text _ => fun _ _ => ⟨_, rfl⟩
  | .bytes _ => fun h _ => h.elim
  | .date _ => fun h _ => h.elim
  | .timestamp _ => fun h _ => h.elim
  | .set _ => fun h _ => h.elim
  | .cyclic _ _ => fun h _ => h.elim

theorem writable_of_areJson {layout : Json.Layout} (hall : layout.finiteOnly = false) :
    ∀ xs : List Value, AreJson xs → areWritable xs = true → ∀ x ∈ xs, Json.Writable layout x
  | [], _, _ => by simp
  | x :: xs, ⟨hx, hxs⟩, hshort => by
    rw [areWritable, Bool.and_eq_true] at hshort
    exact List.forall_mem_cons.mpr
      ⟨writable_of_isJson hall x hx hshort.1, writable_of_areJson hall xs hxs hshort.2⟩

theorem writable_of_fieldsAreJson {layout : Json.Layout} (hall : layout.finiteOnly = false) :
    ∀ fs : List (Value × Value), FieldsAreJson fs → fieldsAreWritable fs = true →
      ∀ entry ∈ fs, (Json.keyText entry.1).isOk = true ∧ Json.Writable layout entry.2
  | [], _, _ => by simp
  | (_, v) :: fs, ⟨⟨_, hkey⟩, hv, hfs⟩, hshort => by
    rw [fieldsAreWritable, Bool.and_eq_true, Bool.and_eq_true] at hshort
    exact List.forall_mem_cons.mpr
      ⟨⟨by rw [hkey]; rfl, writable_of_isJson hall v hv hshort.1.2⟩,
        writable_of_fieldsAreJson hall fs hfs hshort.2⟩

end

variable {IsKey P : Value → Prop}

namespace Hereditary

/-- An object with text keys. -/
theorem ofFields (h : Hereditary IsKey P) (fields : List (Text × Value)) :
    P (.ofFields fields) ↔ ∀ entry ∈ fields, P entry.2 := by
  rw [Value.ofFields, h.object, List.forall_mem_map]
  exact forall₂_congr fun entry _ => and_iff_right (h.key entry.1)

/-- A list of values that are made from others. -/
theorem listOf {α : Type} (h : Hereditary IsKey P) (f : α → Value) (xs : List α) :
    P (.list (xs.map f)) ↔ ∀ x ∈ xs, P (f x) := by
  rw [h.list, List.forall_mem_map]

theorem ofText? (h : Hereditary IsKey P) (text : Option Text) : P (.ofText? text) := by
  cases text with
  | none => exact h.null
  | some s => exact h.text s

end Hereditary

end Value

end ChartQuery
