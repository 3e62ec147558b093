/-
# What is read from JSON

Whatever a text holds, the value that is read from it is made of what JSON can express: its keys are
texts, it has no dates, no bytes and no sets, and no whole number in it has more digits than can be
written. So it has every property that passes from the parts of a value to the whole (`of_read`); in
particular it can be written again in every layout that takes all numbers.
-/

import ChartQuery.Json.Reader
import ChartQuery.Proofs.Json.Writer
import Mathlib.Data.List.TakeWhile

namespace ChartQuery

/-! ## Whole numbers -/

namespace Text

theorem digitValue?_le {c : Char} (h : isDigit c = true) : (digitValue? c).getD 0 ≤ 9 := by
  simp only [isDigit, Bool.and_eq_true, decide_eq_true_eq] at h
  have hnine : c.toNat ≤ '9'.toNat := h.2
  rw [digitValue?, if_pos h, Option.getD_some]
  exact Nat.sub_le_of_le_add hnine

theorem foldl_digits_lt {digits : List Char} (h : ∀ c ∈ digits, isDigit c = true) (acc : Nat) :
    digits.foldl (fun acc c => acc * 10 + (digitValue? c).getD 0) acc <
      (acc + 1) * Nat.pow 10 digits.length := by
  induction digits generalizing acc with
  | nil => simp
  | cons c rest ih =>
    obtain ⟨hc, hrest⟩ := List.forall_mem_cons.mp h
    have hvalue := digitValue?_le hc
    have hpow : Nat.pow 10 (c :: rest).length = 10 * Nat.pow 10 rest.length := Nat.mul_comm _ _
    refine Nat.lt_of_lt_of_le (ih hrest (acc * 10 + (digitValue? c).getD 0)) ?_
    rw [hpow, ← Nat.mul_assoc]
    exact Nat.mul_le_mul_right _ (by omega)

/-- So many digits spell a number below every power of ten that is large enough. -/
theorem numberOf_lt {digits : List Char} (h : ∀ c ∈ digits, isDigit c = true) {limit : Nat}
    (hlength : digits.length ≤ limit) : numberOf 10 digits < Nat.pow 10 limit := by
  have hlt : numberOf 10 digits < Nat.pow 10 digits.length := by
    simpa [numberOf] using foldl_digits_lt h 0
  exact Nat.lt_of_lt_of_le hlt (Nat.pow_le_pow_right (by decide) hlength)

end Text

theorem Numeral.isWritable_numberOf {digits : List Char} (h : ∀ c ∈ digits, Text.isDigit c = true)
    (hlength : digits.length ≤ digitLimit) (negative : Bool) :
    isWritable (if negative then -(Text.numberOf 10 digits : Int) else Text.numberOf 10 digits) =
      true := by
  have hlt := Text.numberOf_lt h hlength
  rw [isWritable, decide_eq_true_eq]
  cases negative
  · rw [if_neg Bool.false_ne_true, Int.natAbs_natCast]
    exact hlt
  · rw [if_pos rfl, Int.natAbs_neg, Int.natAbs_natCast]
    exact hlt

namespace Json

/-! ## Parts -/

variable {IsKey P : Value → Prop} (hP : Value.Hereditary IsKey P) (hfloat : ∀ x, P (.float x))
variable {text after : List Char} {v : Value}

include hP

/-- An object that has the property keeps it when such a value is set under a text. -/
theorem of_setField {fields : Fields} {name : Text} {value : Value} (hfields : P (.object fields))
    (hvalue : P value) : P (.object (Value.setField (.text name) value fields)) := by
  rw [hP.object] at hfields ⊢
  induction fields with
  | nil => exact List.forall_mem_cons.mpr ⟨⟨hP.key name, hvalue⟩, nofun⟩
  | cons entry rest ih =>
    obtain ⟨hentry, hrest⟩ := List.forall_mem_cons.mp hfields
    rw [Value.setField]
    split
    · exact List.forall_mem_cons.mpr ⟨⟨hentry.1, hvalue⟩, hrest⟩
    · exact List.forall_mem_cons.mpr ⟨hentry, ih hrest⟩

theorem of_wholeNumber {negative : Bool} {digits : List Char}
    (hdigits : ∀ c ∈ digits, Text.isDigit c = true)
    (h : wholeNumber negative digits text = .ok (v, after)) : P v := by
  unfold wholeNumber at h
  split at h
  · cases h
  · next hshort =>
    cases h
    exact hP.int _ (Numeral.isWritable_numberOf hdigits (Nat.le_of_not_lt hshort) negative)

include hfloat

theorem of_word? (h : word? text = some (v, after)) : P v := by
  obtain ⟨found, hfound, heq⟩ := Option.map_eq_some_iff.mp h
  have hmem : found ∈ words := List.mem_of_find?_eq_some hfound
  have hall : ∀ w ∈ words, P w.2 := by simp [words, hP.null, hP.bool, hfloat]
  cases heq
  exact hall found hmem

theorem of_number? {negative : Bool} (h : number? negative text = some (.ok (v, after))) : P v := by
  unfold number? at h
  dsimp only at h
  split at h
  · cases h
  · next whole afterWhole hnonempty hinteger =>
    have hdigits : ∀ c ∈ whole, Text.isDigit c = true := by
      split at hinteger
      · cases hinteger
        intro c hc
        rw [List.mem_singleton.mp hc]
        rfl
      · cases hinteger
        exact fun c hc => List.mem_takeWhile_imp hc
    split at h
    · exact of_wholeNumber hP hdigits (Option.some.inj h)
    · cases h
      exact hfloat _

theorem of_scalar (h : scalar text = .ok (v, after)) : P v := by
  unfold scalar at h
  split at h
  · next found hword =>
    cases h
    exact of_word? hP hfloat hword
  · dsimp only at h
    split at h
    · next step hnumber =>
      cases h
      split at hnumber
      · exact of_number? hP hfloat hnumber
      · exact of_number? hP hfloat hnumber
    · cases h

/-! ## Values -/

/-- The readers that may use so many steps find only what has the property. -/
structure FindsOnly (P : Value → Prop) (bound : Nat) : Prop where
  value {text : List Char} {v : Value} {after : List Char} :
    value bound text = .ok (v, after) → P v
  items {read : List Value} {text : List Char} {xs : List Value} {after : List Char} :
    (∀ x ∈ read, P x) → items bound read text = .ok (xs, after) → ∀ x ∈ xs, P x
  fields {read : Fields} {text : List Char} {fs : Fields} {after : List Char} :
    P (.object read) → fields bound read text = .ok (fs, after) → P (.object fs)

section Step

variable {bound : Nat} (ih : FindsOnly P bound)
include ih

theorem of_value_succ (h : value (bound + 1) text = .ok (v, after)) : P v := by
  unfold value at h
  split at h
  · split at h
    · cases h
      exact (hP.list []).mpr (List.forall_mem_nil P)
    · split at h
      · cases h
      · next xs rest hitems =>
        cases h
        exact (hP.list xs).mpr (ih.items (List.forall_mem_nil P) hitems)
  · split at h
    · cases h
      exact (hP.object []).mpr (List.forall_mem_nil _)
    · split at h
      · cases h
      · next fs rest hfields =>
        cases h
        exact ih.fields ((hP.object []).mpr (List.forall_mem_nil _)) hfields
  · split at h
    · cases h
    · cases h
      exact hP.text _
  · exact of_scalar hP hfloat h

omit hP hfloat in
theorem of_items_succ {read xs : List Value} (hread : ∀ x ∈ read, P x)
    (h : items (bound + 1) read text = .ok (xs, after)) : ∀ x ∈ xs, P x := by
  unfold items at h
  split at h
  · cases h
  · next v rest hvalue =>
    have hall : ∀ x ∈ v :: read, P x := List.forall_mem_cons.mpr ⟨ih.value hvalue, hread⟩
    split at h
    · cases h
      exact fun x hx => hall x (List.mem_reverse.mp hx)
    · exact ih.items hall h
    · cases h

omit hfloat in
theorem of_fields_succ {read fs : Fields} (hread : P (.object read))
    (h : fields (bound + 1) read text = .ok (fs, after)) : P (.object fs) := by
  unfold fields at h
  split at h
  · split at h
    · cases h
    · next key afterKey hkey =>
      split at h
      · split at h
        · cases h
        · next v rest hvalue =>
          have hall : P (.object (Value.setField (.text key) v read)) :=
            of_setField hP hread (ih.value hvalue)
          dsimp only at h
          split at h
          · cases h
            exact hall
          · exact ih.fields hall h
          · cases h
      · cases h
  · cases h

end Step

theorem findsOnly (bound : Nat) : FindsOnly P bound := by
  induction bound with
  | zero => exact ⟨nofun, fun _ => nofun, fun _ => nofun⟩
  | succ bound ih =>
    exact ⟨of_value_succ hP hfloat ih, of_items_succ ih, of_fields_succ hP ih⟩

/-- What is read from a text has every property that passes from parts to the whole and that all
numbers have. -/
theorem of_read {text : String} (h : read text = .ok v) : P v := by
  unfold read at h
  dsimp only at h
  split at h
  · next found hchars =>
    cases h
    unfold readChars at hchars
    split at hchars
    · cases hchars
    · next found rest hvalue =>
      split at hchars
      · cases hchars
        exact (findsOnly hP hfloat _).value hvalue
      · cases hchars
  · cases h

end Json

end ChartQuery
