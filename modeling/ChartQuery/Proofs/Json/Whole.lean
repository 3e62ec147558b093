/-
# JSON texts of characters only

A JSON text that is sent or printed has to have a form in UTF-8, so that no half of a surrogate pair
may stand in it. With escapes beyond ASCII there is none. Without them the halves of the texts in a
value are the only ones: what is laid around them consists of characters (`isWhole_written`).
-/

import ChartQuery.Execution.Server
import ChartQuery.Proofs.Json.Writer

namespace ChartQuery

namespace Value

mutual

/-- No text in the value holds half of a surrogate pair. -/
def isWhole : Value → Bool
  | .text s => s.isWhole
  | .list xs => areWhole xs
  | .set xs => areWhole xs
  | .object fs => fieldsAreWhole fs
  | .cyclic _ v => isWhole v
  | _ => true
termination_by structural v => v

/-- No item holds a half. -/
def areWhole : List Value → Bool
  | [] => true
  | x :: xs => isWhole x && areWhole xs
termination_by structural xs => xs

/-- No key and no value holds a half. -/
def fieldsAreWhole : List (Value × Value) → Bool
  | [] => true
  | (k, v) :: rest => isWhole k && isWhole v && fieldsAreWhole rest
termination_by structural fs => fs

end

end Value

namespace Json

variable {layout : Layout}

/-! ## The parts of a text -/

theorem isWhole_lineStart (layout : Layout) (depth : Nat) :
    (lineStart layout depth).isWhole = true := by
  unfold lineStart
  split
  · rfl
  · simp [Text.isWhole]

theorem isWhole_keySeparator (layout : Layout) : (keySeparator layout).isWhole = true := by
  unfold keySeparator
  split <;> rfl

/-- A string passes its halves on unless it is written in ASCII. -/
theorem isWhole_stringText (asciiOnly : Bool) (s : Text) :
    (stringText asciiOnly s).isWhole = (asciiOnly || s.isWhole) := by
  have hpoint : ∀ p : Point,
      (stringPoint asciiOnly p).all (!·.isHalf) = (asciiOnly || !p.isHalf) := by
    intro p
    cases p with
    | char c => simp [stringPoint]
    | half n => cases asciiOnly <;> simp [stringPoint]
  simp only [Text.isWhole, stringText, Text.toList_ofList, List.all_cons, List.all_append,
    List.all_flatMap, hpoint, List.all_nil, Point.isHalf_char, Bool.not_false, Bool.true_and,
    Bool.and_true]
  cases asciiOnly <;> simp

theorem isWhole_intText {n : Int} {text : Text} (h : intText n = .ok text) :
    text.isWhole = true := by
  unfold intText at h
  split at h
  · cases h
    exact Text.isWhole_ofString _
  · cases h

/-- Only texts have halves to pass on among the keys. -/
theorem isWhole_keyText {k : Value} {key : Text} (h : keyText k = .ok key) :
    (stringText layout.asciiOnly key).isWhole = (layout.asciiOnly || k.isWhole) := by
  rw [isWhole_stringText]
  congr 1
  cases k <;> simp only [keyText, reduceCtorEq, Except.ok.injEq] at h
  case null => rw [← h]; rfl
  case bool b => rw [← h]; cases b <;> rfl
  case int n => rw [isWhole_intText h]; rfl
  case float x => rw [← h, Text.isWhole_ofString]; rfl
  case text s => rw [h]; rfl

/-! ## Whole values -/

mutual

/-- The text of a value has no halves exactly when it is written in ASCII or the value has none. -/
theorem isWhole_written (layout : Layout) :
    ∀ (v : Value) (depth : Nat) (text : Text), written layout depth v = .ok text →
      text.isWhole = (layout.asciiOnly || v.isWhole)
  | .list [], _, _ => fun h => by
    cases h
    exact (Bool.or_true _).symm
  | .list (x :: xs), depth, _ => fun h => by
    rw [written] at h
    split at h
    · cases h
    next first hfirst =>
    split at h
    · cases h
    next rest hrest =>
    cases h
    have hx := isWhole_written layout x _ _ hfirst
    have hxs := isWhole_writtenItems layout xs _ _ hrest
    simp only [Text.isWhole_append, Text.isWhole_ofString, isWhole_lineStart, hx, hxs,
      Value.isWhole, Value.areWhole, Bool.or_and_distrib_left, Bool.true_and, Bool.and_true]
  | .object [], _, _ => fun h => by
    cases h
    exact (Bool.or_true _).symm
  | .object ((k, v) :: fs), depth, _ => fun h => by
    rw [written] at h
    split at h
    · cases h
    next key hkey =>
    split at h
    · cases h
    next value hvalue =>
    split at h
    · cases h
    next rest hrest =>
    cases h
    have hv := isWhole_written layout v _ _ hvalue
    have hfs := isWhole_writtenFields layout fs _ _ hrest
    simp only [Text.isWhole_append, Text.isWhole_ofString, isWhole_lineStart, isWhole_keySeparator,
      isWhole_keyText hkey, hv, hfs, Value.isWhole, Value.fieldsAreWhole, Bool.or_and_distrib_left,
      Bool.true_and, Bool.and_true, Bool.and_assoc]
  | .text s, _, _ => fun h => by
    cases h
    exact isWhole_stringText _ s
  | .int n, _, _ => fun h => (isWhole_intText h).trans (Bool.or_true _).symm
  | .float x, _, _ => fun h => by
    rw [written] at h
    split at h
    · cases h
    · cases h
      exact (Text.isWhole_ofString _).trans (Bool.or_true _).symm
  | .null, _, _ => fun h => by
    cases h
    exact (Bool.or_true _).symm
  | .bool b, _, _ => fun h => by
    cases h
    cases b <;> exact (Bool.or_true _).symm
  | .bytes _, _, _ => fun h => by cases h
  | .date _, _, _ => fun h => by cases h
  | .timestamp _, _, _ => fun h => by cases h
  | .set _, _, _ => fun h => by cases h
  | .cyclic _ _, _, _ => fun h => by
    rw [written] at h
    split at h <;> cases h

theorem isWhole_writtenItems (layout : Layout) :
    ∀ (xs : List Value) (depth : Nat) (text : Text), writtenItems layout depth xs = .ok text →
      text.isWhole = (layout.asciiOnly || Value.areWhole xs)
  | [], _, _ => fun h => by
    cases h
    exact (Bool.or_true _).symm
  | x :: xs, depth, _ => fun h => by
    rw [writtenItems] at h
    split at h
    · cases h
    next first hfirst =>
    split at h
    · cases h
    next rest hrest =>
    cases h
    have hx := isWhole_written layout x _ _ hfirst
    have hxs := isWhole_writtenItems layout xs _ _ hrest
    simp only [Text.isWhole_append, Text.isWhole_ofString, isWhole_lineStart, hx, hxs,
      Value.areWhole, Bool.or_and_distrib_left, Bool.true_and]

theorem isWhole_writtenFields (layout : Layout) :
    ∀ (fs : List (Value × Value)) (depth : Nat) (text : Text),
      writtenFields layout depth fs = .ok text →
      text.isWhole = (layout.asciiOnly || Value.fieldsAreWhole fs)
  | [], _, _ => fun h => by
    cases h
    exact (Bool.or_true _).symm
  | (k, v) :: fs, depth, _ => fun h => by
    rw [writtenFields] at h
    split at h
    · cases h
    next key hkey =>
    split at h
    · cases h
    next value hvalue =>
    split at h
    · cases h
    next rest hrest =>
    cases h
    have hv := isWhole_written layout v _ _ hvalue
    have hfs := isWhole_writtenFields layout fs _ _ hrest
    simp only [Text.isWhole_append, Text.isWhole_ofString, isWhole_lineStart, isWhole_keySeparator,
      isWhole_keyText hkey, hv, hfs, Value.fieldsAreWhole, Bool.or_and_distrib_left, Bool.true_and,
      Bool.and_assoc]

end

theorem isWhole_write {v : Value} {text : Text} (h : write layout v = .ok text) :
    text.isWhole = (layout.asciiOnly || v.isWhole) :=
  isWhole_written layout v 0 text h

end Json

/-- A body can be sent when it has a JSON text and holds no halves. -/
theorem exists_sentText_iff (body : Value) :
    (∃ text, sentText body = .ok text) ↔
      Json.Writable .compact body ∧ body.isWhole = true := by
  unfold sentText Json.Writable
  cases hwritten : Json.write .compact body with
  | error reason => simp
  | ok text =>
    have hwhole : text.isWhole = body.isWhole := Json.isWhole_write hwritten
    rw [← hwhole, Text.isWhole_iff]
    cases hstring : text.string with
    | error halves =>
      have hnone : ¬ ∃ s : String, text = Text.ofString s := fun ⟨s, hs⟩ => by
        rw [Text.string_eq_ok_iff.mpr hs] at hstring
        cases hstring
      simp [hstring, hnone]
    | ok s => simp [Text.string_eq_ok_iff.mp hstring]

end ChartQuery
