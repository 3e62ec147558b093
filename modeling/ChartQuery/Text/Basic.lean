/-
# Texts

A text is a list of code points. A code point is a character or half of a surrogate pair that
stands alone, as an escape in a file or in a reply can make it. `Text.string` is the text as a
string of characters; a text that holds a half has none, and nothing that must be written in UTF-8
can be made of it.
-/

namespace ChartQuery

/-- A place of a text: a character, or a half of a surrogate pair, counted from the first half. -/
inductive Point where
  | char (c : Char)
  | half (n : Fin 0x800)
  deriving DecidableEq, Repr, Inhabited

instance : Coe Char Point := ⟨Point.char⟩

/-- A text by its code points. -/
structure Text where
  ofList ::
  toList : List Point
  deriving DecidableEq, Repr, Inhabited

/-- Why a text has no form in UTF-8: where its first halves stand, how many they are, and which one
is the first. -/
structure Unencodable where
  position : Nat
  count : Nat
  first : Fin 0x800
  deriving DecidableEq, Repr, Inhabited

namespace Point

/-- The number of a code point. -/
def code : Point → Nat
  | char c => c.toNat
  | half n => 0xD800 + n.val

/-- The code point with a number; numbers beyond the last one give the replacement of an unreadable
character. -/
def ofCode (n : Nat) : Point :=
  if h : 0xD800 ≤ n ∧ n < 0xE000 then half ⟨n - 0xD800, by omega⟩ else char (Char.ofNat n)

/-- A capital ASCII letter becomes small, all else stays. -/
def toLower : Point → Point
  | char c => char c.toLower
  | half n => half n

/-- The code point is half of a surrogate pair. -/
def isHalf : Point → Bool
  | char _ => false
  | half _ => true

/-- The character that a code point is, unless it is a half. -/
def char? : Point → Option Char
  | char c => some c
  | half _ => none

/-- The code point is a character with a property. -/
def meets (p : Char → Bool) : Point → Bool
  | char c => p c
  | half _ => false

@[simp] theorem isHalf_char (c : Char) : (char c).isHalf = false := rfl

@[simp] theorem isHalf_half (n : Fin 0x800) : (half n).isHalf = true := rfl

@[simp] theorem meets_char (p : Char → Bool) (c : Char) : (char c).meets p = p c := rfl

@[simp] theorem meets_half (p : Char → Bool) (n : Fin 0x800) : (half n).meets p = false := rfl

@[simp] theorem code_char (c : Char) : (char c).code = c.toNat := rfl

end Point

namespace Text

/-- The text of a string of characters. -/
def ofString (s : String) : Text :=
  ofList (s.toList.map .char)

instance : Coe String Text := ⟨ofString⟩

instance : Append Text := ⟨fun s t => ofList (s.toList ++ t.toList)⟩

instance : LT Text := ⟨fun s t => s.toList.map Point.code < t.toList.map Point.code⟩

instance (s t : Text) : Decidable (s < t) :=
  inferInstanceAs (Decidable (s.toList.map Point.code < t.toList.map Point.code))

/-- The number of code points. -/
def length (t : Text) : Nat :=
  t.toList.length

/-- The text has no code point. -/
def isEmpty (t : Text) : Bool :=
  t.toList.isEmpty

/-- The characters of code points from `position` on, or the first halves among them. -/
def charsFrom (position : Nat) : List Point → Except Unencodable (List Char)
  | [] => .ok []
  | .char c :: rest => (charsFrom (position + 1) rest).map (c :: ·)
  | .half n :: rest => .error ⟨position, (rest.takeWhile Point.isHalf).length + 1, n⟩

/-- The characters among code points. -/
def characters (points : List Point) : List Char :=
  points.filterMap Point.char?

/-- The characters that code points are, unless one of them is a half. -/
def characters? (points : List Point) : Option (List Char) :=
  (charsFrom 0 points).toOption

/-- The string that is the text, or the halves that keep it from being one. -/
def string (t : Text) : Except Unencodable String :=
  (charsFrom 0 t.toList).map String.ofList

/-- The string that is the text, if there is one. -/
def string? (t : Text) : Option String :=
  t.string.toOption

/-- The text is one of characters only. -/
def isWhole (t : Text) : Bool :=
  t.toList.all (!·.isHalf)

section Laws

variable (s t u : Text)

@[simp] theorem toList_ofList (points : List Point) : (ofList points).toList = points := rfl

@[simp] theorem ofList_toList : ofList t.toList = t := rfl

@[simp] theorem toList_append : (s ++ t).toList = s.toList ++ t.toList := rfl

theorem ofList_append (front back : List Point) :
    ofList (front ++ back) = ofList front ++ ofList back := rfl

@[simp] theorem toList_ofString (a : String) : (ofString a).toList = a.toList.map .char := rfl

theorem toList_inj : s.toList = t.toList ↔ s = t := by
  cases s
  cases t
  simp

@[simp] theorem ofList_inj (front back : List Point) : ofList front = ofList back ↔ front = back :=
  ⟨ofList.inj, congrArg ofList⟩

@[simp] theorem ofString_inj (a b : String) : ofString a = ofString b ↔ a = b := by
  rw [ofString, ofString, ofList_inj, List.map_inj_right fun _ _ => Point.char.inj,
    String.toList_inj]

@[simp] theorem length_toList : t.toList.length = t.length := rfl

@[simp] theorem length_ofList (points : List Point) : (ofList points).length = points.length := rfl

@[simp] theorem length_ofString (a : String) : (ofString a).length = a.length := by
  simp [ofString, String.length_toList]

@[simp] theorem length_append : (s ++ t).length = s.length + t.length :=
  List.length_append

theorem append_assoc : s ++ t ++ u = s ++ (t ++ u) :=
  (toList_inj _ _).mp (List.append_assoc ..)

@[simp] theorem append_empty : s ++ ofString "" = s :=
  (toList_inj _ _).mp (List.append_nil _)

@[simp] theorem empty_append : ofString "" ++ s = s :=
  (toList_inj _ _).mp (List.nil_append _)

theorem isEmpty_iff : t.isEmpty = true ↔ t = ofString "" := by
  rw [isEmpty, List.isEmpty_iff, ← toList_inj]
  rfl

theorem length_eq_zero_iff : t.length = 0 ↔ t = ofString "" := by
  rw [length, List.length_eq_zero_iff, ← toList_inj]
  rfl

end Laws

theorem charsFrom_eq_ok_iff {position : Nat} {points : List Point} {chars : List Char} :
    charsFrom position points = .ok chars ↔ points = chars.map .char := by
  induction points generalizing position chars with
  | nil => cases chars <;> simp [charsFrom]
  | cons p rest ih =>
    cases p with
    | half n => cases chars <;> simp [charsFrom]
    | char c =>
      rw [charsFrom]
      cases h : charsFrom (position + 1) rest with
      | error e =>
        cases chars with
        | nil => simp [Except.map]
        | cons d others =>
          have hrest : rest ≠ others.map .char := fun hrest => by
            rw [ih.mpr hrest] at h
            cases h
          simp [Except.map, hrest]
      | ok tail =>
        rw [ih.mp h]
        cases chars with
        | nil => simp [Except.map]
        | cons d others =>
          simp [Except.map, List.map_inj_right fun _ _ => Point.char.inj]

/-- Characters behind code points leave the halves where they are. -/
theorem charsFrom_append_chars (position : Nat) (points : List Point) (chars : List Char) :
    charsFrom position (points ++ chars.map .char) =
      (charsFrom position points).map (· ++ chars) := by
  induction points generalizing position with
  | nil => exact charsFrom_eq_ok_iff.mpr rfl
  | cons p rest ih =>
    cases p with
    | char c =>
      rw [List.cons_append, charsFrom, charsFrom, ih]
      cases charsFrom (position + 1) rest <;> rfl
    | half n =>
      have hnone : (chars.map Point.char).takeWhile Point.isHalf = [] := by
        cases chars <;> rfl
      have hrun : (rest ++ chars.map Point.char).takeWhile Point.isHalf =
          rest.takeWhile Point.isHalf := by
        rw [List.takeWhile_append, hnone, List.append_nil]
        split
        · next hall => exact (List.takeWhile_prefix Point.isHalf).eq_of_length hall |>.symm
        · rfl
      rw [List.cons_append, charsFrom, charsFrom, hrun]
      rfl

/-- A text has a string exactly when it is the text of that string. -/
theorem string_eq_ok_iff {t : Text} {s : String} : t.string = .ok s ↔ t = ofString s := by
  rw [string]
  cases h : charsFrom 0 t.toList with
  | error e =>
    have hne : t ≠ ofString s := fun hsame => by
      rw [hsame, charsFrom_eq_ok_iff.mpr (toList_ofString s)] at h
      cases h
    simp [Except.map, hne]
  | ok chars =>
    rw [charsFrom_eq_ok_iff] at h
    rw [← toList_inj, h]
    simp [Except.map, List.map_inj_right fun _ _ => Point.char.inj, ← String.toList_inj]

@[simp] theorem string_ofString (s : String) : (ofString s).string = .ok s :=
  string_eq_ok_iff.mpr rfl

@[simp] theorem string?_ofString (s : String) : (ofString s).string? = some s := by
  simp [string?, Except.toOption]

theorem string?_eq_some_iff {t : Text} {s : String} : t.string? = some s ↔ t = ofString s := by
  rw [string?, ← string_eq_ok_iff]
  cases t.string <;> simp [Except.toOption]

/-- A string behind a text leaves the halves where they are. -/
theorem string_append_ofString (t : Text) (s : String) :
    (t ++ ofString s).string = t.string.map (· ++ s) := by
  rw [string, string, toList_append, toList_ofString, charsFrom_append_chars]
  cases charsFrom 0 t.toList <;> simp [Except.map, String.ofList_append]

@[simp] theorem isWhole_ofString (s : String) : (ofString s).isWhole = true := by
  simp [isWhole]

@[simp] theorem isWhole_append (s t : Text) :
    (s ++ t).isWhole = (s.isWhole && t.isWhole) := by
  simp [isWhole]

/-- A text of characters only is the text of a string. -/
theorem isWhole_iff {t : Text} : t.isWhole = true ↔ ∃ s : String, t = ofString s := by
  constructor
  · intro hwhole
    suffices h : ∀ points : List Point, points.all (!·.isHalf) = true →
        ∃ chars : List Char, points = chars.map .char by
      obtain ⟨chars, hchars⟩ := h t.toList hwhole
      exact ⟨String.ofList chars, (toList_inj _ _).mp (by simp [hchars])⟩
    intro points hall
    induction points with
    | nil => exact ⟨[], rfl⟩
    | cons p rest ih =>
      rw [List.all_cons, Bool.and_eq_true] at hall
      obtain ⟨chars, rfl⟩ := ih hall.2
      cases p with
      | half n => simp at hall
      | char c => exact ⟨c :: chars, rfl⟩
  · rintro ⟨s, rfl⟩
    exact isWhole_ofString s

/-- No half stands in a text of characters. -/
theorem isWhole_iff_half_not_mem {t : Text} : t.isWhole = true ↔ ∀ n, Point.half n ∉ t.toList := by
  rw [isWhole, List.all_eq_true]
  constructor
  · intro h n hn
    simpa using h _ hn
  · intro h p hp
    cases p with
    | char c => rfl
    | half n => exact absurd hp (h n)

/-- A text that holds a half has no string. -/
theorem exists_string_eq_error_iff {t : Text} :
    (∃ e, t.string = .error e) ↔ t.isWhole = false := by
  rw [← Bool.not_eq_true, isWhole_iff]
  cases h : t.string with
  | error e =>
    refine ⟨fun _ ⟨s, hs⟩ => ?_, fun _ => ⟨e, rfl⟩⟩
    rw [string_eq_ok_iff.mpr hs] at h
    cases h
  | ok s => simp [string_eq_ok_iff.mp h]

end Text

end ChartQuery
