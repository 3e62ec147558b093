/-
# Reading JSON back

The reader finds what a text means, whatever the text is (`read_document`): it passes over all blank
space, takes numbers and strings in every form that the grammar has, and its bound is never the
reason of a failure. Only whole numbers of too many digits are refused. Each part of the reader is
shown to read its part of the grammar in front of anything that cannot go on with that part.
-/

import ChartQuery.Proofs.Json.Grammar
import ChartQuery.Proofs.Text.Case
import Mathlib.Data.Bool.AllAny
import Mathlib.Data.List.TakeWhile

namespace ChartQuery.Json

variable {c : Char} {rest tail : List Char}

/-! ## Blank space -/

theorem skipBlanks_before (b : Blanks) (hc : isBlank c = false) :
    skipBlanks (b.chars ++ c :: rest) = c :: rest := by
  have hblank : ∀ d ∈ b.chars, isBlank d = true := List.all_eq_true.mp b.areBlank
  rw [skipBlanks, List.dropWhile_append_of_pos hblank, List.dropWhile_cons_of_neg (by simp [hc])]

theorem skipBlanks_blanks (b : Blanks) : skipBlanks b.chars = [] :=
  List.dropWhile_eq_nil_iff.mpr (List.all_eq_true.mp b.areBlank)

/-! ## Strings -/

/-- Only an escape by its code stands for half of a pair. -/
theorem Piece.unit_of_half {p : Piece} (hhigh : 0xD800 ≤ p.code) (hlow : p.code < 0xE000) :
    ∃ a b c d areDigits, p = .unit a b c d areDigits := by
  cases p with
  | plain c stands =>
    have hvalid := c.valid
    simp only [Piece.code] at hhigh hlow
    rcases hvalid with h | ⟨h, -⟩
    · have : c.toNat < 0xD800 := h
      omega
    · have : 0xDFFF < c.toNat := h
      omega
  | short e =>
    cases e <;> simp [Piece.code, Escape.code] at hhigh
  | unit a b c d areDigits => exact ⟨a, b, c, d, areDigits, rfl⟩

theorem ofCode_toNat (c : Char) : Point.ofCode c.toNat = .char c := by
  have hvalid : ¬ (0xD800 ≤ c.toNat ∧ c.toNat < 0xE000) := by
    rintro ⟨hhigh, hlow⟩
    rcases c.valid with h | ⟨h, -⟩
    · have : c.toNat < 0xD800 := h
      omega
    · have : 0xDFFF < c.toNat := h
      omega
  rw [Point.ofCode, dif_neg hvalid, Char.ofNat_toNat]

theorem unitAt?_digits {a b c d : Char} (h : [a, b, c, d].all Text.isHexDigit = true)
    (rest : List Char) :
    unitAt? (a :: b :: c :: d :: rest) = some (Text.numberOf 16 [a, b, c, d], rest) :=
  if_pos h

/-- Without its other half in front a code stands for itself. -/
theorem pairedPoint_of_unpaired {code : Nat} {q : Piece} (h : isPair code q.code = false) :
    pairedPoint code (q.chars ++ rest) = (Point.ofCode code, q.chars ++ rest) := by
  cases q with
  | plain c stands =>
    have hc : c ≠ '\\' := by
      rintro rfl
      cases stands
    unfold pairedPoint
    simp [Piece.chars, hc]
  | short e =>
    cases e <;> simp [pairedPoint, Piece.chars, Escape.letter, Text.doubleQuote]
  | unit a b c d areDigits =>
    have h := of_decide_eq_false h
    simp only [pairedPoint, Piece.chars, List.cons_append, List.nil_append,
      unitAt?_digits areDigits]
    split
    · next hhigh => exact if_neg fun hlow => h ⟨hhigh.1, hhigh.2, hlow.1, hlow.2⟩
    · rfl

theorem pairedPoint_quote (code : Nat) :
    pairedPoint code (Text.doubleQuote :: rest) =
      (Point.ofCode code, Text.doubleQuote :: rest) := by
  simp [pairedPoint, Text.doubleQuote]

section StringPoints

variable {opening : List Char} {bound : Nat} {read : List Point}

theorem stringPoints_quote :
    stringPoints opening (bound + 1) read (Text.doubleQuote :: rest) = .ok (read.reverse, rest) :=
  by simp [stringPoints]

/-- A part of a string gives one character unless its code is the first half of a pair. -/
theorem stringPoints_piece (p : Piece) (h : pairedPoint p.code rest = (Point.ofCode p.code, rest)) :
    stringPoints opening (bound + 1) read (p.chars ++ rest) =
      stringPoints opening bound (Point.ofCode p.code :: read) rest := by
  cases p with
  | plain c stands =>
    simp only [isUnescaped, Bool.and_eq_true, decide_eq_true_eq, bne_iff_ne, ne_eq] at stands
    obtain ⟨⟨hcontrol, hquote⟩, hbackslash⟩ := stands
    have hcontrol : ¬ c.toNat < 32 := Nat.not_lt.mpr hcontrol
    simp [Piece.chars, Piece.code, ofCode_toNat, stringPoints, hquote, hcontrol, hbackslash]
  | short e =>
    cases e <;> rfl
  | unit a b c d areDigits =>
    have hunit := unitAt?_digits areDigits rest
    simp only [Piece.code] at h
    simp [Piece.chars, Piece.code, stringPoints, Text.doubleQuote, hunit, h]

/-- Two halves of a pair give one character. -/
theorem stringPoints_pair {p q : Piece} (h : isPair p.code q.code = true) :
    stringPoints opening (bound + 1) read (p.chars ++ (q.chars ++ rest)) =
      stringPoints opening bound (.char (charOfPair p.code q.code) :: read) rest := by
  simp only [isPair, decide_eq_true_eq] at h
  obtain ⟨hhigh, hhigh', hlow, hlow'⟩ := h
  obtain ⟨a, b, c, d, hp, rfl⟩ := Piece.unit_of_half hhigh (by omega)
  obtain ⟨e, f, g, i, hq, rfl⟩ := Piece.unit_of_half (by omega) hlow'
  simp only [Piece.code] at hhigh hhigh' hlow hlow'
  simp only [Piece.chars, Piece.code, List.cons_append, List.nil_append, stringPoints,
    unitAt?_digits hp, pairedPoint, unitAt?_digits hq, charOfPair]
  simp [Text.doubleQuote, hhigh, hhigh', hlow, hlow']

/-- A string up to its closing mark. -/
theorem stringPoints_pieces (pieces : List Piece) (hbound : pieces.length < bound) :
    stringPoints opening bound read (pieces.flatMap Piece.chars ++ Text.doubleQuote :: rest) =
      .ok (read.reverse ++ stringOf pieces, rest) := by
  fun_induction stringOf pieces generalizing bound read with
  | case1 =>
    obtain ⟨bound, rfl⟩ := Nat.exists_eq_add_one_of_ne_zero (Nat.ne_zero_of_lt hbound)
    simp [stringPoints_quote]
  | case2 p =>
    obtain ⟨bound, rfl⟩ := Nat.exists_eq_add_of_lt hbound
    simp only [List.flatMap_cons, List.flatMap_nil, List.append_nil, List.length_singleton] at *
    rw [Nat.add_comm 1, stringPoints_piece p (pairedPoint_quote _), stringPoints_quote]
    simp
  | case3 p q pieces hpair ih =>
    obtain ⟨bound, rfl⟩ := Nat.exists_eq_add_one_of_ne_zero (Nat.ne_zero_of_lt hbound)
    simp only [List.length_cons] at hbound
    rw [List.flatMap_cons, List.flatMap_cons, List.append_assoc, List.append_assoc,
      stringPoints_pair hpair, ih (by omega)]
    simp
  | case4 p q pieces hpair ih =>
    obtain ⟨bound, rfl⟩ := Nat.exists_eq_add_one_of_ne_zero (Nat.ne_zero_of_lt hbound)
    simp only [List.length_cons] at hbound
    have halone : pairedPoint p.code
        ((q :: pieces).flatMap Piece.chars ++ Text.doubleQuote :: rest) =
        (Point.ofCode p.code, (q :: pieces).flatMap Piece.chars ++ Text.doubleQuote :: rest) := by
      rw [List.flatMap_cons, List.append_assoc]
      exact pairedPoint_of_unpaired (Bool.eq_false_iff.mpr hpair)
    rw [List.flatMap_cons, List.append_assoc, stringPoints_piece p halone,
      ih (by simpa using hbound)]
    simp

end StringPoints

theorem length_le_flatMap_chars (pieces : List Piece) :
    pieces.length ≤ (pieces.flatMap Piece.chars).length := by
  induction pieces with
  | nil => exact Nat.le_refl 0
  | cons p pieces ih =>
    have hone : 1 ≤ p.chars.length := by cases p <;> simp [Piece.chars]
    rw [List.flatMap_cons, List.length_append, List.length_cons]
    omega

/-- A string behind its opening mark. -/
theorem string_pieces (opening : List Char) (pieces : List Piece) :
    string opening (pieces.flatMap Piece.chars ++ Text.doubleQuote :: rest) =
      .ok (Text.ofList (stringOf pieces), rest) := by
  have hbound := length_le_flatMap_chars pieces
  rw [string, stringPoints_pieces pieces (by simp only [List.length_append]; omega)]
  rfl

/-! ## Numbers and words -/

/-- What follows does not go on with a number: it begins with no digit, point or power. -/
def EndsNumber (rest : List Char) : Prop :=
  ∀ c ∈ rest.head?, Text.isDigit c = false ∧ c ≠ '.' ∧ c ≠ 'e' ∧ c ≠ 'E'

theorem digitsOf_before (d : Digits) (h : ∀ c ∈ rest.head?, Text.isDigit c = false) :
    digitsOf (d.chars ++ rest) = (d.chars, rest) := by
  have hdigits : ∀ c ∈ d.chars, Text.isDigit c = true := List.all_eq_true.mp d.areDigits
  rw [digitsOf, List.takeWhile_append_of_pos hdigits, List.dropWhile_append_of_pos hdigits]
  cases rest with
  | nil => simp
  | cons c rest =>
    have hc : Text.isDigit c = false := h c rfl
    simp [hc]

theorem exponentOf_power (p : Power) (h : EndsNumber rest) :
    exponentOf (p.chars ++ rest) = (some p.exponent, rest) := by
  obtain ⟨capital, sign, digits⟩ := p
  have hread := digitsOf_before digits fun c hc => (h c hc).1
  obtain ⟨d, ds, hds⟩ := List.exists_cons_of_ne_nil digits.notEmpty
  have hd : Text.isDigit d = true := by
    have hall := digits.areDigits
    rw [hds, List.all_cons, Bool.and_eq_true] at hall
    exact hall.1
  have hminus : d ≠ '-' := by
    rintro rfl
    cases hd
  have hplus : d ≠ '+' := by
    rintro rfl
    cases hd
  rw [hds] at hread
  cases capital <;> cases sign <;>
    simp_all [exponentOf, Power.chars, Power.letter, Power.exponent, Sign.chars]

theorem exponentOf_none (h : EndsNumber rest) : exponentOf rest = (none, rest) := by
  cases rest with
  | nil => rfl
  | cons c rest =>
    obtain ⟨-, -, he, hE⟩ := h c rfl
    simp [exponentOf, he, hE]

theorem exponentOf_powerPart (n : Number) (h : EndsNumber rest) :
    exponentOf (n.powerPart ++ rest) = (n.power.map Power.exponent, rest) := by
  cases hpower : n.power with
  | none => simpa [Number.powerPart, hpower] using exponentOf_none h
  | some p => simpa [Number.powerPart, hpower] using exponentOf_power p h

/-- Behind the digits there is no further digit and no further point. -/
theorem head?_powerPart (n : Number) (h : EndsNumber rest) :
    ∀ c ∈ (n.powerPart ++ rest).head?, Text.isDigit c = false ∧ c ≠ '.' := by
  intro c hc
  cases hpower : n.power with
  | none =>
    simp only [Number.powerPart, hpower, Option.map_none, Option.getD_none, List.nil_append] at hc
    exact ⟨(h c hc).1, (h c hc).2.1⟩
  | some p =>
    simp only [Number.powerPart, hpower, Option.map_some, Option.getD_some, Power.chars,
      List.cons_append, List.head?_cons, Option.mem_some_iff] at hc
    subst hc
    unfold Power.letter
    cases p.capital <;> decide

theorem fractionOf_fractionPart (n : Number)
    (h : ∀ c ∈ rest.head?, Text.isDigit c = false ∧ c ≠ '.') :
    fractionOf (n.fractionPart ++ rest) = (n.fractionChars, rest) := by
  cases hfraction : n.fraction with
  | none =>
    cases rest with
    | nil => simp [Number.fractionPart, Number.fractionChars, hfraction, fractionOf]
    | cons c rest =>
      obtain ⟨-, hpoint⟩ := h c rfl
      simp [Number.fractionPart, Number.fractionChars, hfraction, fractionOf, hpoint]
  | some digits =>
    have hread := digitsOf_before digits fun c hc => (h c hc).1
    obtain ⟨d, ds, hds⟩ := List.exists_cons_of_ne_nil digits.notEmpty
    have hall := digits.areDigits
    rw [hds, List.all_cons, Bool.and_eq_true] at hall
    rw [hds] at hread
    simp only [Number.fractionPart, Number.fractionChars, hfraction, Option.map_some,
      Option.getD_some, hds, List.cons_append, fractionOf, hall.1]
    exact hread

/-- Behind the digits before the point there is no further digit. -/
theorem head?_fractionPart (n : Number)
    (h : ∀ c ∈ rest.head?, Text.isDigit c = false ∧ c ≠ '.') :
    ∀ c ∈ (n.fractionPart ++ rest).head?, Text.isDigit c = false := by
  intro c hc
  cases hfraction : n.fraction with
  | none =>
    simp only [Number.fractionPart, hfraction, Option.map_none, Option.getD_none,
      List.nil_append] at hc
    exact (h c hc).1
  | some digits =>
    simp only [Number.fractionPart, hfraction, Option.map_some, Option.getD_some,
      List.cons_append, List.head?_cons, Option.mem_some_iff] at hc
    subst hc
    rfl

/-- The value of a number depends on whether it has a fraction or a power at all. -/
theorem Number.fractionChars_eq_nil_iff (n : Number) :
    n.fractionChars = [] ↔ n.fraction = none := by
  cases hfraction : n.fraction with
  | none => simp [fractionChars, hfraction]
  | some digits => simp [fractionChars, hfraction, digits.notEmpty]

/-- A number is read unless it is whole and has too many digits. -/
theorem number?_body (n : Number) (h : EndsNumber rest) :
    number? n.negative (n.body ++ rest) =
      some (if n.isShort then .ok (n.value, rest)
        else .error ⟨.oversizedNumber n.whole.chars.length, rest⟩) := by
  have hpower := head?_powerPart n h
  have hfraction := fractionOf_fractionPart n hpower
  have hwhole := digitsOf_before n.whole (head?_fractionPart n hpower)
  have hexponent := exponentOf_powerPart n h
  obtain ⟨w, ws, hws⟩ := List.exists_cons_of_ne_nil n.whole.notEmpty
  unfold number?
  extract_lets integer
  -- A leading zero is a number of its own; the grammar has no further digit behind it.
  have hinteger : integer = (w :: ws, n.fractionPart ++ (n.powerPart ++ rest)) := by
    by_cases hzero : w = '0'
    · have hone := n.noLeadingZero (by simp [hws, hzero])
      have hempty : ws = [] := by
        rw [hws] at hone
        exact (List.cons.inj hone).2
      simp [integer, Number.body, hws, hzero, hempty]
    · simpa [integer, Number.body, hws, hzero] using hwhole
  rw [hinteger]
  simp only [hfraction, hexponent]
  cases hn : n.fraction with
  | none =>
    have hchars := n.fractionChars_eq_nil_iff.mpr hn
    cases hp : n.power with
    | none =>
      by_cases hlong : Numeral.digitLimit < ws.length + 1
      · have hrefused : ¬ ws.length + 1 ≤ Numeral.digitLimit := Nat.not_le.mpr hlong
        simp [hchars, Number.isShort, wholeNumber, hn, hp, hws, hlong, hrefused]
      · have hshort : ws.length + 1 ≤ Numeral.digitLimit := Nat.not_lt.mp hlong
        simp [hchars, Number.isShort, wholeNumber, Number.value, hn, hp, hws, hlong, hshort]
    | some p => simp [hchars, Number.isShort, Number.value, hn, hp, hws]
  | some digits =>
    have hchars : n.fractionChars ≠ [] := fun h => by simp [n.fractionChars_eq_nil_iff.mp h] at hn
    obtain ⟨f, fs, hfs⟩ := List.exists_cons_of_ne_nil hchars
    simp [hfs, Number.isShort, Number.value, hn, hws]

theorem EndsNumber.nil : EndsNumber [] := by
  rintro c ⟨⟩

/-- What stands behind a value ends a number. -/
theorem EndsNumber.cons (h : c ∈ [',', ']', '}']) : EndsNumber (c :: rest) := by
  intro d hd
  obtain rfl : c = d := Option.some.inj hd
  have hall : ∀ c ∈ [',', ']', '}'], Text.isDigit c = false ∧ c ≠ '.' ∧ c ≠ 'e' ∧ c ≠ 'E' :=
    List.all_iff_forall_prop.mp (by decide)
  exact hall c h

/-- And so does blank space. -/
theorem EndsNumber.blanks (h : EndsNumber rest) (b : Blanks) : EndsNumber (b.chars ++ rest) := by
  obtain ⟨chars, hblank⟩ := b
  cases chars with
  | nil => exact h
  | cons c chars =>
    intro d hd
    obtain rfl : c = d := Option.some.inj hd
    have hall : ∀ c ∈ [' ', '\t', '\n', '\r'],
        Text.isDigit c = false ∧ c ≠ '.' ∧ c ≠ 'e' ∧ c ≠ 'E' :=
      List.all_iff_forall_prop.mp (by decide)
    apply hall c
    simpa [isBlank, or_assoc] using (Bool.and_eq_true_iff.mp hblank).1

theorem scalar_word (w : Word) (rest : List Char) :
    scalar (w.chars ++ rest) = .ok (w.value, rest) := by
  cases w with
  | null => rfl
  | bool b => cases b <;> rfl

theorem mem_of_isDigit (h : Text.isDigit c = true) : c ∈ "0123456789".toList := by
  have hascii : c.toNat < 128 := by
    simp only [Text.isDigit, Bool.and_eq_true, decide_eq_true_eq] at h
    have hlast : c.toNat ≤ 57 := h.2
    omega
  exact Text.forall_ascii (p := fun c => Text.isDigit c = true → c ∈ "0123456789".toList)
    (by decide) hascii h

theorem scalar_number (n : Number) (h : EndsNumber rest) :
    scalar (n.chars ++ rest) = if n.isShort then .ok (n.value, rest)
      else .error ⟨.oversizedNumber n.whole.chars.length, rest⟩ := by
  have hread := number?_body n h
  obtain ⟨d, ds, hds⟩ := List.exists_cons_of_ne_nil n.whole.notEmpty
  have hd : d ∈ "0123456789".toList := by
    have hall := n.whole.areDigits
    rw [hds, List.all_cons, Bool.and_eq_true] at hall
    exact mem_of_isDigit hall.1
  obtain ⟨more, hbody⟩ : ∃ more, n.body ++ rest = d :: more := by
    simp [Number.body, hds]
  have hother : ∀ d ∈ "0123456789".toList, d ≠ '-' ∧ d ≠ 'n' ∧ d ≠ 't' ∧ d ≠ 'f' ∧ d ≠ 'N' ∧
      d ≠ 'I' :=
    List.all_iff_forall_prop.mp (by decide)
  obtain ⟨hminus, hn, ht, hf, hN, hI⟩ := hother d hd
  rw [hbody] at hread
  cases hnegative : n.negative with
  | false =>
    rw [hnegative] at hread
    have hword : word? (d :: more) = none := by
      simp [word?, words, hminus.symm, hn.symm, ht.symm, hf.symm, hN.symm, hI.symm]
    simp [scalar, Number.chars, hnegative, hbody, hword, hminus, hread]
  | true =>
    rw [hnegative] at hread
    have hword : word? ('-' :: d :: more) = none := by
      simp [word?, words, hI.symm]
    simp [scalar, Number.chars, hnegative, hbody, hword, hread]

/-! ## Values -/

/-- The characters with which a value can begin. -/
def openings : List Char := "-0123456789ntf[\x7b\x22".toList

theorem Number.exists_chars_eq_cons (n : Number) :
    ∃ c tail, n.chars = c :: tail ∧ c ∈ "-0123456789".toList := by
  cases hnegative : n.negative with
  | true => exact ⟨'-', n.body, by simp [chars, hnegative], by decide⟩
  | false =>
    obtain ⟨d, ds, hds⟩ := List.exists_cons_of_ne_nil n.whole.notEmpty
    have hall := n.whole.areDigits
    rw [hds, List.all_cons, Bool.and_eq_true] at hall
    refine ⟨d, ds ++ n.fractionPart ++ n.powerPart, ?_, ?_⟩
    · simp [chars, body, hnegative, hds]
    · exact List.mem_cons_of_mem '-' (mem_of_isDigit hall.1)

theorem Tree.exists_written_eq_cons (blank : Blanks → List Char) (t : Tree) (rest : List Char) :
    ∃ c tail, t.written blank rest = c :: tail ∧ c ∈ openings := by
  cases t with
  | word w =>
    cases w with
    | null => exact ⟨'n', _, rfl, by decide⟩
    | bool b =>
      cases b with
      | true => exact ⟨'t', _, rfl, by decide⟩
      | false => exact ⟨'f', _, rfl, by decide⟩
  | number n =>
    obtain ⟨c, tail, hchars, hc⟩ := n.exists_chars_eq_cons
    have hopens : ∀ c ∈ "-0123456789".toList, c ∈ openings :=
      List.all_iff_forall_prop.mp (by decide)
    exact ⟨c, tail ++ rest, by simp [written, hchars], hopens c hc⟩
  | text pieces => exact ⟨Text.doubleQuote, _, rfl, by decide⟩
  | emptyList inside => exact ⟨'[', _, rfl, by decide⟩
  | list items => exact ⟨'[', _, rfl, by decide⟩
  | emptyObject inside => exact ⟨'{', _, rfl, by decide⟩
  | object members => exact ⟨'{', _, rfl, by decide⟩

theorem skipBlanks_tree (b : Blanks) (t : Tree) (rest : List Char) :
    skipBlanks (b.chars ++ t.written Blanks.chars rest) = t.written Blanks.chars rest := by
  obtain ⟨c, tail, hwritten, hc⟩ := t.exists_written_eq_cons Blanks.chars rest
  have hblank : ∀ c ∈ openings, isBlank c = false := List.all_iff_forall_prop.mp (by decide)
  rw [hwritten, skipBlanks_before b (hblank c hc)]

theorem skipBlanks_quoted (b : Blanks) (pieces : List Piece) (rest : List Char) :
    skipBlanks (b.chars ++ quotedBefore pieces rest) = quotedBefore pieces rest :=
  skipBlanks_before b rfl

theorem exists_skipBlanks_items (items : Items) (rest : List Char) :
    ∃ c tail, skipBlanks (items.written Blanks.chars rest) = c :: tail ∧ c ≠ ']' := by
  have hother : ∀ c ∈ openings, c ≠ ']' := List.all_iff_forall_prop.mp (by decide)
  cases items <;>
    · simp only [Items.written, skipBlanks_tree]
      obtain ⟨c, tail, hwritten, hc⟩ := Tree.exists_written_eq_cons Blanks.chars _ _
      exact ⟨c, tail, hwritten, hother c hc⟩

theorem exists_skipBlanks_members (members : Members) (rest : List Char) :
    ∃ c tail, skipBlanks (members.written Blanks.chars rest) = c :: tail ∧ c ≠ '}' := by
  cases members <;>
    exact ⟨Text.doubleQuote, _, skipBlanks_quoted _ _ _, by decide⟩

/-- A text that begins like neither a string nor a collection is read as a number or a word. -/
theorem value_scalar {bound : Nat} (hlist : c ≠ '[') (hobject : c ≠ '{') (htext : c ≠ '"') :
    value (bound + 1) (c :: rest) = scalar (c :: rest) := by
  simp [value, hlist, hobject, htext]

theorem value_quoted (pieces : List Piece) (bound : Nat) :
    value (bound + 1) (quotedBefore pieces rest) =
      .ok (.text (Text.ofList (stringOf pieces)), rest) := by
  show value (bound + 1) ('"' :: (pieces.flatMap Piece.chars ++ Text.doubleQuote :: rest)) = _
  simp only [value, string_pieces]

/-- A part of a text is read as what it means when its whole numbers are short enough; else one of
them is refused. -/
inductive Reads {α : Type} (short : Bool) (step : Step α) (a : α) (rest : List Char) : Prop
  | read (hshort : short = true) (hread : step = .ok (a, rest))
  | refused (digits : Nat) (after : List Char) (hlong : short = false)
      (hrefused : step = .error ⟨.oversizedNumber digits, after⟩)

/-- One field in front of what stands behind its value. -/
theorem fields_label (l : Label) (t : Tree) (bound : Nat) (read : Fields) :
    fields (bound + 1) read (skipBlanks (l.written Blanks.chars (t.written Blanks.chars rest))) =
      match value bound (t.written Blanks.chars rest) with
      | .error e => .error e
      | .ok (v, after) =>
        match skipBlanks after with
        | '}' :: tail => .ok (Value.setField l.key v read, tail)
        | ',' :: tail => fields bound (Value.setField l.key v read) (skipBlanks tail)
        | other => .error ⟨.expectingComma, other⟩ := by
  rw [Label.written, skipBlanks_quoted]
  show fields (bound + 1) read ('"' :: (l.name.flatMap Piece.chars ++ Text.doubleQuote :: _)) = _
  simp [fields, string_pieces, skipBlanks_before, isBlank, skipBlanks_tree]
  rfl

mutual

/-- A value in front of anything that does not go on with a number. -/
theorem value_tree (t : Tree) (rest : List Char) (bound : Nat) (hbound : t.size ≤ bound)
    (hrest : EndsNumber rest) :
    Reads t.hasShortNumbers (value bound (t.written Blanks.chars rest)) (t.value Number.value)
      rest := by
  obtain ⟨bound, rfl⟩ : ∃ b, bound = b + 1 :=
    Nat.exists_eq_add_one_of_ne_zero (by cases t <;> simp only [Tree.size] at hbound <;> omega)
  cases t with
  | word w =>
    have hscalar := scalar_word w rest
    cases w with
    | null => exact .read rfl hscalar
    | bool b => cases b <;> exact .read rfl hscalar
  | number n =>
    obtain ⟨c, tail, hchars, hc⟩ := n.exists_chars_eq_cons
    have hother : ∀ c ∈ "-0123456789".toList, c ≠ '[' ∧ c ≠ '{' ∧ c ≠ '"' :=
      List.all_iff_forall_prop.mp (by decide)
    obtain ⟨hlist, hobject, htext⟩ := hother c hc
    have hscalar := scalar_number n hrest
    rw [hchars, List.cons_append] at hscalar
    rw [Tree.written, hchars, List.cons_append, value_scalar hlist hobject htext, hscalar]
    by_cases hshort : n.isShort = true
    · exact .read hshort (if_pos hshort)
    · exact .refused _ _ (Bool.eq_false_iff.mpr hshort) (if_neg hshort)
  | text pieces => exact .read rfl (value_quoted pieces bound)
  | emptyList inside =>
    exact .read rfl (by simp [Tree.written, value, skipBlanks_before, isBlank, Tree.value])
  | list items =>
    have hitems := items_items items rest bound [] (by simpa [Tree.size] using hbound)
    obtain ⟨c, tail, hopen, hc⟩ := exists_skipBlanks_items items (']' :: rest)
    rw [hopen] at hitems
    obtain ⟨hshort, hread⟩ | ⟨digits, after, hlong, hrefused⟩ := hitems
    · exact .read hshort (by simp [Tree.written, value, hopen, hc, hread, Tree.value])
    · exact .refused digits after hlong (by simp [Tree.written, value, hopen, hc, hrefused])
  | emptyObject inside =>
    exact .read rfl (by simp [Tree.written, value, skipBlanks_before, isBlank, Tree.value])
  | object members =>
    have hfields := fields_members members rest bound [] (by simpa [Tree.size] using hbound)
    obtain ⟨c, tail, hopen, hc⟩ := exists_skipBlanks_members members ('}' :: rest)
    rw [hopen] at hfields
    obtain ⟨hshort, hread⟩ | ⟨digits, after, hlong, hrefused⟩ := hfields
    · exact .read hshort
        (by simp [Tree.written, value, hopen, hc, hread, Tree.value, Value.ofEntries])
    · exact .refused digits after hlong (by simp [Tree.written, value, hopen, hc, hrefused])

/-- The items of a list up to its closing bracket. -/
theorem items_items (items : Items) (rest : List Char) (bound : Nat) (read : List Value)
    (hbound : items.size ≤ bound) :
    Reads items.hasShortNumbers
      (Json.items bound read (skipBlanks (items.written Blanks.chars (']' :: rest))))
      (read.reverse ++ items.values Number.value) rest := by
  obtain ⟨bound, rfl⟩ : ∃ b, bound = b + 1 :=
    Nat.exists_eq_add_one_of_ne_zero (by cases items <;> simp only [Items.size] at hbound <;> omega)
  cases items with
  | last before item behind =>
    simp only [Items.size] at hbound
    have hitem := value_tree item (behind.chars ++ ']' :: rest) bound (by omega)
      (.blanks (.cons (by decide)) behind)
    rw [Items.written, skipBlanks_tree, Json.items]
    obtain ⟨hshort, hread⟩ | ⟨digits, after, hlong, hrefused⟩ := hitem
    · exact .read hshort (by simp [hread, skipBlanks_before, isBlank, Items.values])
    · exact .refused digits after hlong (by rw [hrefused])
  | more before item behind items =>
    simp only [Items.size] at hbound
    have hitem := value_tree item (behind.chars ++ ',' :: items.written Blanks.chars (']' :: rest))
      bound (by omega) (.blanks (.cons (by decide)) behind)
    have hrest := items_items items rest bound (item.value Number.value :: read) (by omega)
    rw [Items.written, skipBlanks_tree, Json.items]
    obtain ⟨hshort, hread⟩ | ⟨digits, after, hlong, hrefused⟩ := hitem
    · simpa [Items.hasShortNumbers, hshort, hread, skipBlanks_before, isBlank, Items.values]
        using hrest
    · exact .refused digits after (by simp [Items.hasShortNumbers, hlong]) (by rw [hrefused])

/-- The fields of an object up to its closing bracket. -/
theorem fields_members (members : Members) (rest : List Char) (bound : Nat) (read : Fields)
    (hbound : members.size ≤ bound) :
    Reads members.hasShortNumbers
      (Json.fields bound read (skipBlanks (members.written Blanks.chars ('}' :: rest))))
      ((members.entries Number.value).foldl (fun fields (k, v) => Value.setField k v fields) read)
      rest := by
  obtain ⟨bound, rfl⟩ : ∃ b, bound = b + 1 :=
    Nat.exists_eq_add_one_of_ne_zero
      (by cases members <;> simp only [Members.size] at hbound <;> omega)
  cases members with
  | last label value behind =>
    simp only [Members.size] at hbound
    have hvalue := value_tree value (behind.chars ++ '}' :: rest) bound (by omega)
      (.blanks (.cons (by decide)) behind)
    rw [Members.written, fields_label]
    obtain ⟨hshort, hread⟩ | ⟨digits, after, hlong, hrefused⟩ := hvalue
    · refine .read hshort ?_
      rw [hread]
      dsimp only
      rw [skipBlanks_before behind rfl]
      rfl
    · exact .refused digits after hlong (by rw [hrefused])
  | more label value behind members =>
    simp only [Members.size] at hbound
    have hvalue := value_tree value
      (behind.chars ++ ',' :: members.written Blanks.chars ('}' :: rest)) bound (by omega)
      (.blanks (.cons (by decide)) behind)
    have hrest := fields_members members rest bound
      (Value.setField label.key (value.value Number.value) read) (by omega)
    rw [Members.written, fields_label]
    obtain ⟨hshort, hread⟩ | ⟨digits, after, hlong, hrefused⟩ := hvalue
    · rw [hread]
      dsimp only
      rw [skipBlanks_before behind rfl, Members.hasShortNumbers, hshort, Bool.true_and]
      exact hrest
    · exact .refused digits after (by simp [Members.hasShortNumbers, hlong]) (by rw [hrefused])

end

/-! ## Whole texts -/

section Size

variable (blank : Blanks → List Char)

mutual

/-- There are at most twice as many values and keys in a text as characters. -/
theorem size_le_tree (t : Tree) (rest : List Char) :
    t.size + 2 * rest.length ≤ 2 * (t.written blank rest).length := by
  cases t with
  | word w =>
    have hchars : 0 < w.chars.length := by
      cases w with
      | null => decide
      | bool b => cases b <;> decide
    simp only [Tree.size, Tree.written, List.length_append]
    omega
  | number n =>
    obtain ⟨c, tail, hchars, -⟩ := n.exists_chars_eq_cons
    simp only [Tree.size, Tree.written, hchars, List.length_append, List.length_cons]
    omega
  | text pieces =>
    simp only [Tree.size, Tree.written, quotedBefore, List.length_append, List.length_cons]
    omega
  | emptyList inside =>
    simp only [Tree.size, Tree.written, List.length_append, List.length_cons]
    omega
  | list items =>
    have hitems := size_le_items items (']' :: rest)
    simp only [Tree.size, Tree.written, List.length_cons] at hitems ⊢
    omega
  | emptyObject inside =>
    simp only [Tree.size, Tree.written, List.length_append, List.length_cons]
    omega
  | object members =>
    have hmembers := size_le_members members ('}' :: rest)
    simp only [Tree.size, Tree.written, List.length_cons] at hmembers ⊢
    omega

theorem size_le_items (items : Items) (rest : List Char) :
    items.size + 2 * rest.length ≤ 2 * (items.written blank rest).length + 1 := by
  cases items with
  | last before item behind =>
    have hitem := size_le_tree item (blank behind ++ rest)
    simp only [Items.size, Items.written, List.length_append] at hitem ⊢
    omega
  | more before item behind items =>
    have hitem := size_le_tree item (blank behind ++ ',' :: items.written blank rest)
    have hrest := size_le_items items rest
    simp only [Items.size, Items.written, List.length_append, List.length_cons] at hitem ⊢
    omega

theorem size_le_members (members : Members) (rest : List Char) :
    members.size + 2 * rest.length ≤ 2 * (members.written blank rest).length + 1 := by
  cases members with
  | last label value behind =>
    have hvalue := size_le_tree value (blank behind ++ rest)
    simp only [Members.size, Members.written, Label.written, quotedBefore, List.length_append,
      List.length_cons] at hvalue ⊢
    omega
  | more label value behind members =>
    have hvalue := size_le_tree value (blank behind ++ ',' :: members.written blank rest)
    have hrest := size_le_members members rest
    simp only [Members.size, Members.written, Label.written, quotedBefore, List.length_append,
      List.length_cons] at hvalue ⊢
    omega

end

end Size

/-- Every text of the standard that holds an object is read, and as what it means, unless a whole
number is too long to be read. -/
theorem readChars_document (d : Document) :
    (d.root.hasShortNumbers = true → readChars d.text = .ok (.object (d.fields Number.value))) ∧
      (d.root.hasShortNumbers = false →
        ∃ digits after, readChars d.text = .error ⟨.oversizedNumber digits, after⟩) := by
  have hends : EndsNumber d.behind.chars := by
    simpa using EndsNumber.blanks .nil d.behind
  have hsize := size_le_tree Blanks.chars d.root d.behind.chars
  have hroot := value_tree d.root d.behind.chars (2 * d.text.length + 2)
    (by simp only [Document.text, Document.written, List.length_append]; omega) hends
  simp only [readChars, Document.text, Document.written, skipBlanks_tree] at hroot ⊢
  obtain ⟨hshort, hread⟩ | ⟨digits, after, hlong, hrefused⟩ := hroot
  · rw [hread]
    simp [hshort, skipBlanks_blanks]
  · rw [hrefused]
    exact ⟨fun hshort => absurd hshort (by simp [hlong]), fun _ => ⟨digits, after, rfl⟩⟩

theorem withoutMark_document (d : Document) : withoutMark d.text = d.text := by
  obtain ⟨⟨before, hblank⟩, root, behind, hobject⟩ := d
  cases before with
  | nil =>
    obtain ⟨c, tail, hroot, hc⟩ := root.exists_written_eq_cons Blanks.chars behind.chars
    have hother : ∀ c ∈ openings, c.toNat ≠ 0xFEFF := List.all_iff_forall_prop.mp (by decide)
    simp [Document.text, Document.written, hroot, withoutMark, hother c hc]
  | cons c before =>
    have hother : ∀ c ∈ [' ', '\t', '\n', '\r'], c.toNat ≠ 0xFEFF :=
      List.all_iff_forall_prop.mp (by decide)
    have hc : c ∈ [' ', '\t', '\n', '\r'] := by
      simpa [isBlank, or_assoc] using (Bool.and_eq_true_iff.mp hblank).1
    simp [Document.text, Document.written, withoutMark, hother c hc]

theorem read_document {d : Document} (h : d.root.hasShortNumbers = true) :
    read (String.ofList d.text) = .ok (.object (d.fields Number.value)) := by
  simp [read, withoutMark_document, (readChars_document d).1 h]

/-- A whole number that is too long is the only reason why such a text is not read. -/
theorem read_document_of_long {d : Document} (h : d.root.hasShortNumbers = false) :
    ∃ digits, read (String.ofList d.text) =
      .error ⟨.oversizedNumber digits, Numeral.oversizedWords digits⟩ := by
  obtain ⟨digits, after, hrefused⟩ := (readChars_document d).2 h
  exact ⟨digits, by simp [read, withoutMark_document, hrefused, Failure.message]⟩

end ChartQuery.Json
