/-
# Numbers and words as scalars

The values of plain scalars that are words or numbers of JSON. A number without a point and a power
is whole in both formats, and refused in both if it has too many digits. With a point it is a double
in both, if its power has a sign; with any other power it is a text (`gives_number`).
-/

import ChartQuery.Proofs.Json.Portable
import ChartQuery.Proofs.Json.Reader
import ChartQuery.Proofs.Yaml.Cursor
import ChartQuery.Yaml.Content
import Mathlib.Data.Bool.AllAny
import Mathlib.Tactic.SplitIfs

namespace ChartQuery

/-! ## Signs and letter case -/

namespace Binary64

theorem neg_round (num den : Nat) : (round false num den).neg = round true num den := by
  unfold round
  dsimp only
  split_ifs <;> rfl

/-- The sign of a decimal does not matter for its rounding. -/
theorem neg_ofDecimal (digits : Nat) (scale : Int) :
    (ofDecimal false digits scale).neg = ofDecimal true digits scale := by
  unfold ofDecimal
  dsimp only
  split_ifs
  · rfl
  · rfl
  · rfl
  · cases scale <;> exact neg_round _ _

end Binary64

namespace Text

theorem lowerFrom_ascii (before : List Point) {text : List Char} (h : ∀ c ∈ text, c.toNat < 128) :
    lowerFrom before (text.map .char) = (text.map Char.toLower).map .char := by
  induction text generalizing before with
  | nil => rfl
  | cons c text ih =>
    have hc : lowerPoint before (.char c) (text.map .char) = [.char c.toLower] :=
      congrArg (List.map Point.char) (if_pos (h c List.mem_cons_self))
    rw [List.map_cons, lowerFrom, hc,
      ih (.char c :: before) fun d hd => h d (List.mem_cons_of_mem c hd)]
    rfl

theorem trimmed_of_forall {text : List Char} (h : ∀ c ∈ text, isBlank c = false) :
    trimmed text = text := by
  have hnone : ∀ {xs : List Char}, (∀ c ∈ xs, isBlank c = false) → xs.dropWhile isBlank = xs := by
    intro xs hxs
    cases xs with
    | nil => rfl
    | cons c xs => exact List.dropWhile_cons_of_neg (by simp [hxs c List.mem_cons_self])
  rw [trimmed, hnone h, trimmedEnd, hnone fun c hc => h c (List.mem_reverse.mp hc),
    List.reverse_reverse]

end Text

namespace Json

theorem Digits.mem_digits (d : Digits) {c : Char} (hc : c ∈ d.chars) : c ∈ "0123456789".toList :=
  mem_of_isDigit (List.all_eq_true.mp d.areDigits c hc)

theorem ne_sign_of_digit {c : Char} (h : c ∈ "0123456789".toList) : c ≠ '-' ∧ c ≠ '+' := by
  have hall : ∀ c ∈ "0123456789".toList, c ≠ '-' ∧ c ≠ '+' :=
    List.all_iff_forall_prop.mp (by decide)
  exact hall c h

namespace Number

variable {c : Char}

/-- The characters of numbers. -/
def alphabet : List Char := "0123456789.+-eE".toList

theorem mem_alphabet_of_digit (h : c ∈ "0123456789".toList) : c ∈ alphabet := by
  have hall : ∀ c ∈ "0123456789".toList, c ∈ alphabet := List.all_iff_forall_prop.mp (by decide)
  exact hall c h

theorem mem_of_mem_powerPart (n : Number) (hc : c ∈ n.powerPart) :
    c ∈ "0123456789+-eE".toList := by
  cases hn : n.power with
  | none => simp [powerPart, hn] at hc
  | some p =>
    simp only [powerPart, hn, Option.map_some, Option.getD_some, Power.chars, List.mem_cons,
      List.mem_append] at hc
    rcases hc with hletter | hsign | hdigit
    · rw [hletter, Power.letter]
      split <;> decide
    · cases hs : p.sign <;> simp [Sign.chars, hs] at hsign <;> rw [hsign] <;> decide
    · have hall : ∀ c ∈ "0123456789".toList, c ∈ "0123456789+-eE".toList :=
        List.all_iff_forall_prop.mp (by decide)
      exact hall c (p.digits.mem_digits hdigit)

theorem mem_alphabet_of_body (n : Number) (hc : c ∈ n.body) : c ∈ alphabet := by
  simp only [body, List.mem_append] at hc
  rcases hc with (hwhole | hfraction) | hpower
  · exact mem_alphabet_of_digit (n.whole.mem_digits hwhole)
  · cases hn : n.fraction with
    | none => simp [fractionPart, hn] at hfraction
    | some digits =>
      simp only [fractionPart, hn, Option.map_some, Option.getD_some, List.mem_cons] at hfraction
      rcases hfraction with rfl | hdigit
      · decide
      · exact mem_alphabet_of_digit (digits.mem_digits hdigit)
  · have hall : ∀ c ∈ "0123456789+-eE".toList, c ∈ alphabet :=
      List.all_iff_forall_prop.mp (by decide)
    exact hall c (n.mem_of_mem_powerPart hpower)

theorem mem_alphabet (n : Number) (hc : c ∈ n.chars) : c ∈ alphabet := by
  unfold chars at hc
  split at hc
  · rcases List.mem_cons.mp hc with rfl | hbody
    · decide
    · exact n.mem_alphabet_of_body hbody
  · exact n.mem_alphabet_of_body hc

/-- The digits before the point, the first of them apart. -/
theorem exists_whole_eq_cons (n : Number) :
    ∃ d ds, n.whole.chars = d :: ds ∧ d ∈ "0123456789".toList := by
  obtain ⟨d, ds, hds⟩ := List.exists_cons_of_ne_nil n.whole.notEmpty
  exact ⟨d, ds, hds, n.whole.mem_digits (by simp [hds])⟩

end Number

end Json

namespace Yaml

open Json (Number Digits Power)

/-! ## The form of a number -/

theorem unsigned_chars (n : Number) : ScalarForm.unsigned n.chars = n.body := by
  obtain ⟨d, ds, hds, hd⟩ := n.exists_whole_eq_cons
  obtain ⟨hminus, hplus⟩ := Json.ne_sign_of_digit hd
  cases hn : n.negative with
  | true => simp [Number.chars, hn, ScalarForm.unsigned]
  | false => simp [Number.chars, hn, Number.body, hds, ScalarForm.unsigned, hminus, hplus]

theorem isGappedNumber_digits (d : Digits) : ScalarForm.isGappedNumber d.chars = true := by
  obtain ⟨c, cs, hcs⟩ := List.exists_cons_of_ne_nil d.notEmpty
  have hall := d.areDigits
  rw [hcs, List.all_cons, Bool.and_eq_true] at hall
  rw [hcs, ScalarForm.isGappedNumber, hall.1, Bool.true_and, List.all_eq_true]
  intro e he
  simp [ScalarForm.isDigitOrGap, List.all_eq_true.mp hall.2 e he]

/-- A power has the form of one if it has a sign. -/
theorem isPower_powerPart (n : Number) :
    ScalarForm.isPower n.powerPart = n.power.all fun p => p.sign != .missing := by
  cases hp : n.power with
  | none => simp [Number.powerPart, hp, ScalarForm.isPower]
  | some p =>
    have hletter : (p.letter == 'e' || p.letter == 'E') = true := by
      rw [Power.letter]
      split <;> rfl
    have hempty : p.digits.chars.isEmpty = false := by
      simpa using p.digits.notEmpty
    have hpart : n.powerPart = p.letter :: (p.sign.chars ++ p.digits.chars) := by
      rw [Number.powerPart, hp, Option.map_some, Option.getD_some, Power.chars]
    rw [hpart, Option.all_some]
    cases hsign : p.sign with
    | missing =>
      obtain ⟨c, cs, hcs⟩ := List.exists_cons_of_ne_nil p.digits.notEmpty
      have hc := Json.ne_sign_of_digit (p.digits.mem_digits (c := c) (by simp [hcs]))
      simp [Json.Sign.chars, hcs, ScalarForm.isPower, hc]
    | plus =>
      simp [Json.Sign.chars, ScalarForm.isPower, hletter, hempty, p.digits.areDigits]
    | minus =>
      simp [Json.Sign.chars, ScalarForm.isPower, hletter, hempty, p.digits.areDigits]

/-- The digits before the point are what stands before the first sign other than a digit. -/
theorem takeWhile_body (n : Number) {p : Char → Bool} {c : Char} {tail : List Char}
    (hbody : n.fractionPart ++ n.powerPart = c :: tail)
    (hdigits : ∀ d ∈ "0123456789".toList, p d = true) (hc : p c = false) :
    n.body.takeWhile p = n.whole.chars := by
  have hwhole : ∀ d ∈ n.whole.chars, p d = true := fun d hd => hdigits d (n.whole.mem_digits hd)
  rw [Number.body, List.append_assoc, hbody, List.takeWhile_append_of_pos hwhole,
    List.takeWhile_cons_of_neg (by simp [hc]), List.append_nil]

/-- Between parts in sixtieths stand colons. -/
theorem isSexagesimal_of_not_mem {first : List Char → Bool} {text : List Char} (h : ':' ∉ text) :
    ScalarForm.isSexagesimal first text = false := by
  have hlength := Text.length_pieces ':' text
  rw [List.count_eq_zero.mpr h] at hlength
  unfold ScalarForm.isSexagesimal
  split
  · next head next rest hpieces =>
    rw [hpieces] at hlength
    simp at hlength
  · rfl

theorem colon_not_mem_body (n : Number) : ':' ∉ n.body := fun h =>
  absurd (n.mem_alphabet_of_body h) (by decide)

/-- A number with a point is a double, unless it has a power without a sign. -/
theorem isFloat_of_fraction {n : Number} {digits : Digits} (hfraction : n.fraction = some digits) :
    ScalarForm.isFloat n.chars = n.power.all fun p => p.sign != .missing := by
  have hpart : n.fractionPart = '.' :: digits.chars := by simp [Number.fractionPart, hfraction]
  have hwhole : n.body.takeWhile (· ≠ '.') = n.whole.chars :=
    takeWhile_body n (by rw [hpart, List.cons_append]) (List.all_eq_true.mp (by decide))
      (by decide)
  have hrest : n.body.drop (n.whole.chars.length + 1) = digits.chars ++ n.powerPart := by
    simp [Number.body, hpart]
  have hlength : n.whole.chars.length < n.body.length := by
    simp only [Number.body, hpart, List.length_append, List.length_cons]
    omega
  have hfractional : ScalarForm.isFraction (digits.chars ++ n.powerPart) =
      n.power.all fun p => p.sign != .missing := by
    have hdigits : ∀ d ∈ digits.chars, ScalarForm.isDigitOrGap d = true := fun d hd => by
      simp [ScalarForm.isDigitOrGap, List.all_eq_true.mp digits.areDigits d hd]
    have hpower : n.powerPart.dropWhile ScalarForm.isDigitOrGap = n.powerPart := by
      cases hp : n.power with
      | none => simp [Number.powerPart, hp]
      | some p =>
        have hletter : ScalarForm.isDigitOrGap p.letter = false := by
          rw [Power.letter]
          split <;> decide
        simp [Number.powerPart, hp, Power.chars, hletter]
    rw [ScalarForm.isFraction, List.dropWhile_append_of_pos hdigits, hpower, isPower_powerPart]
  have hsixtieths : ScalarForm.isSexagesimal ScalarForm.isGappedNumber n.whole.chars = false :=
    isSexagesimal_of_not_mem fun h => colon_not_mem_body n (by simp [Number.body, h])
  have hempty : n.whole.chars.isEmpty = false := by
    simpa using n.whole.notEmpty
  have hhead : (n.chars.head? == some '.') = false := by
    obtain ⟨c, tail, hchars, hc⟩ := n.exists_chars_eq_cons
    have hother : ∀ c ∈ "-0123456789".toList, (some c == some '.') = false :=
      List.all_iff_forall_prop.mp (by decide)
    rw [hchars, List.head?_cons, hother c hc]
  simp only [ScalarForm.isFloat, unsigned_chars, hwhole, hrest, hlength, decide_true,
    isGappedNumber_digits, hfractional, hsixtieths, hempty, hhead, Bool.true_and, Bool.false_and,
    Bool.or_false]

/-- Digits alone are no double. -/
theorem isFloat_of_whole {n : Number} (h : n.body = n.whole.chars) :
    ScalarForm.isFloat n.chars = false := by
  have hpoint : ∀ d ∈ "0123456789".toList, decide (d ≠ '.') = true :=
    List.all_iff_forall_prop.mp (by decide)
  have hwhole : n.whole.chars.takeWhile (· ≠ '.') = n.whole.chars :=
    List.takeWhile_eq_self_iff.mpr fun d hd => hpoint d (n.whole.mem_digits hd)
  simp only [ScalarForm.isFloat, unsigned_chars, h, hwhole, Nat.lt_irrefl, decide_false,
    Bool.false_and]

theorem isInt_of_whole {n : Number} (h : n.body = n.whole.chars) :
    ScalarForm.isInt n.chars = true := by
  obtain ⟨d, ds, hds, -⟩ := n.exists_whole_eq_cons
  by_cases hzero : d = '0'
  · have hone := n.noLeadingZero (by simp [hds, hzero])
    simp [ScalarForm.isInt, unsigned_chars, h, hone]
  · have hgapped : ScalarForm.isGappedNumberWithoutZero n.whole.chars = true := by
      rw [ScalarForm.isGappedNumberWithoutZero, isGappedNumber_digits, hds]
      simp [hzero]
    simp [ScalarForm.isInt, unsigned_chars, h, hgapped]

/-- A number is no word. -/
theorem contains_number (n : Number) (words : List String)
    (hwords : words.all fun word => !word.toList.head?.any ("-0123456789".toList.contains ·)) :
    words.contains (String.ofList n.chars) = false := by
  obtain ⟨c, tail, hchars, hc⟩ := n.exists_chars_eq_cons
  rw [List.contains_eq_mem, decide_eq_false_iff_not]
  intro hword
  have hfirst : (String.ofList n.chars).toList.head? = some c := by
    rw [String.toList_ofList, hchars, List.head?_cons]
  have hother := List.all_eq_true.mp hwords _ hword
  rw [hfirst, Option.any_some, List.contains_iff_mem.mpr hc] at hother
  cases hother

theorem contains_boolWords (n : Number) :
    ScalarForm.boolWords.contains (String.ofList n.chars) = false :=
  contains_number n _ (by decide)

theorem ofPlain_of_whole {n : Number} (h : n.body = n.whole.chars) :
    NodeType.ofPlain (String.ofList n.chars) = .int := by
  simp only [NodeType.ofPlain, contains_boolWords, String.toList_ofList, isFloat_of_whole h,
    isInt_of_whole h, Bool.false_eq_true, if_false, if_true]

theorem ofPlain_of_fraction {n : Number} {digits : Digits} (hfraction : n.fraction = some digits)
    (h : n.isPortable = true) : NodeType.ofPlain (String.ofList n.chars) = .float := by
  have hfloat : ScalarForm.isFloat n.chars = true := by
    simpa [isFloat_of_fraction hfraction, Number.isPortable, hfraction] using h
  simp only [NodeType.ofPlain, contains_boolWords, String.toList_ofList, hfloat,
    Bool.false_eq_true, if_false, if_true]

/-! ## Powers that make texts -/

theorem exists_power_of_not_isPortable {n : Number} (h : n.isPortable = false) :
    ∃ p, n.power = some p ∧ (n.fraction = none ∨ p.sign = .missing) := by
  cases hp : n.power with
  | none => simp [Number.isPortable, hp] at h
  | some p =>
    refine ⟨p, rfl, ?_⟩
    cases hfraction : n.fraction with
    | none => exact Or.inl rfl
    | some digits => exact Or.inr (by simpa [Number.isPortable, hp, hfraction] using h)

theorem isFloat_of_not_isPortable {n : Number} (h : n.isPortable = false) :
    ScalarForm.isFloat n.chars = false := by
  obtain ⟨p, hp, hform⟩ := exists_power_of_not_isPortable h
  cases hfraction : n.fraction with
  | none =>
    have hpoint : n.body.takeWhile (· ≠ '.') = n.body := by
      have hother : ∀ c ∈ "0123456789+-eE".toList, decide (c ≠ '.') = true :=
        List.all_iff_forall_prop.mp (by decide)
      have hdigits : ∀ c ∈ "0123456789".toList, c ∈ "0123456789+-eE".toList :=
        List.all_iff_forall_prop.mp (by decide)
      rw [List.takeWhile_eq_self_iff, Number.body, Number.fractionPart, hfraction]
      intro c hc
      rcases List.mem_append.mp hc with hwhole | hpower
      · exact hother c (hdigits c (n.whole.mem_digits (by simpa using hwhole)))
      · exact hother c (n.mem_of_mem_powerPart hpower)
    simp only [ScalarForm.isFloat, unsigned_chars, hpoint, Nat.lt_irrefl, decide_false,
      Bool.false_and]
  | some digits =>
    have hsign : p.sign = .missing := by simpa [hfraction] using hform
    rw [isFloat_of_fraction hfraction, hp, Option.all_some, hsign]
    rfl

theorem isDigitOrGap_of_isGappedNumber {text : List Char} {c : Char}
    (h : ScalarForm.isGappedNumber text = true) (hc : c ∈ text) :
    ScalarForm.isDigitOrGap c = true := by
  cases text with
  | nil => cases hc
  | cons d rest =>
    rw [ScalarForm.isGappedNumber, Bool.and_eq_true] at h
    rcases List.mem_cons.mp hc with rfl | hrest
    · simp [ScalarForm.isDigitOrGap, h.1]
    · exact List.all_eq_true.mp h.2 c hrest

/-- A number with a power is not whole. -/
theorem isInt_of_power {n : Number} {p : Power} (hp : n.power = some p) :
    ScalarForm.isInt n.chars = false := by
  have hmem : p.letter ∈ n.body := by
    simp [Number.body, Number.powerPart, hp, Power.chars]
  have hletter : ScalarForm.isDigitOrGap p.letter = false ∧
      (ScalarForm.isOctalDigit p.letter || p.letter == '_') = false := by
    rw [Power.letter]
    split <;> decide
  have hbased : ∀ sign isDigit, sign ∉ Number.alphabet →
      ScalarForm.isBased sign isDigit n.body = false := by
    intro sign isDigit hsign
    unfold ScalarForm.isBased
    split
    · next c digits hbody =>
      have hc : c ≠ sign := by
        rintro rfl
        exact hsign (n.mem_alphabet_of_body (by simp [hbody]))
      simp [hc]
    · rfl
  have hgapped : ScalarForm.isGappedNumber n.body = false := by
    rw [← Bool.not_eq_true]
    intro h
    rw [isDigitOrGap_of_isGappedNumber h hmem] at hletter
    cases hletter.1
  simp only [ScalarForm.isInt, unsigned_chars, ScalarForm.isGappedNumberWithoutZero, hgapped,
    hbased 'b' _ (by decide), hbased 'x' _ (by decide),
    isSexagesimal_of_not_mem (colon_not_mem_body n), Bool.or_false, Bool.false_or, Bool.false_and]
  split
  · next digits hbody =>
    rw [hbody] at hmem
    rcases List.mem_cons.mp hmem with hzero | hdigits
    · rw [hzero] at hletter
      cases hletter.1
    · exact List.all_eq_false.mpr ⟨p.letter, hdigits, by simp [hletter.2]⟩
  · rfl

/-- A moment begins with the digits of its year and a minus. -/
theorem Moment.exists_eq_of_ofText? {text : List Char} {m : Moment} (h : ofText? text = some m) :
    ∃ year rest, text = year ++ '-' :: rest ∧ year ≠ [] ∧ ∀ c ∈ year, Text.isDigit c = true := by
  simp only [ofText?, Option.bind_eq_bind, Option.bind_eq_some_iff] at h
  obtain ⟨⟨year, tail⟩, hyear, rest, hrest, -⟩ := h
  simp only [digits?, Option.ite_none_right_eq_some, Option.some.injEq, Prod.mk.injEq] at hyear
  obtain ⟨hlength, hyear, rfl⟩ := hyear
  have hprefix : year <+: text :=
    hyear ▸ (List.takeWhile_prefix _).trans (List.take_prefix 4 text)
  have htail : text.drop year.length = '-' :: rest := by
    rw [hyear] at hrest
    cases htext : text.drop year.length with
    | nil => simp [htext, behind?] at hrest
    | cons c tail =>
      simp only [htext, behind?, Option.ite_none_right_eq_some, Option.some.injEq] at hrest
      rw [hrest.1, hrest.2]
  refine ⟨year, rest, ?_, ?_, fun c hc => ?_⟩
  · rw [← htail]
    exact (List.prefix_iff_eq_append.mp hprefix).symm
  · rw [hyear] at hlength
    exact List.ne_nil_of_length_pos (Nat.lt_of_lt_of_le (by decide) hlength)
  · rw [← hyear] at hc
    exact List.mem_takeWhile_imp hc

/-- Behind the digits at the head of a number stands the point or the letter of its power. -/
theorem head?_behind_whole (n : Number) :
    ∀ c ∈ (n.fractionPart ++ n.powerPart).head?, c ∈ ['.', 'e', 'E'] := by
  intro c hc
  cases hfraction : n.fraction with
  | some digits =>
    simp only [Number.fractionPart, hfraction, Option.map_some, Option.getD_some,
      List.cons_append, List.head?_cons, Option.mem_some_iff] at hc
    rw [← hc]
    decide
  | none =>
    cases hp : n.power with
    | none => simp [Number.fractionPart, Number.powerPart, hfraction, hp] at hc
    | some p =>
      simp only [Number.fractionPart, Number.powerPart, hfraction, hp, Option.map_none,
        Option.map_some, Option.getD_none, Option.getD_some, List.nil_append, Power.chars,
        List.head?_cons, Option.mem_some_iff] at hc
      rw [← hc, Power.letter]
      split <;> decide

/-- No number is a moment: there is no minus behind the digits at its head. -/
theorem ofText?_number (n : Number) : Moment.ofText? n.chars = none := by
  rw [Option.eq_none_iff_forall_ne_some]
  intro m hm
  obtain ⟨year, rest, hchars, hnonempty, hyear⟩ := Moment.exists_eq_of_ofText? hm
  cases hn : n.negative with
  | true =>
    obtain ⟨d, year, rfl⟩ := List.exists_cons_of_ne_nil hnonempty
    have hd := hyear d List.mem_cons_self
    rw [Number.chars, hn, if_pos rfl, List.cons_append, List.cons.injEq] at hchars
    rw [← hchars.1] at hd
    cases hd
  | false =>
    have hdigits : ∀ d ∈ n.whole.chars, Text.isDigit d = true :=
      fun d hd => List.all_eq_true.mp n.whole.areDigits d hd
    rw [Number.chars, hn, if_neg Bool.false_ne_true, Number.body, List.append_assoc] at hchars
    have hbehind := congrArg (List.dropWhile Text.isDigit) hchars
    rw [List.dropWhile_append_of_pos hdigits, List.dropWhile_append_of_pos hyear,
      List.dropWhile_cons_of_neg (by decide)] at hbehind
    have hother : ∀ c ∈ ['.', 'e', 'E'], ¬ Text.isDigit c = true ∧ c ≠ '-' :=
      List.all_iff_forall_prop.mp (by decide)
    cases htail : n.fractionPart ++ n.powerPart with
    | nil =>
      rw [htail] at hbehind
      cases hbehind
    | cons c tail =>
      obtain ⟨hdigit, hminus⟩ := hother c (head?_behind_whole n c (by rw [htail]; rfl))
      rw [htail, List.dropWhile_cons_of_neg hdigit] at hbehind
      exact hminus (List.cons.inj hbehind).1

theorem ofPlain_of_not_isPortable {n : Number} (h : n.isPortable = false) :
    NodeType.ofPlain (String.ofList n.chars) = .text := by
  obtain ⟨p, hp, -⟩ := exists_power_of_not_isPortable h
  have hnull : ScalarForm.nullWords.contains (String.ofList n.chars) = false :=
    contains_number n _ (by decide)
  have hkeys : String.ofList n.chars ≠ "<<" ∧ String.ofList n.chars ≠ "=" := by
    simpa using contains_number n ["<<", "="] (by decide)
  simp only [NodeType.ofPlain, contains_boolWords, String.toList_ofList,
    isFloat_of_not_isPortable h, isInt_of_power hp, ScalarForm.isTimestamp, ofText?_number,
    hnull, hkeys, Option.any_none, Bool.false_eq_true, if_false]

/-! ## The value of a number -/

theorem splitNumber_chars (n : Number) :
    Scalar.splitNumber n.chars = .ok (n.negative, n.body) := by
  have hgap : ∀ c ∈ Number.alphabet, decide (c ≠ '_') = true :=
    List.all_iff_forall_prop.mp (by decide)
  have hfilter : n.chars.filter (· ≠ '_') = n.chars :=
    List.filter_eq_self.mpr fun c hc => hgap c (n.mem_alphabet hc)
  obtain ⟨d, ds, hds, hd⟩ := n.exists_whole_eq_cons
  obtain ⟨hminus, hplus⟩ := Json.ne_sign_of_digit hd
  rw [Scalar.splitNumber, hfilter]
  cases hn : n.negative with
  | true => simp [Number.chars, hn]
  | false => simp [Number.chars, hn, Number.body, hds, hminus, hplus]

theorem trimmed_body (n : Number) : Text.trimmed n.body = n.body := by
  have hblank : ∀ c ∈ Number.alphabet, Text.isBlank c = false :=
    List.all_iff_forall_prop.mp (by decide +kernel)
  exact Text.trimmed_of_forall fun c hc => hblank c (n.mem_alphabet_of_body hc)

theorem splitSign_body (n : Number) : Numeral.splitSign n.body = (false, n.body) := by
  obtain ⟨d, ds, hds, hd⟩ := n.exists_whole_eq_cons
  obtain ⟨hminus, hplus⟩ := Json.ne_sign_of_digit hd
  simp [Number.body, hds, Numeral.splitSign, hminus, hplus]

theorem contains_colon_body (n : Number) : n.body.contains ':' = false := by
  simpa using colon_not_mem_body n

theorem magnitude_of_whole {n : Number} (h : n.body = n.whole.chars) :
    Scalar.magnitude n.body =
      if Numeral.digitLimit < n.whole.chars.length then .error (.oversizedInt n.whole.chars.length)
      else .ok (Text.numberOf 10 n.whole.chars : Nat) := by
  obtain ⟨d, ds, hds, hd⟩ := n.exists_whole_eq_cons
  by_cases hzero : d = '0'
  · have hone := n.noLeadingZero (by simp [hds, hzero])
    rw [h, hone]
    rfl
  · have hdigits : n.whole.chars.all (Scalar.isDigitOf 10) = true := by
      have hall : ∀ d ∈ "0123456789".toList, Scalar.isDigitOf 10 d = true :=
        List.all_iff_forall_prop.mp (by decide)
      exact List.all_eq_true.mpr fun d hd => hall d (n.whole.mem_digits hd)
    have hsplit := splitSign_body n
    have htrimmed := trimmed_body n
    have hcolon := contains_colon_body n
    rw [h] at hsplit htrimmed hcolon
    have hint : Scalar.intIn 10 n.whole.chars =
        if Numeral.digitLimit < n.whole.chars.length then
          .error (.oversizedInt n.whole.chars.length)
        else .ok (Text.numberOf 10 n.whole.chars : Nat) := by
      have hbase : Scalar.withoutBaseSign 10 n.whole.chars = n.whole.chars := by
        simp [Scalar.withoutBaseSign, hds, hzero]
      simp [Scalar.intIn, htrimmed, hsplit, hbase, hdigits, n.whole.notEmpty]
    rw [h, ← hint]
    rw [hds] at hcolon ⊢
    unfold Scalar.magnitude
    split <;> simp_all

/-- A whole number is read unless it has too many digits. -/
theorem int_of_whole {n : Number} (hfraction : n.fraction = none) (hpower : n.power = none) :
    Scalar.int (String.ofList n.chars) =
      if n.isShort then .ok n.value else .error (.oversizedInt n.whole.chars.length) := by
  have hbody : n.body = n.whole.chars := by
    simp [Number.body, Number.fractionPart, Number.powerPart, hfraction, hpower]
  have hshort : n.isShort = decide (n.whole.chars.length ≤ Numeral.digitLimit) := by
    simp [Number.isShort, hfraction, hpower]
  simp only [Scalar.int, Text.string?_ofString, String.toList_ofList, splitNumber_chars, ok_bind,
    magnitude_of_whole hbody, Number.value, hfraction, hpower, hshort, decide_eq_true_eq]
  by_cases hlong : Numeral.digitLimit < n.whole.chars.length
  · rw [if_pos hlong, if_neg (Nat.not_le.mpr hlong)]
    rfl
  · rw [if_neg hlong, if_pos (Nat.not_lt.mp hlong)]
    rfl

theorem power?_powerPart (n : Number) :
    Numeral.power? n.powerPart = some ((n.power.map Power.exponent).getD 0) := by
  cases hp : n.power with
  | none => simp [Number.powerPart, hp, Numeral.power?]
  | some p =>
    obtain ⟨capital, sign, digits⟩ := p
    obtain ⟨d, ds, hds⟩ := List.exists_cons_of_ne_nil digits.notEmpty
    have hall := digits.areDigits
    have hd := digits.mem_digits (c := d) (by simp [hds])
    have hsign : ∀ d ∈ "0123456789".toList, d ≠ '-' ∧ d ≠ '+' :=
      List.all_iff_forall_prop.mp (by decide)
    obtain ⟨hminus, hplus⟩ := hsign d hd
    rw [hds, List.all_cons, Bool.and_eq_true] at hall
    have hmore : ∀ c ∈ ds, Text.isDigit c = true := List.all_eq_true.mp hall.2
    cases capital <;> cases sign <;>
      simpa [Number.powerPart, hp, Power.chars, Power.letter, Power.exponent, Json.Sign.chars,
        Numeral.power?, Numeral.splitSign, hds, hminus, hplus, hall.1] using hmore

theorem decimal?_body {n : Number} {digits : Digits} (hfraction : n.fraction = some digits) :
    Numeral.decimal? false n.body =
      some (Binary64.ofDecimal false (Text.numberOf 10 (n.whole.chars ++ n.fractionChars))
        ((n.power.map Power.exponent).getD 0 - n.fractionChars.length)) := by
  have hpoint := Json.head?_powerPart n Json.EndsNumber.nil
  have hwhole := Json.digitsOf_before n.whole (Json.head?_fractionPart n hpoint)
  have hdigits := Json.digitsOf_before digits fun c hc => (hpoint c hc).1
  simp only [Json.digitsOf, List.append_nil, Prod.mk.injEq] at hwhole hdigits
  have hpart : n.fractionPart = '.' :: digits.chars := by simp [Number.fractionPart, hfraction]
  have hchars : n.fractionChars = digits.chars := by simp [Number.fractionChars, hfraction]
  have hnotEmpty : n.whole.chars.isEmpty = false := by simpa using n.whole.notEmpty
  simp only [Numeral.decimal?, Number.body, List.append_assoc, hwhole.1, hwhole.2]
  simp only [hpart, List.cons_append, hdigits.1, hdigits.2, hnotEmpty, Bool.false_and,
    Bool.false_eq_true, if_false, power?_powerPart, hchars]

theorem floatMagnitude_body {n : Number} {digits : Digits} (hfraction : n.fraction = some digits) :
    Scalar.floatMagnitude n.body =
      .ok (Binary64.ofDecimal false (Text.numberOf 10 (n.whole.chars ++ n.fractionChars))
        ((n.power.map Power.exponent).getD 0 - n.fractionChars.length)) := by
  obtain ⟨d, ds, hds, hd⟩ := n.exists_whole_eq_cons
  have hother : ∀ d ∈ "0123456789".toList, d ≠ '.' ∧ d.toLower ≠ 'i' ∧ d.toLower ≠ 'n' :=
    List.all_iff_forall_prop.mp (by decide)
  obtain ⟨hpoint, hinf, hnan⟩ := hother d hd
  obtain ⟨more, hbody⟩ : ∃ more, n.body = d :: more := by simp [Number.body, hds]
  have hsigned : n.body ≠ ".inf".toList ∧ n.body ≠ ".nan".toList := by
    rw [hbody]
    exact ⟨fun h => hpoint (List.cons.inj h).1, fun h => hpoint (List.cons.inj h).1⟩
  have hplain : Numeral.plainFloat? n.body = Numeral.decimal? false n.body := by
    have hword : Text.asciiLower n.body ≠ "inf".toList ∧
        Text.asciiLower n.body ≠ "infinity".toList ∧ Text.asciiLower n.body ≠ "nan".toList := by
      rw [hbody]
      exact ⟨fun h => hinf (List.cons.inj h).1, fun h => hinf (List.cons.inj h).1,
        fun h => hnan (List.cons.inj h).1⟩
    simp only [Numeral.plainFloat?, splitSign_body, hword, or_self, if_false]
  simp only [Scalar.floatMagnitude, hsigned, if_false, contains_colon_body, Bool.false_eq_true,
    Scalar.decimal, trimmed_body, hplain, decimal?_body hfraction]

/-- The number with a small letter before its power. -/
def small (n : Number) : Number :=
  { n with power := n.power.map fun p => { p with capital := false } }

/-- Small letters do not change a number. -/
theorem lower_chars (n : Number) :
    Text.lower (String.ofList n.chars) = String.ofList (small n).chars := by
  have hascii : ∀ c ∈ Number.alphabet, c.toNat < 128 := List.all_iff_forall_prop.mp (by decide)
  have hdigit : ∀ c ∈ "0123456789".toList, c.toLower = c :=
    List.all_iff_forall_prop.mp (by decide)
  have hdigits : ∀ d : Digits, d.chars.map Char.toLower = d.chars := fun d =>
    List.map_congr_left (g := id) (fun c hc => hdigit c (d.mem_digits hc)) |>.trans (List.map_id _)
  have hsign : ∀ s : Json.Sign, s.chars.map Char.toLower = s.chars := by
    intro s
    cases s <;> rfl
  have hfraction : n.fractionPart.map Char.toLower = n.fractionPart := by
    cases hn : n.fraction <;> simp [Number.fractionPart, hn, hdigits]
  have hpower : n.powerPart.map Char.toLower = (small n).powerPart := by
    cases hn : n.power with
    | none => simp [Number.powerPart, small, hn]
    | some p =>
      have hletter : (if p.capital then 'E' else 'e').toLower = 'e' := by
        split <;> decide
      simp [Number.powerPart, small, hn, Power.chars, hletter, Power.letter, hsign, hdigits]
  have hbody : n.body.map Char.toLower = (small n).body := by
    simp [Number.body, hdigits, hfraction, hpower]
    rfl
  rw [Text.lower, Text.toList_ofString, String.toList_ofList, Text.ofString,
    String.toList_ofList, Text.lowerFrom_ascii [] fun c hc => hascii c (n.mem_alphabet hc)]
  unfold Number.chars
  rw [← hbody]
  cases hn : n.negative <;> simp [small, hn]

theorem float_of_fraction {n : Number} {digits : Digits} (hfraction : n.fraction = some digits) :
    Scalar.float (String.ofList n.chars) = .ok n.value := by
  have hsmall : (small n).fraction = some digits := hfraction
  have hexponent : (small n).power.map Power.exponent = n.power.map Power.exponent := by
    cases hn : n.power <;> simp [small, hn, Power.exponent]
  have hvalue : n.value = .float (Binary64.ofDecimal n.negative
      (Text.numberOf 10 (n.whole.chars ++ n.fractionChars))
      ((n.power.map Power.exponent).getD 0 - n.fractionChars.length)) := by
    simp only [Number.value, hfraction]
  have hread := floatMagnitude_body hsmall
  rw [hexponent] at hread
  rw [hvalue, Scalar.float, lower_chars]
  simp only [Text.string?_ofString, String.toList_ofList, splitNumber_chars, ok_bind, hread]
  show Except.ok (Value.float (if n.negative = true then _ else _)) = _
  cases n.negative with
  | true => exact congrArg (fun x => Except.ok (Value.float x)) (Binary64.neg_ofDecimal _ _)
  | false => rfl

/-! ## Nodes -/

/-- What a part of a document comes to: what it means, when its whole numbers are short enough; else
one of them is refused. -/
inductive Attempt.Gives {α : Type} (short : Bool) (a : α) : Attempt α → Prop
  | given (hshort : short = true) : Gives short a (.ok a)
  | refused (hlong : short = false) (depth digits : Nat) :
      Gives short a (.error (depth, .unreadable (.oversizedInt digits)))

/-- The type of a plain scalar of characters. -/
theorem NodeType.ofText_ofString (s : String) : NodeType.ofText s = NodeType.ofPlain s := by
  rw [NodeType.ofText, Text.string?_ofString]

/-- A number has its value in YAML as a plain scalar. -/
theorem gives_number (n : Number) (depth : Nat) (start : Mark) :
    Attempt.Gives n.isShort n.yamlValue
      ((Node.scalar (.known (NodeType.ofText (String.ofList n.chars))) (String.ofList n.chars)
        start).attempt depth []) := by
  rw [NodeType.ofText_ofString]
  by_cases h : n.isPortable = true
  · rw [Number.yamlValue, if_pos h]
    cases hfraction : n.fraction with
    | some digits =>
      have hread : (Node.scalar (.known .float) (String.ofList n.chars) start).attempt depth [] =
          .ok n.value := by
        simp [Node.attempt, Node.scalarAttempt, Node.ownText, Node.scalarText, Node.scalarValue,
          float_of_fraction hfraction]
      rw [ofPlain_of_fraction hfraction h, hread]
      exact .given (by simp [Number.isShort, hfraction])
    | none =>
      have hpower : n.power = none := by
        cases hn : n.power with
        | none => rfl
        | some p => simp [Number.isPortable, hn, hfraction] at h
      have hbody : n.body = n.whole.chars := by
        simp [Number.body, Number.fractionPart, Number.powerPart, hfraction, hpower]
      rw [ofPlain_of_whole hbody]
      by_cases hshort : n.isShort = true
      · have hread : (Node.scalar (.known .int) (String.ofList n.chars) start).attempt depth [] =
            .ok n.value := by
          simp [Node.attempt, Node.scalarAttempt, Node.ownText, Node.scalarText, Node.scalarValue,
            int_of_whole hfraction hpower, hshort]
        rw [hread]
        exact .given hshort
      · have hrefused : (Node.scalar (.known .int) (String.ofList n.chars) start).attempt depth [] =
            .error (depth, .unreadable (.oversizedInt n.whole.chars.length)) := by
          simp [Node.attempt, Node.scalarAttempt, Node.ownText, Node.scalarText, Node.scalarValue,
            int_of_whole hfraction hpower, hshort, Attempt.fail]
        rw [hrefused]
        exact .refused (Bool.eq_false_iff.mpr hshort) depth _
  · have hpart : (n.fraction.isSome || n.power.isSome) = true := by
      obtain ⟨p, hp, -⟩ := exists_power_of_not_isPortable (Bool.eq_false_iff.mpr h)
      simp [hp]
    rw [Number.yamlValue, if_neg h, ofPlain_of_not_isPortable (Bool.eq_false_iff.mpr h)]
    exact .given (by simp [Number.isShort, hpart])

/-- A word has its value as a plain scalar. -/
theorem attempt_word (w : Json.Word) (depth : Nat) (start : Mark) :
    (Node.scalar (.known (NodeType.ofText (String.ofList w.chars))) (String.ofList w.chars)
      start).attempt depth [] = .ok w.value := by
  rw [NodeType.ofText_ofString]
  have hnull : NodeType.ofPlain (String.ofList (Json.Word.chars .null)) = .null := by
    decide
  have hbool : ∀ b, NodeType.ofPlain (String.ofList (Json.Word.chars (.bool b))) = .bool ∧
      Scalar.boolOfWord? (Text.lower (String.ofList (Json.Word.chars (.bool b)))) = some b := by
    decide
  cases w with
  | null => simp [hnull, Node.attempt, Node.scalarAttempt, Node.ownText, Node.scalarText,
      Node.scalarValue, Json.Word.value]
  | bool b => simp [hbool, Node.attempt, Node.scalarAttempt, Node.ownText, Node.scalarText,
      Node.scalarValue, Scalar.bool, Json.Word.value]

end Yaml

end ChartQuery
