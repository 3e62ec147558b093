/-
# Letter case and ASCII letters

The case mappings do not see in which case an ASCII letter is written: neither the image of a letter
nor the choice of the final sigma, which looks at the letters around it, depends on it. So texts
that differ in the case of ASCII letters only have the same capitals and the same small letters.
And capitals bring nothing of ASCII but letters: any other character of ASCII in the capitals of a
text stood in the text (`mem_of_mem_upper`).
-/

import ChartQuery.Text.Blank
import ChartQuery.Text.Case

namespace ChartQuery.Text

/-! ## Single characters -/

/-- Only ASCII letters have a small form here. -/
theorem toLower_eq_self {c : Char} (h : ¬ c.toNat < 128) : c.toLower = c := by
  have hletter : ¬ (c.val ≥ 'A'.val ∧ c.val ≤ 'Z'.val) := by
    rintro ⟨-, hlast⟩
    have hcode : c.toNat ≤ 90 := hlast
    omega
  exact dif_neg hletter

/-- What holds of the first 128 characters holds of every ASCII character. -/
theorem forall_ascii {p : Char → Prop} (h : ∀ n < 128, p (Char.ofNat n)) {c : Char}
    (hc : c.toNat < 128) : p c := by
  have hcode := h c.toNat hc
  rwa [Char.ofNat_toNat] at hcode

theorem toNat_toLower_lt {c : Char} (h : c.toNat < 128) : c.toLower.toNat < 128 :=
  forall_ascii (p := fun c => c.toLower.toNat < 128) (by decide) h

theorem toLower_toLower {c : Char} (h : c.toNat < 128) : c.toLower.toLower = c.toLower :=
  forall_ascii (p := fun c => c.toLower.toLower = c.toLower) (by decide) h

/-- A character is its own small form, or it is a capital letter and its small form is the small
letter. -/
theorem toLower_cases (c : Char) : c.toLower = c ∨
    65 ≤ c.toNat ∧ c.toNat ≤ 90 ∧ 97 ≤ c.toLower.toNat ∧ c.toLower.toNat ≤ 122 := by
  by_cases h : c.toNat < 128
  · exact forall_ascii (p := fun c => c.toLower = c ∨
      65 ≤ c.toNat ∧ c.toNat ≤ 90 ∧ 97 ≤ c.toLower.toNat ∧ c.toLower.toNat ≤ 122)
      (by decide) h
  · exact Or.inl (toLower_eq_self h)

theorem inRuns_of_mem {runs : Array (Nat × Nat)} {c : Char} {first last : Nat}
    (hrun : (first, last) ∈ runs) (hfirst : first ≤ c.toNat) (hlast : c.toNat ≤ last) :
    inRuns runs c = true := by
  rw [inRuns, Array.any_eq_true']
  exact ⟨(first, last), hrun, by simp [hfirst, hlast]⟩

/-- The letters of both cases are letters with a case. -/
theorem inRuns_cased_toLower (c : Char) : inRuns casedRuns c.toLower = inRuns casedRuns c := by
  rcases toLower_cases c with h | ⟨hfirst, hlast, hfirst', hlast'⟩
  · rw [h]
  · have hcapitals : (65, 90) ∈ casedRuns := by decide +kernel
    have hsmall : (97, 122) ∈ casedRuns := by decide +kernel
    rw [inRuns_of_mem hcapitals hfirst hlast, inRuns_of_mem hsmall hfirst' hlast']

/-- No letter of either case is skipped in the search for a letter with a case. -/
theorem inRuns_caseIgnorable_toLower (c : Char) :
    inRuns caseIgnorableRuns c.toLower = inRuns caseIgnorableRuns c := by
  have hruns : ∀ run ∈ caseIgnorableRuns.toList,
      run.2 < 65 ∨ 90 < run.1 ∧ run.2 < 97 ∨ 122 < run.1 := by
    decide +kernel
  rcases toLower_cases c with h | ⟨hfirst, hlast, hfirst', hlast'⟩
  · rw [h]
  · have hskipped : ∀ d : Char, 65 ≤ d.toNat ∧ d.toNat ≤ 90 ∨ 97 ≤ d.toNat ∧ d.toNat ≤ 122 →
        inRuns caseIgnorableRuns d = false := by
      intro d hd
      rw [inRuns, Array.any_eq_false']
      intro run hrun
      have hbounds := hruns run (Array.mem_toList_iff.mpr hrun)
      simp only [Bool.and_eq_true, decide_eq_true_eq]
      omega
    rw [hskipped c (Or.inl ⟨hfirst, hlast⟩), hskipped c.toLower (Or.inr ⟨hfirst', hlast'⟩)]

theorem upperChar_toLower (c : Char) : upperChar c.toLower = upperChar c := by
  by_cases h : c.toNat < 128
  · have hupper : c.toLower.toUpper = c.toUpper :=
      forall_ascii (p := fun c => c.toLower.toUpper = c.toUpper) (by decide) h
    rw [upperChar, upperChar, if_pos (toNat_toLower_lt h), if_pos h, hupper]
  · rw [toLower_eq_self h]

/-- The letters of this class are those of ASCII. -/
theorem toNat_lt_of_isAlpha {c : Char} (h : c.isAlpha = true) : c.toNat < 128 := by
  delta Char.isAlpha Char.isUpper Char.isLower at h
  simp only [Bool.or_eq_true, Bool.and_eq_true, decide_eq_true_eq] at h
  rcases h with ⟨-, hlast⟩ | ⟨-, hlast⟩
  · have hcode : c.toNat ≤ 90 := hlast
    omega
  · have hcode : c.toNat ≤ 122 := hlast
    omega

theorem isAlpha_toUpper {c : Char} (h : c.isAlpha = true) : c.toUpper.isAlpha = true :=
  forall_ascii (p := fun c => c.isAlpha = true → c.toUpper.isAlpha = true) (by decide)
    (toNat_lt_of_isAlpha h) h

/-- A number that is no code point stands for the character with the code 0. -/
theorem toNat_ofNat_cases (n : Nat) : (Char.ofNat n).toNat = n ∨ (Char.ofNat n).toNat = 0 := by
  by_cases hvalid : n.isValidChar
  · have hchar : Char.ofNat n = Char.ofNatAux n hvalid := dif_pos hvalid
    exact Or.inl (congrArg Char.toNat hchar)
  · have hchar : Char.ofNat n = Char.ofNat 0 := dif_neg hvalid
    exact Or.inr (congrArg Char.toNat hchar)

/-- The table gives a letter itself, no character of ASCII, or a capital letter of ASCII. -/
theorem shifted_upperRuns_cases (code : Nat) :
    shifted upperRuns code = code ∨ 128 ≤ shifted upperRuns code ∨
      65 ≤ shifted upperRuns code ∧ shifted upperRuns code ≤ 90 := by
  have hruns : ∀ run ∈ upperRuns.toList, 128 ≤ (run.1 : Int) + run.2.2.2 ∨
      65 ≤ (run.1 : Int) + run.2.2.2 ∧ (run.2.1 : Int) + run.2.2.2 ≤ 90 := by
    decide +kernel
  unfold shifted
  split
  · next first last step distance hrun =>
    have hbounds := hruns _ (Array.mem_toList_iff.mpr (Array.mem_of_find?_eq_some hrun))
    have hinside := Array.find?_some hrun
    simp only [Bool.and_eq_true, decide_eq_true_eq, beq_iff_eq] at hinside
    simp only [Int.ofNat_eq_natCast] at hbounds ⊢
    omega
  · exact Or.inl rfl

/-- A character of ASCII in the capital form of another character is a letter. -/
theorem eq_or_isAlpha_of_mem_upperChar {c x : Char} (h : x ∈ upperChar c) (hsome : 0 < x.toNat)
    (hascii : x.toNat < 128) : x = c ∨ x.isAlpha = true := by
  have himages : ∀ entry ∈ upperExpansions.toList, ∀ image ∈ entry.2,
      128 ≤ (Char.ofNat image).toNat ∨ (Char.ofNat image).isAlpha = true := by
    decide +kernel
  unfold upperChar at h
  split at h
  · next hown =>
    rw [List.mem_singleton.mp h]
    exact forall_ascii (p := fun c => c.toUpper = c ∨ c.toUpper.isAlpha = true) (by decide) hown
  · split at h
    · next code images hentry =>
      obtain ⟨image, himage, rfl⟩ := List.mem_map.mp h
      have hmem := Array.mem_toList_iff.mpr (Array.mem_of_find?_eq_some hentry)
      exact Or.inr ((himages _ hmem image himage).resolve_left (by omega))
    · rw [List.mem_singleton] at h
      have hcode : x.toNat = shifted upperRuns c.toNat := by
        rw [h] at hsome ⊢
        exact (toNat_ofNat_cases _).resolve_right (by omega)
      rcases shifted_upperRuns_cases c.toNat with hself | hhigh | hletter
      · exact Or.inl (by rw [h, hself, Char.ofNat_toNat])
      · omega
      · rw [← hcode] at hletter
        exact Or.inr (forall_ascii (p := fun c => 65 ≤ c.toNat ∧ c.toNat ≤ 90 → c.isAlpha = true)
          (by decide) hascii hletter)

/-! ## Texts -/

/-- A property of characters that letters of both cases share is shared by their code points. -/
theorem meets_toLower {p : Char → Bool} (h : ∀ c, p c.toLower = p c) (x : Point) :
    x.toLower.meets p = x.meets p := by
  cases x with
  | char c => exact h c
  | half n => rfl

/-- Whether the next letter has a case does not depend on the case that it has. -/
theorem meetsCased_toLower (neighbours : List Point) :
    meetsCased (neighbours.map Point.toLower) = meetsCased neighbours := by
  induction neighbours with
  | nil => rfl
  | cons x rest ih =>
    unfold meetsCased at ih ⊢
    rw [List.map_cons, List.dropWhile_cons, List.dropWhile_cons,
      meets_toLower inRuns_caseIgnorable_toLower]
    by_cases hskipped : x.meets (inRuns caseIgnorableRuns) = true
    · rw [if_pos hskipped, if_pos hskipped]
      exact ih
    · rw [if_neg hskipped, if_neg hskipped]
      exact meets_toLower inRuns_cased_toLower x

theorem lowerChar_toLower (before : List Point) (c : Char) (after : List Point) :
    lowerChar (before.map Point.toLower) c.toLower (after.map Point.toLower) =
      lowerChar before c after := by
  by_cases h : c.toNat < 128
  · rw [lowerChar, lowerChar, if_pos (toNat_toLower_lt h), if_pos h, toLower_toLower h]
  · rw [toLower_eq_self h, lowerChar, lowerChar, meetsCased_toLower, meetsCased_toLower]

theorem lowerPoint_toLower (before : List Point) (x : Point) (after : List Point) :
    lowerPoint (before.map Point.toLower) x.toLower (after.map Point.toLower) =
      lowerPoint before x after := by
  cases x with
  | char c => exact congrArg (List.map Point.char) (lowerChar_toLower before c after)
  | half n => rfl

theorem lowerFrom_toLower (before text : List Point) :
    lowerFrom (before.map Point.toLower) (text.map Point.toLower) = lowerFrom before text := by
  induction text generalizing before with
  | nil => rfl
  | cons x after ih =>
    have hrest : lowerFrom (x.toLower :: before.map Point.toLower) (after.map Point.toLower) =
        lowerFrom (x :: before) after := ih (x :: before)
    rw [List.map_cons, lowerFrom, lowerFrom, lowerPoint_toLower, hrest]

theorem upperPoint_toLower (x : Point) : upperPoint x.toLower = upperPoint x := by
  cases x with
  | char c => exact congrArg (List.map Point.char) (upperChar_toLower c)
  | half n => rfl

variable {text₁ text₂ : Text}

/-- Texts that differ in the case of ASCII letters only have the same capitals. -/
theorem upper_congr (h : text₁.toList.map Point.toLower = text₂.toList.map Point.toLower) :
    upper text₁ = upper text₂ := by
  have hown : ∀ text : Text, (text.toList.map Point.toLower).flatMap upperPoint =
      text.toList.flatMap upperPoint := by
    intro text
    rw [List.flatMap_map]
    simp only [upperPoint_toLower]
  rw [upper, upper, ← hown text₁, ← hown text₂, h]

/-- They have the same small letters too, ASCII or not. -/
theorem lower_congr (h : text₁.toList.map Point.toLower = text₂.toList.map Point.toLower) :
    lower text₁ = lower text₂ := by
  have hown : ∀ text : Text, lowerFrom [] (text.toList.map Point.toLower) =
      lowerFrom [] text.toList := fun text => lowerFrom_toLower [] text.toList
  rw [lower, lower, ← hown text₁, ← hown text₂, h]

/-- The text is a word of ASCII letters. -/
def IsWord (text : Text) : Prop :=
  ∀ x ∈ text.toList, x.meets Char.isAlpha = true

instance (text : Text) : Decidable (IsWord text) :=
  inferInstanceAs (Decidable (∀ x ∈ text.toList, x.meets Char.isAlpha = true))

/-- The capital form of a letter is one letter. -/
theorem upperPoint_of_isAlpha {x : Point} (h : x.meets Char.isAlpha = true) :
    ∃ c : Char, c.isAlpha = true ∧ upperPoint x = [.char c.toUpper] := by
  cases x with
  | half n => cases h
  | char c =>
    refine ⟨c, h, ?_⟩
    rw [upperPoint, upperChar, if_pos (toNat_lt_of_isAlpha h)]
    rfl

/-- The capitals of a word are a word. -/
theorem IsWord.upper {name : Text} (h : IsWord name) : IsWord (upper name) := by
  intro x hx
  obtain ⟨letter, hletter, hx⟩ := List.mem_flatMap.mp hx
  obtain ⟨c, hc, hupper⟩ := upperPoint_of_isAlpha (h letter hletter)
  rw [hupper, List.mem_singleton] at hx
  rw [hx]
  exact isAlpha_toUpper hc

theorem IsWord.upper_ne_empty {name : Text} (h : IsWord name) (hsome : name ≠ "") :
    Text.upper name ≠ "" := by
  intro hempty
  have hnone : name.toList.flatMap upperPoint = [] := congrArg Text.toList hempty
  apply hsome
  rw [← length_eq_zero_iff, ← length_toList, List.length_eq_zero_iff,
    List.eq_nil_iff_forall_not_mem]
  intro x hx
  obtain ⟨c, -, hupper⟩ := upperPoint_of_isAlpha (h x hx)
  rw [List.flatMap_eq_nil_iff.mp hnone x hx] at hupper
  cases hupper

/-- Capitals bring no other characters of ASCII than letters. -/
theorem mem_of_mem_upper {text : Text} {x : Char} (h : .char x ∈ (upper text).toList)
    (hsome : 0 < x.toNat) (hascii : x.toNat < 128) (hletter : x.isAlpha = false) :
    .char x ∈ text.toList := by
  rw [upper, toList_ofList] at h
  obtain ⟨point, hpoint, hx⟩ := List.mem_flatMap.mp h
  cases point with
  | half n => simp [upperPoint] at hx
  | char c =>
    obtain ⟨image, himage, hsame⟩ := List.mem_map.mp hx
    cases hsame
    rcases eq_or_isAlpha_of_mem_upperChar himage hsome hascii with rfl | hisLetter
    · exact hpoint
    · rw [hletter] at hisLetter
      cases hisLetter

end ChartQuery.Text
