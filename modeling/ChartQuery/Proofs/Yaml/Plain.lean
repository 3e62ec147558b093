/-
# Words as plain scalars

Inside brackets a word without signs is a plain scalar with the same text, whatever blank space
stands between it and the sign that ends it (`scanPlain_word`). The scan passes over that blank
space as well, because further words might follow it.
-/

import ChartQuery.Proofs.Yaml.Cursor
import ChartQuery.Yaml.Plain
import Mathlib.Data.Bool.AllAny

namespace ChartQuery.Yaml

open Scan

/-- The character goes on with a plain scalar inside brackets wherever it stands. -/
def isWordChar (c : Char) : Bool :=
  !atSpace (some c) && c != ':' && c != '#' && !flowEnds.contains c

/-- Blanks and line feeds only. -/
def IsSpace (text : List Char) : Prop :=
  ∀ c ∈ text, c = ' ' ∨ c = '\n'

/-- The sign ends an item or a collection in brackets. -/
def isClosing (c : Char) : Bool :=
  c == ',' || c == ']' || c == '}'

variable {c : Char} {word space rest : List Char} {m : Mark} {bound : Nat}

/-! ## Words -/

theorem plainWordLength_word (hword : ∀ d ∈ word, isWordChar d = true) :
    plainWordLength true (word ++ rest) = word.length + plainWordLength true rest := by
  induction word with
  | nil => simp
  | cons d word ih =>
    have hd := hword d List.mem_cons_self
    simp only [isWordChar, Bool.and_eq_true, Bool.not_eq_true', bne_iff_ne, ne_eq] at hd
    obtain ⟨⟨⟨hspace, hcolon⟩, -⟩, hends⟩ := hd
    have hrest := ih fun e he => hword e (List.mem_cons_of_mem d he)
    simp only [List.cons_append, plainWordLength, endsPlainWord, hspace, hends,
      beq_eq_false_iff_ne.mpr hcolon, hrest, List.length_cons]
    simp
    omega

/-- What follows a word begins with blank space or with the sign. -/
theorem exists_space_eq_cons (hspace : IsSpace space) (hc : isClosing c = true)
    (rest : List Char) :
    ∃ d tail, space ++ c :: rest = d :: tail ∧ d ∈ [' ', '\n', ',', ']', '}'] := by
  cases space with
  | nil =>
    refine ⟨c, rest, rfl, ?_⟩
    simp only [isClosing, Bool.or_eq_true, beq_iff_eq] at hc
    simp [hc, ← or_assoc]
  | cons d space =>
    refine ⟨d, space ++ c :: rest, rfl, ?_⟩
    simp [← or_assoc, hspace d List.mem_cons_self]

/-- There the word ends. -/
theorem plainWordLength_space (hspace : IsSpace space) (hc : isClosing c = true) :
    plainWordLength true (space ++ c :: rest) = 0 := by
  obtain ⟨d, tail, htext, hd⟩ := exists_space_eq_cons hspace hc rest
  have hends : ∀ d ∈ [' ', '\n', ',', ']', '}'], atSpace (some d) || flowEnds.contains d :=
    List.all_iff_forall_prop.mp (by decide)
  have hend := hends d hd
  rw [Bool.or_eq_true] at hend
  rw [htext, plainWordLength, if_pos]
  rcases hend with hspace | hsign
  · simp [endsPlainWord, hspace]
  · simp only [endsPlainWord, hsign, Bool.and_true, Bool.or_true]

/-! ## Gaps -/

/-- No documents are separated there. -/
theorem atSeparator_space (hspace : IsSpace space) (hc : isClosing c = true) (rest : List Char)
    (m : Mark) :
    Cursor.atSeparator ⟨space ++ c :: rest, m⟩ = false := by
  obtain ⟨d, tail, htext, hd⟩ := exists_space_eq_cons hspace hc rest
  have hother : ∀ d ∈ [' ', '\n', ',', ']', '}'], d ≠ '-' ∧ d ≠ '.' :=
    List.all_iff_forall_prop.mp (by decide)
  simp [Cursor.atSeparator, htext, hother d hd]

/-- The signs are no white space. -/
theorem isClosing_spec (hc : isClosing c = true) : isBreak c = false ∧ c ≠ ' ' ∧ c ≠ '#' := by
  simp only [isClosing, Bool.or_eq_true, beq_iff_eq] at hc
  rcases hc with (rfl | rfl) | rfl <;> decide

theorem run_scanPlainBreaks (hspace : IsSpace space) (hc : isClosing c = true) (rest : List Char)
    (m : Mark) (hbound : space.length ≤ bound) :
    ∃ breaks, (scanPlainBreaks bound).run ⟨space ++ c :: rest, m⟩ =
      .ok (some breaks, ⟨c :: rest, space.foldl Mark.after m⟩) := by
  induction space generalizing bound m with
  | nil =>
    refine ⟨[], ?_⟩
    cases bound with
    | zero => rfl
    | succ bound =>
      obtain ⟨hbreak, hblank, -⟩ := isClosing_spec hc
      simp [scanPlainBreaks, peek, Cursor.peek, hblank, run_lineBreak hbreak]
      rfl
  | cons b space ih =>
    obtain ⟨bound, rfl⟩ : ∃ n, bound = n + 1 :=
      Nat.exists_eq_add_one_of_ne_zero (Nat.ne_zero_of_lt hbound)
    have hmore : IsSpace space := fun d hd => hspace d (List.mem_cons_of_mem b hd)
    obtain ⟨breaks, hbreaks⟩ := ih hmore (m.after b) (Nat.le_of_succ_le_succ hbound)
    rcases hspace b List.mem_cons_self with rfl | rfl
    · refine ⟨breaks, ?_⟩
      simp [scanPlainBreaks, peek, Cursor.peek, skip, Cursor.advance, hbreaks]
    · refine ⟨'\n' :: breaks, ?_⟩
      have hseparator := atSeparator_space hmore hc rest (m.after '\n')
      have hbreak : isBreak '\n' = true := rfl
      simp [scanPlainBreaks, lineBreak, peek, Cursor.peek, skip, Cursor.advance, hbreaks, hbreak,
        hseparator]

/-- Blank space has no line feed, or blanks stand before the first one. -/
theorem IsSpace.cases (hspace : IsSpace space) : (∀ b ∈ space, b = ' ') ∨
    ∃ blanks lines, space = blanks ++ '\n' :: lines ∧ (∀ b ∈ blanks, b = ' ') ∧ IsSpace lines := by
  induction space with
  | nil => exact Or.inl (by simp)
  | cons b space ih =>
    have hmore : IsSpace space := fun d hd => hspace d (List.mem_cons_of_mem b hd)
    rcases hspace b List.mem_cons_self with rfl | rfl
    · rcases ih hmore with hblanks | ⟨blanks, lines, rfl, hblanks, hlines⟩
      · exact Or.inl (by simpa using hblanks)
      · exact Or.inr ⟨' ' :: blanks, lines, rfl, by simpa using hblanks, hlines⟩
    · exact Or.inr ⟨[], space, rfl, by simp, hmore⟩

theorem run_scanPlainGap (hspace : IsSpace space) (hc : isClosing c = true) (rest : List Char)
    (m : Mark) :
    ∃ gap, scanPlainGap.run ⟨space ++ c :: rest, m⟩ =
      .ok (gap, ⟨c :: rest, space.foldl Mark.after m⟩) := by
  obtain ⟨hbreak, hblank, -⟩ := isClosing_spec hc
  rcases hspace.cases with hblanks | ⟨blanks, lines, rfl, hblanks, hlines⟩
  · have htaking : (taking (· == ' ')).run ⟨space ++ c :: rest, m⟩ =
        .ok (space, ⟨c :: rest, space.foldl Mark.after m⟩) :=
      run_taking (fun b hb => beq_iff_eq.mpr (hblanks b hb)) (beq_false_of_ne hblank)
    refine ⟨⟨space, false⟩, ?_⟩
    simp [scanPlainGap, htaking, run_lineBreak hbreak]
    rfl
  · have htaking : (taking (· == ' ')).run ⟨blanks ++ '\n' :: (lines ++ c :: rest), m⟩ =
        .ok (blanks, ⟨'\n' :: (lines ++ c :: rest), blanks.foldl Mark.after m⟩) :=
      run_taking (fun b hb => beq_iff_eq.mpr (hblanks b hb)) rfl
    have hline : isBreak '\n' = true := rfl
    have hbound : lines.length ≤ lines.length + (rest.length + 1) := Nat.le_add_right _ _
    obtain ⟨breaks, hbreaks⟩ := run_scanPlainBreaks hlines hc rest
      ((blanks.foldl Mark.after m).after '\n') hbound
    have hseparator := atSeparator_space hlines hc rest ((blanks.foldl Mark.after m).after '\n')
    refine ⟨⟨(if breaks.isEmpty then [' '] else []) ++ breaks, true⟩, ?_⟩
    simp [scanPlainGap, htaking, lineBreak, peek, Cursor.peek, skip, Cursor.advance, hline,
      hseparator, hbreaks]
    rfl

/-! ## Scalars -/

/-- At a sign there is no further word. -/
theorem run_scanPlainWords_closing (indent : Int) (gap : PlainGap) (hc : isClosing c = true) :
    (scanPlainWords true indent gap bound).run ⟨c :: rest, m⟩ =
      .ok (([], gap.crossesLine), ⟨c :: rest, m⟩) := by
  cases bound with
  | zero => rfl
  | succ bound =>
    have hnone : IsSpace [] := by simp [IsSpace]
    have hlength : plainWordLength true (c :: rest) = 0 := plainWordLength_space hnone hc
    simp [scanPlainWords, peek, Cursor.peek, hlength]
    rfl

theorem run_scanPlainWords_word (indent : Int) (hword : ∀ d ∈ word, isWordChar d = true)
    (hsome : word ≠ []) (hspace : IsSpace space) (hc : isClosing c = true) (rest : List Char)
    (m : Mark) (bound : Nat) :
    ∃ crosses, (scanPlainWords true indent ⟨[], false⟩ (bound + 1)).run
        ⟨word ++ (space ++ c :: rest), m⟩ =
      .ok ((word, crosses), ⟨c :: rest, (word ++ space).foldl Mark.after m⟩) := by
  obtain ⟨d, ds, rfl⟩ := List.exists_cons_of_ne_nil hsome
  have hlength : plainWordLength true (d :: (ds ++ (space ++ c :: rest))) = ds.length + 1 := by
    rw [← List.cons_append, plainWordLength_word hword, plainWordLength_space hspace hc,
      Nat.add_zero, List.length_cons]
  have hcomment : d ≠ '#' := by
    have hd := hword d List.mem_cons_self
    simp only [isWordChar, Bool.and_eq_true, bne_iff_ne, ne_eq] at hd
    exact hd.1.2
  obtain ⟨gap, hgap⟩ := run_scanPlainGap hspace hc rest (ds.foldl Mark.after (m.after d))
  obtain ⟨-, -, hcomment'⟩ := isClosing_spec hc
  refine ⟨gap.crossesLine, ?_⟩
  -- Blank space of some width could stand before a further word, which the sign then denies.
  by_cases hempty : gap.text = []
  · simp [scanPlainWords, peek, Cursor.peek, skip, Cursor.advance, hlength, hcomment, hgap, hempty]
    rfl
  · simp [scanPlainWords, peek, here, Cursor.peek, skip, Cursor.advance, hlength, hcomment, hgap,
      hempty, hcomment', run_scanPlainWords_closing indent gap hc]

/-- A word inside brackets is a plain scalar. -/
theorem scanPlain_word (indent : Int) (hword : ∀ d ∈ word, isWordChar d = true) (hsome : word ≠ [])
    (hspace : IsSpace space) (hc : isClosing c = true) (rest : List Char) (m : Mark) :
    ∃ crosses, (scanPlain true indent).run ⟨word ++ (space ++ c :: rest), m⟩ =
      .ok ((String.ofList word, crosses), ⟨c :: rest, (word ++ space).foldl Mark.after m⟩) := by
  obtain ⟨crosses, hwords⟩ := run_scanPlainWords_word (indent + 1) hword hsome hspace hc rest m
    (word ++ (space ++ c :: rest)).length
  refine ⟨crosses, ?_⟩
  simp only [scanPlain, bind_pure_comp, StateT.run_bind, StateT.run_get, StateT.run_map, pure_bind,
    hwords]
  rfl

end ChartQuery.Yaml
