/-
# JSON strings as quoted scalars

A JSON string that both formats read alike is a double-quoted scalar with the same code points
(`scanQuoted_string`). Between the marks the scan works in runs, of ordinary characters and of
blanks, which it would fold at the end of a line. It is followed here one part of the string at a
time.
-/

import ChartQuery.Proofs.Json.Portable
import ChartQuery.Proofs.Json.Reader
import ChartQuery.Proofs.Yaml.Cursor
import Mathlib.Data.Bool.AllAny
import Mathlib.Tactic.SplitIfs

namespace ChartQuery.Yaml

open Scan
open Json (Piece stringOf quotedBefore)

variable {c : Char} {rest : List Char} {m began : Mark} {bound : Nat}

/-! ## Ordinary characters and blanks -/

theorem scanQuotedRest_ordinary (hc : endsQuotedRun c = false) :
    (scanQuotedRest true began (bound + 1)).run ⟨c :: rest, m⟩ =
      (do return c.toNat :: (← scanQuotedRest true began (bound + 1))).run ⟨rest, m.after c⟩ := by
  simp only [scanQuotedRest, taking, peek, Cursor.span, Cursor.peek, hc, Bool.not_false,
    List.takeWhile_cons_of_pos, List.dropWhile_cons_of_pos, List.map_cons, List.foldl_cons,
    List.cons_append, bind_pure_comp, bind_map_left, bind_assoc, map_bind, pure_bind, ite_true,
    StateT.run_bind, StateT.run_get, StateT.run_set, StateT.run_map]
  cases (rest.dropWhile fun c => !endsQuotedRun c)[0]? with
  | none => simp
  | some d =>
    dsimp only
    split_ifs <;> simp

theorem scanQuotedRest_quote :
    (scanQuotedRest true began (bound + 1)).run ⟨Text.doubleQuote :: rest, m⟩ =
      .ok ([], ⟨rest, m.after Text.doubleQuote⟩) :=
  rfl

theorem scanQuotedRest_singleQuote :
    (scanQuotedRest true began (bound + 1)).run ⟨Text.singleQuote :: rest, m⟩ =
      (do return Text.singleQuote.toNat :: (← scanQuotedRest true began bound)).run
        ⟨rest, m.after Text.singleQuote⟩ :=
  rfl

/-- White space inside a line stands for itself. -/
theorem scanQuotedGap_blanks (blanks : List Char) (hblanks : ∀ b ∈ blanks, b = ' ')
    (hspace : c ≠ ' ' ∧ c ≠ '\t') (hbreak : isBreak c = false) :
    (scanQuotedGap began).run ⟨blanks ++ c :: rest, m⟩ =
      .ok (blanks.map Char.toNat, ⟨c :: rest, blanks.foldl Mark.after m⟩) := by
  have htaken : ∀ b ∈ blanks, (b == ' ' || b == '\t') = true := fun b hb => by simp [hblanks b hb]
  have htaking : (taking fun c => c == ' ' || c == '\t').run ⟨blanks ++ c :: rest, m⟩ =
      .ok (blanks, ⟨c :: rest, blanks.foldl Mark.after m⟩) :=
    run_taking htaken (by simp [hspace])
  simp only [scanQuotedGap, StateT.run_bind, htaking, ok_bind]
  simp [peek, Cursor.peek, run_lineBreak hbreak]
  rfl

theorem scanQuotedRest_blanks {blanks : List Char} (hblanks : ∀ b ∈ blanks, b = ' ')
    (hspace : c ≠ ' ' ∧ c ≠ '\t') (hbreak : isBreak c = false) :
    (scanQuotedRest true began (bound + 1)).run ⟨' ' :: (blanks ++ c :: rest), m⟩ =
      (do return (' ' :: blanks).map Char.toNat ++ (← scanQuotedRest true began bound)).run
        ⟨c :: rest, (' ' :: blanks).foldl Mark.after m⟩ := by
  have hgap : (scanQuotedGap began).run ⟨' ' :: (blanks ++ c :: rest), m⟩ =
      .ok ((' ' :: blanks).map Char.toNat, ⟨c :: rest, (' ' :: blanks).foldl Mark.after m⟩) :=
    scanQuotedGap_blanks (' ' :: blanks) (by simpa using hblanks) hspace hbreak
  have hends : endsQuotedRun ' ' = true := rfl
  simp [scanQuotedRest, taking, peek, Cursor.span, Cursor.peek, hends, Text.doubleQuote,
    Text.singleQuote, hgap]

/-- The line does not end behind the blanks at the head of a text. -/
def StaysOnLine (text : List Char) : Prop :=
  ∃ blanks c rest, text = blanks ++ c :: rest ∧ (∀ b ∈ blanks, b = ' ') ∧ (c ≠ ' ' ∧ c ≠ '\t') ∧
    isBreak c = false

/-- A blank stands for itself; further blanks belong to the same run. -/
theorem scanQuotedRest_blank (h : StaysOnLine rest) :
    ∃ left ≥ bound, (scanQuotedRest true began (bound + 1)).run ⟨' ' :: rest, m⟩ =
      (do return ' '.toNat :: (← scanQuotedRest true began left)).run ⟨rest, m.after ' '⟩ := by
  obtain ⟨blanks, c, rest, rfl, hblanks, hspace, hbreak⟩ := h
  rw [scanQuotedRest_blanks hblanks hspace hbreak]
  cases blanks with
  | nil => exact ⟨bound, Nat.le_refl bound, rfl⟩
  | cons b blanks =>
    obtain rfl : b = ' ' := hblanks b List.mem_cons_self
    have hmore : ∀ b ∈ blanks, b = ' ' := fun b hb => hblanks b (List.mem_cons_of_mem _ hb)
    refine ⟨bound + 1, Nat.le_succ bound, ?_⟩
    simp [scanQuotedRest_blanks hmore hspace hbreak]

/-! ## Escapes -/

theorem scanEscape_letter (e : Json.Escape) :
    (scanEscape began).run ⟨e.letter :: rest, m⟩ = .ok ([e.code], ⟨rest, m.after e.letter⟩) := by
  cases e <;> rfl

theorem digitValue_lt (h : Text.isHexDigit c = true) : (Text.digitValue? c).getD 0 < 16 := by
  unfold Text.isHexDigit at h
  unfold Text.digitValue? at h ⊢
  split_ifs at h ⊢ with hdigit hsmall hcapital
  · have hlast : c.toNat ≤ 57 := hdigit.2
    simp only [Option.getD_some]
    omega
  · have hlast : c.toNat ≤ 102 := hsmall.2
    simp only [Option.getD_some]
    omega
  · have hlast : c.toNat ≤ 70 := hcapital.2
    simp only [Option.getD_some]
    omega
  · cases h

theorem scanEscape_unit {a b c d : Char} (h : [a, b, c, d].all Text.isHexDigit = true) :
    (scanEscape began).run ⟨'u' :: a :: b :: c :: d :: rest, m⟩ =
      .ok ([Text.numberOf 16 [a, b, c, d]], ⟨rest, ['u', a, b, c, d].foldl Mark.after m⟩) := by
  simp only [List.all_cons, List.all_nil, Bool.and_true, Bool.and_eq_true] at h
  obtain ⟨ha, hb, hc, hd⟩ := h
  have hcode : Text.numberOf 16 [a, b, c, d] ≤ 0xFFFF := by
    have ha := digitValue_lt ha
    have hb := digitValue_lt hb
    have hc := digitValue_lt hc
    have hd := digitValue_lt hd
    simp only [Text.numberOf, List.foldl_cons, List.foldl_nil]
    omega
  have hsize : ¬ 0x7FFFFFFF < Text.numberOf 16 [a, b, c, d] := by omega
  have hrange : ¬ 0x10FFFF < Text.numberOf 16 [a, b, c, d] := by omega
  have hnamed : namedEscapes.find? (·.1 == 'u') = none := by decide
  simp [scanEscape, peek, Cursor.peek, hnamed, escapeDigits?, scanCode, peekCodeDigits, skip,
    Cursor.advance, ha, hb, hc, hd, hsize, hrange]
  rfl

theorem scanQuotedRest_escape {codes : List Nat} {cursor : Cursor}
    (h : (scanEscape began).run ⟨rest, m.after '\\'⟩ = .ok (codes, cursor)) :
    (scanQuotedRest true began (bound + 1)).run ⟨'\\' :: rest, m⟩ =
      (do return codes ++ (← scanQuotedRest true began bound)).run cursor := by
  have hends : endsQuotedRun '\\' = true := rfl
  simp [scanQuotedRest, taking, peek, Cursor.span, Cursor.peek, hends, Text.doubleQuote,
    Text.singleQuote, skip, Cursor.advance, h]

/-! ## Strings -/

/-- One part of a string gives its code. -/
theorem scanQuotedRest_piece (p : Piece) (hp : p.isPortable = true) (h : StaysOnLine rest)
    (began m : Mark) (bound : Nat) :
    ∃ left ≥ bound, (scanQuotedRest true began (bound + 1)).run ⟨p.chars ++ rest, m⟩ =
      (do return p.code :: (← scanQuotedRest true began left)).run
        ⟨rest, p.chars.foldl Mark.after m⟩ := by
  cases p with
  | plain c stands =>
    by_cases hblank : c = ' '
    · subst hblank
      exact scanQuotedRest_blank h
    by_cases hquote : c = Text.singleQuote
    · subst hquote
      exact ⟨bound, Nat.le_refl bound, scanQuotedRest_singleQuote⟩
    simp only [Json.isUnescaped, Bool.and_eq_true, decide_eq_true_eq, bne_iff_ne] at stands
    simp only [Piece.isPortable, Bool.and_eq_true, Bool.not_eq_true'] at hp
    have htab : c ≠ '\t' := by
      rintro rfl
      exact absurd stands.1.1 (by decide)
    have hends : endsQuotedRun c = false := by
      simp [endsQuotedRun, atSpace, hblank, hquote, stands.1.2, stands.2, htab, hp.2]
    exact ⟨bound + 1, Nat.le_succ bound, scanQuotedRest_ordinary hends⟩
  | short e => exact ⟨bound, Nat.le_refl bound, scanQuotedRest_escape (scanEscape_letter e)⟩
  | unit a b c d areDigits =>
    exact ⟨bound, Nat.le_refl bound, scanQuotedRest_escape (scanEscape_unit areDigits)⟩

theorem isPrintable_of_isHexDigit (h : Text.isHexDigit c = true) :
    isPrintable c = true ∧ isBreak c = false := by
  have hascii : c.toNat < 128 := by
    unfold Text.isHexDigit Text.digitValue? at h
    split_ifs at h with hdigit hsmall hcapital
    · exact Nat.lt_of_le_of_lt (show c.toNat ≤ 57 from hdigit.2) (by decide)
    · exact Nat.lt_of_le_of_lt (show c.toNat ≤ 102 from hsmall.2) (by decide)
    · exact Nat.lt_of_le_of_lt (show c.toNat ≤ 70 from hcapital.2) (by decide)
    · cases h
  exact Text.forall_ascii
    (p := fun c => Text.isHexDigit c = true → isPrintable c = true ∧ isBreak c = false)
    (by decide) hascii h

/-- A string whose parts both formats read alike is written in characters that may stand in a
document, without line breaks. -/
theorem isPrintable_of_mem_chars {p : Piece} (hp : p.isPortable = true) (hc : c ∈ p.chars) :
    isPrintable c = true ∧ isBreak c = false := by
  cases p with
  | plain d stands =>
    obtain rfl : c = d := List.mem_singleton.mp hc
    simpa [Piece.isPortable] using hp
  | short e =>
    have hletter : ∀ c ∈ ['\\', e.letter], isPrintable c = true ∧ isBreak c = false := by
      cases e <;> exact List.all_iff_forall_prop.mp (by decide)
    exact hletter c hc
  | unit d e f g areDigits =>
    simp only [List.all_cons, List.all_nil, Bool.and_true, Bool.and_eq_true] at areDigits
    obtain ⟨hd, he, hf, hg⟩ := areDigits
    simp only [Piece.chars, List.mem_cons, List.not_mem_nil, or_false] at hc
    rcases hc with rfl | rfl | rfl | rfl | rfl | rfl
    · decide
    · decide
    · exact isPrintable_of_isHexDigit hd
    · exact isPrintable_of_isHexDigit he
    · exact isPrintable_of_isHexDigit hf
    · exact isPrintable_of_isHexDigit hg

/-- A string whose parts both formats read alike stays on its line. -/
theorem staysOnLine_pieces {pieces : List Piece} (hpieces : pieces.all Piece.isPortable = true)
    (rest : List Char) :
    StaysOnLine (pieces.flatMap Piece.chars ++ Text.doubleQuote :: rest) := by
  induction pieces with
  | nil => exact ⟨[], Text.doubleQuote, rest, rfl, by simp, by decide, rfl⟩
  | cons p pieces ih =>
    rw [List.all_cons, Bool.and_eq_true] at hpieces
    obtain ⟨blanks, d, tail, htext, hblanks, hspace, hbreak⟩ := ih hpieces.2
    rw [List.flatMap_cons, List.append_assoc, htext]
    cases p with
    | plain c stands =>
      by_cases hblank : c = ' '
      · subst hblank
        exact ⟨' ' :: blanks, d, tail, rfl, by simpa using hblanks, hspace, hbreak⟩
      · simp only [Piece.isPortable, Bool.and_eq_true, Bool.not_eq_true'] at hpieces
        have htab : c ≠ '\t' := by
          rintro rfl
          cases stands
        exact ⟨[], c, blanks ++ d :: tail, rfl, by simp, ⟨hblank, htab⟩, hpieces.1.2⟩
    | short e => exact ⟨[], '\\', e.letter :: (blanks ++ d :: tail), rfl, by simp, by decide, rfl⟩
    | unit a b c e areDigits =>
      exact ⟨[], '\\', _, rfl, by simp, by decide, rfl⟩

theorem scanQuotedRest_pieces (pieces : List Piece)
    (hpieces : pieces.all Piece.isPortable = true) (rest : List Char) (began m : Mark)
    (hbound : pieces.length ≤ bound) :
    (scanQuotedRest true began (bound + 1)).run
        ⟨pieces.flatMap Piece.chars ++ Text.doubleQuote :: rest, m⟩ =
      .ok (pieces.map Piece.code,
        ⟨rest, (pieces.flatMap Piece.chars ++ [Text.doubleQuote]).foldl Mark.after m⟩) := by
  induction pieces generalizing bound m with
  | nil => exact scanQuotedRest_quote
  | cons p pieces ih =>
    rw [List.all_cons, Bool.and_eq_true] at hpieces
    rw [List.length_cons] at hbound
    obtain ⟨left, hleft, hpiece⟩ := scanQuotedRest_piece p hpieces.1
      (staysOnLine_pieces hpieces.2 rest) began m bound
    obtain ⟨left, rfl⟩ : ∃ n, left = n + 1 := Nat.exists_eq_add_one_of_ne_zero (by omega)
    have hbound' : pieces.length ≤ left := by omega
    have hrest := ih hpieces.2 (p.chars.foldl Mark.after m) hbound'
    rw [List.flatMap_cons, List.append_assoc, hpiece]
    simp [hrest]

/-- A JSON string is a double-quoted scalar with the same code points. -/
theorem scanQuoted_string {pieces : List Piece} (hpieces : Json.arePortable pieces = true)
    (rest : List Char) (m : Mark) :
    (scanQuoted true).run ⟨quotedBefore pieces rest, m⟩ =
      .ok (Text.ofList (stringOf pieces),
        ⟨rest, (quotedBefore pieces []).foldl Mark.after m⟩) := by
  rw [Json.arePortable, Bool.and_eq_true, Bool.not_eq_true'] at hpieces
  have hbound : pieces.length ≤
      (pieces.flatMap Piece.chars ++ Text.doubleQuote :: rest).length := by
    have hlength := Json.length_le_flatMap_chars pieces
    simp only [List.length_append]
    omega
  have hrest := scanQuotedRest_pieces pieces hpieces.1 rest m (m.after Text.doubleQuote) hbound
  simp only [List.length_append, List.length_cons, List.foldl_append, List.foldl_cons,
    List.foldl_nil] at hrest
  simp only [scanQuoted, here, skip, quotedBefore, bind_pure_comp, bind_map_left, StateT.run_bind,
    StateT.run_get, StateT.run_modify, StateT.run_map, pure_bind, Cursor.advance, List.drop_one,
    List.tail_cons, List.take_succ_cons, List.take_zero, List.length_append, List.length_cons,
    List.foldl_append, List.foldl_cons, List.foldl_nil]
  rw [hrest, map_ok, Json.stringOf_of_not_hasPair hpieces.2, List.map_map]
  rfl

end ChartQuery.Yaml
