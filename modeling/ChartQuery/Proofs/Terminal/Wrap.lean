/-
# Lines that come out as they are

What the screen does to a text beyond breaking it into lines: it loses nothing but gaps at the ends
of lines, and it adds nothing but blanks and line feeds. A line comes out as it is when it is not
too wide and its gaps do not stick out (`Fits`). Where the gaps of a line matter and its text comes
out with as many line feeds as it has, no line may be anything else (`fits_of_shown`).
-/

import ChartQuery.Terminal.Wrap
import ChartQuery.Proofs.Text.Line
import Mathlib.Data.List.DropRight
import Mathlib.Data.List.SplitBy

namespace ChartQuery.Terminal

open Text (isGap)

variable {width : Nat} {overflow : Overflow}

/-! ## Gaps at the end of a line -/

theorem isGap_blank : (Point.char ' ').meets isGap = true := by decide +kernel

theorem isGap_feed : (Point.char '\n').meets isGap = true := by decide +kernel

/-- A line without the gaps at its end, and these gaps. -/
theorem exists_gaps (line : List Point) :
    ∃ gaps, line = closed line ++ gaps ∧ ∀ c ∈ gaps, c.meets isGap = true := by
  have hclosed : closed line = line.rdropWhile (·.meets isGap) := rfl
  refine ⟨line.rtakeWhile (·.meets isGap), ?_, fun c hc => List.mem_rtakeWhile_imp hc⟩
  rw [hclosed, List.rdropWhile_append_rtakeWhile]

/-- Behind another text only the gaps at the end of the whole count. -/
theorem closed_append (a b : List Point) :
    closed (a ++ b) = closed a ∨ closed (a ++ b) = a ++ closed b := by
  unfold closed
  rw [List.reverse_append, List.dropWhile_append]
  split
  · exact Or.inl rfl
  · exact Or.inr (by rw [List.reverse_append, List.reverse_reverse])

theorem cells_closed_le (line : List Point) : cells (closed line) ≤ cells line := by
  obtain ⟨gaps, hline, -⟩ := exists_gaps line
  have hcells := congrArg cells hline
  rw [cells_append] at hcells
  omega

/-! ## Breaking a line -/

theorem pointCells_le_two (c : Point) : pointCells c ≤ 2 := by
  cases c with
  | half n => exact Nat.le_succ 1
  | char c =>
    show charCells c ≤ 2
    unfold charCells
    repeat' split
    all_goals decide

/-- The parts of a word give the word, and each of them fits; the first one shares its line with
what was used before. -/
theorem chopped_spec (hwidth : 2 ≤ width) (used : Nat) (text : List Point) :
    (chopped width used text).flatten = text ∧
      ∃ first others, chopped width used text = first :: others ∧
        (used ≤ width → used + cells first ≤ width) ∧ ∀ part ∈ others, cells part ≤ width := by
  induction text generalizing used with
  | nil => exact ⟨rfl, [], [], rfl, id, fun _ h => absurd h List.not_mem_nil⟩
  | cons c rest ih =>
    have hc : pointCells c ≤ width := (pointCells_le_two c).trans hwidth
    by_cases hroom : used + pointCells c ≤ width
    · obtain ⟨hflatten, first, others, hparts, hfirst, hothers⟩ := ih (used + pointCells c)
      have hchopped : chopped width used (c :: rest) = (c :: first) :: others := by
        rw [chopped, if_pos hroom, hparts]
      refine ⟨?_, c :: first, others, hchopped, fun _ => ?_, hothers⟩
      · rw [hchopped, List.flatten_cons, List.cons_append, ← List.flatten_cons, ← hparts, hflatten]
      · rw [cells_cons, ← Nat.add_assoc]
        exact hfirst hroom
    · -- The character opens a new part, on which it is alone.
      obtain ⟨hflatten, first, others, hparts, hfirst, hothers⟩ := ih (pointCells c)
      have hchopped : chopped width used (c :: rest) = [] :: (c :: first) :: others := by
        rw [chopped, if_neg hroom, hparts]
      refine ⟨?_, [], (c :: first) :: others, hchopped, fun hused => hused, ?_⟩
      · rw [hchopped, List.flatten_cons, List.nil_append, List.flatten_cons, List.cons_append,
          ← List.flatten_cons, ← hparts, hflatten]
      · rw [List.forall_mem_cons]
        exact ⟨hfirst hc, hothers⟩

theorem flatten_words (line : List Point) : (words line).flatten = line := by
  have hsplit := List.flatten_splitBy (fun a b => !(a.meets isGap && !b.meets isGap)) line
  unfold words
  split
  · next gap word rest hwords =>
    rw [hwords] at hsplit
    split
    · rw [← hsplit]
      simp
    · exact hsplit
  · exact hsplit

namespace Broken

/-- The text that has been placed. -/
def text (b : Broken) : List Point :=
  b.lines.flatten

theorem text_eq (b : Broken) : b.text = b.done.reverse.flatten ++ b.line := by
  simp [text, lines]

/-- The cells of the current line are counted, and on every line those in front of its last gaps
fit. -/
structure IsFitted (width : Nat) (b : Broken) : Prop where
  used : b.used = cells b.line
  closed : cells (closed b.line) ≤ width
  done : ∀ line ∈ b.done, cells (Terminal.closed line) ≤ width

theorem text_onNewLine (b : Broken) (part : List Point) :
    (b.onNewLine part).text = b.text ++ part := by
  unfold onNewLine
  split
  · next huntouched =>
    rw [isUntouched, Bool.and_eq_true, List.isEmpty_iff, List.isEmpty_iff] at huntouched
    simp [text_eq, huntouched.1, huntouched.2]
  · simp [text_eq]

theorem text_onSameLine (b : Broken) (part : List Point) :
    (b.onSameLine part).text = b.text ++ part := by
  simp [text_eq, onSameLine]

theorem isFitted_onNewLine {b : Broken} (h : b.IsFitted width) {part : List Point}
    (hpart : cells (Terminal.closed part) ≤ width) : (b.onNewLine part).IsFitted width := by
  unfold onNewLine
  split
  · exact ⟨rfl, hpart, h.done⟩
  · exact ⟨rfl, hpart, List.forall_mem_cons.mpr ⟨h.closed, h.done⟩⟩

theorem IsFitted.onSameLine {b : Broken} (h : b.IsFitted width) {part : List Point}
    (hroom : b.used + cells (Terminal.closed part) ≤ width) :
    (b.onSameLine part).IsFitted width := by
  refine ⟨?_, ?_, h.done⟩
  · rw [Broken.onSameLine, h.used, cells_append]
  · rcases closed_append b.line part with hclosed | hclosed
    · rw [Broken.onSameLine, hclosed]
      exact h.closed
    · rw [Broken.onSameLine, hclosed, cells_append, ← h.used]
      exact hroom

theorem text_foldl_onNewLine (parts : List (List Point)) (b : Broken) :
    (parts.foldl onNewLine b).text = b.text ++ parts.flatten := by
  induction parts generalizing b with
  | nil => rw [List.foldl_nil, List.flatten_nil, List.append_nil]
  | cons part rest ih =>
    rw [List.foldl_cons, ih, text_onNewLine, List.flatten_cons, List.append_assoc]

theorem IsFitted.foldl_onNewLine {parts : List (List Point)}
    (hparts : ∀ part ∈ parts, cells part ≤ width) {b : Broken} (h : b.IsFitted width) :
    (parts.foldl onNewLine b).IsFitted width := by
  induction parts generalizing b with
  | nil => exact h
  | cons part rest ih =>
    rw [List.forall_mem_cons] at hparts
    exact ih hparts.2 (isFitted_onNewLine h ((cells_closed_le part).trans hparts.1))

theorem place_fold (b : Broken) (word : List Point) :
    b.place width .fold word =
      if b.used + cells (closed word) ≤ width then b.onSameLine word
      else if width < cells (closed word) then (chopped width 0 word).foldl onNewLine b
      else b.onNewLine word := rfl

/-- A word is placed as a whole, on one line or on several. -/
theorem place_spec (hwidth : 2 ≤ width) {b : Broken} (h : b.IsFitted width) (word : List Point) :
    (b.place width .fold word).text = b.text ++ word ∧
      (b.place width .fold word).IsFitted width := by
  obtain ⟨hflatten, first, others, hparts, hfirst, hothers⟩ := chopped_spec hwidth 0 word
  rw [place_fold]
  split
  · next hroom => exact ⟨text_onSameLine b word, h.onSameLine hroom⟩
  · split
    · refine ⟨by rw [text_foldl_onNewLine, hflatten], h.foldl_onNewLine fun part hpart => ?_⟩
      rw [hparts, List.mem_cons] at hpart
      rcases hpart with rfl | hpart
      · simpa using hfirst (Nat.zero_le width)
      · exact hothers part hpart
    · next hsize => exact ⟨text_onNewLine b word, isFitted_onNewLine h (Nat.le_of_not_lt hsize)⟩

theorem foldl_place_spec (hwidth : 2 ≤ width) (parts : List (List Point)) {b : Broken}
    (h : b.IsFitted width) :
    (parts.foldl (place width .fold) b).text = b.text ++ parts.flatten ∧
      (parts.foldl (place width .fold) b).IsFitted width := by
  induction parts generalizing b with
  | nil => exact ⟨(List.append_nil b.text).symm, h⟩
  | cons word rest ih =>
    obtain ⟨hword, hplaced⟩ := place_spec hwidth h word
    obtain ⟨hrest, hfitted⟩ := ih hplaced
    exact ⟨by rw [List.foldl_cons, hrest, hword, List.append_assoc, List.flatten_cons], hfitted⟩

/-- Words that fit together stay on the line that they find. -/
theorem foldl_place_of_fits (parts : List (List Point)) {b : Broken} (hused : b.used = cells b.line)
    (hroom : b.used + cells parts.flatten ≤ width) :
    (parts.foldl (place width overflow) b).lines = (b.onSameLine parts.flatten).lines := by
  induction parts generalizing b with
  | nil =>
    rw [List.foldl_nil, onSameLine, List.flatten_nil, List.append_nil]
    rfl
  | cons word rest ih =>
    rw [List.flatten_cons, cells_append] at hroom
    have hword := cells_closed_le word
    have hplace : b.place width overflow word = b.onSameLine word := if_pos (by omega)
    have hnext : (b.onSameLine word).used = cells (b.onSameLine word).line := by
      rw [onSameLine, hused, cells_append]
    have hrest : (b.onSameLine word).used + cells rest.flatten ≤ width := by
      have hused : (b.onSameLine word).used = b.used + cells word := rfl
      omega
    rw [List.foldl_cons, hplace, ih hnext hrest]
    simp [onSameLine, lines]

end Broken

theorem broken_ne_nil (width : Nat) (overflow : Overflow) (line : List Point) :
    broken width overflow line ≠ [] := by
  unfold broken Broken.lines
  simp

theorem isFitted_start (width : Nat) : Broken.start.IsFitted width :=
  ⟨rfl, Nat.zero_le width, nofun⟩

/-- Breaking a line loses nothing. -/
theorem flatten_broken (hwidth : 2 ≤ width) (line : List Point) :
    (broken width .fold line).flatten = line := by
  obtain ⟨htext, -⟩ := Broken.foldl_place_spec hwidth (words line) (isFitted_start width)
  rw [flatten_words] at htext
  exact htext

/-- The lines that come of a line fit up to their last gaps. -/
theorem closed_le_of_mem_broken (hwidth : 2 ≤ width) {line part : List Point}
    (h : part ∈ broken width .fold line) : cells (closed part) ≤ width := by
  obtain ⟨-, hfitted⟩ := Broken.foldl_place_spec hwidth (words line) (isFitted_start width)
  rw [broken, Broken.lines, List.mem_reverse, List.mem_cons] at h
  rcases h with rfl | hdone
  · exact hfitted.closed
  · exact hfitted.done part hdone

/-- A line that fits is not broken. -/
theorem broken_of_fits {line : List Point} (h : cells line ≤ width) :
    broken width overflow line = [line] := by
  have hroom : Broken.start.used + cells (words line).flatten ≤ width := by
    rw [flatten_words]
    exact (Nat.zero_add (cells line)).le.trans h
  rw [broken, Broken.foldl_place_of_fits (words line) rfl hroom, flatten_words]
  rfl

/-- A line that is not broken fits up to its last gaps. -/
theorem closed_le_of_broken (hwidth : 2 ≤ width) {line part : List Point}
    (h : broken width .fold line = [part]) : part = line ∧ cells (closed line) ≤ width := by
  have hpart : part = line := by
    have hflatten := flatten_broken hwidth line
    rwa [h, List.flatten_singleton] at hflatten
  have hmem : part ∈ broken width .fold line := h ▸ List.mem_singleton_self part
  exact ⟨hpart, hpart ▸ closed_le_of_mem_broken hwidth hmem⟩

/-! ## Lines that come out as they are -/

/-- A line is not too wide, and its last gaps do not stick out. -/
def Fits (width : Nat) (line : List Point) : Prop :=
  cells line ≤ width ∧ (closed line = line ∨ line.length ≤ width)

instance (width : Nat) (line : List Point) : Decidable (Fits width line) :=
  inferInstanceAs (Decidable (_ ∧ _))

/-- A part of a broken line as it comes out. -/
def shownPart (width : Nat) (part : List Point) : List Point :=
  cut width .fold (withoutOverhang width part)

/-- Of a line with its last gaps, some of the gaps may be lost. -/
theorem withoutOverhang_eq (width : Nat) {line gaps : List Point}
    (hline : line = closed line ++ gaps) :
    withoutOverhang width line =
      closed line ++ gaps.take (gaps.length - min gaps.length (line.length - width)) := by
  have hlength := congrArg List.length hline
  rw [List.length_append] at hlength
  have hgaps : line.length - (closed line).length = gaps.length := by omega
  have hkept : line.length - min gaps.length (line.length - width) =
      (closed line).length + (gaps.length - min gaps.length (line.length - width)) := by omega
  have htake : ∀ n, line.take n = (closed line ++ gaps).take n := fun n =>
    congrArg (List.take n) hline
  rw [withoutOverhang, hgaps, hkept, htake, List.take_length_add_append]

theorem fitted_append {a : List Point} (h : cells a ≤ width) (b : List Point) :
    fitted width (a ++ b) = a ++ fitted (width - cells a) b := by
  induction a generalizing width with
  | nil => rfl
  | cons c rest ih =>
    rw [cells_cons] at h
    rw [List.cons_append, fitted, if_pos (by omega), ih (by omega), cells_cons, Nat.sub_add_eq,
      List.cons_append]

theorem count_blanks {c : Point} (hc : c ≠ .char ' ') (count : Nat) : (blanks count).count c = 0 :=
  List.count_eq_zero.mpr fun h => hc (List.eq_of_mem_replicate h)

theorem count_fitted_le {c : Point} (hc : c ≠ .char ' ') (width : Nat) (text : List Point) :
    (fitted width text).count c ≤ text.count c := by
  induction text generalizing width with
  | nil => exact (count_blanks hc width).le
  | cons d rest ih =>
    unfold fitted
    split
    · rw [List.count_cons, List.count_cons]
      exact Nat.add_le_add_right (ih (width - pointCells d)) _
    · exact (count_blanks hc width).le.trans (Nat.zero_le _)

/-- A part of a line loses characters and gains only blanks. -/
theorem count_shownPart_le {c : Point} (hc : c ≠ .char ' ') (width : Nat) (part : List Point) :
    (shownPart width part).count c ≤ part.count c := by
  have hkept : (withoutOverhang width part).count c ≤ part.count c :=
    (List.take_sublist _ part).count_le c
  unfold shownPart cut
  split
  · exact (count_fitted_le hc width _).trans hkept
  · exact hkept

/-- A part that fits up to its last gaps keeps everything else. -/
theorem mem_shownPart {c : Point} (hgap : c.meets isGap = false) {part : List Point}
    (hclosed : cells (closed part) ≤ width) (h : c ∈ part) : c ∈ shownPart width part := by
  obtain ⟨gaps, hpart, hgaps⟩ := exists_gaps part
  have hkept : c ∈ closed part := by
    rw [hpart, List.mem_append] at h
    refine h.resolve_right fun hc => ?_
    rw [hgaps c hc] at hgap
    cases hgap
  rw [shownPart, withoutOverhang_eq width hpart, cut]
  split
  · rw [fitted_append hclosed]
    exact List.mem_append_left _ hkept
  · exact List.mem_append_left _ hkept

theorem shownPart_of_fits {line : List Point} (h : Fits width line) :
    shownPart width line = line := by
  obtain ⟨hcells, hends⟩ := h
  have hkept : withoutOverhang width line = line := by
    unfold withoutOverhang
    refine List.take_of_length_le ?_
    rcases hends with hclosed | hshort
    · rw [hclosed]
      omega
    · omega
  rw [shownPart, hkept, cut, if_neg (Nat.not_lt_of_le hcells)]

theorem isGap_of_mem_fitted {gaps : List Point} (hgaps : ∀ c ∈ gaps, c.meets isGap = true) :
    ∀ c ∈ fitted width gaps, c.meets isGap = true := by
  intro c hc
  by_cases hblank : c = .char ' '
  · rw [hblank]
    exact isGap_blank
  · have hcount := count_fitted_le hblank width gaps
    have hpos : 0 < (fitted width gaps).count c := List.count_pos_iff.mpr hc
    exact hgaps c (List.count_pos_iff.mp (by omega))

/-- A line that fits up to its last gaps fits altogether when none of the gaps is lost. -/
theorem fits_of_filter_shownPart {p : Point → Bool} (hgap : ∀ c, c.meets isGap = true → p c = true)
    {line : List Point} (hclosed : cells (closed line) ≤ width)
    (hsame : (shownPart width line).filter p = line.filter p) : Fits width line := by
  obtain ⟨gaps, hline, hgaps⟩ := exists_gaps line
  have hall : ∀ {l : List Point}, (∀ c ∈ l, c.meets isGap = true) → l.filter p = l := fun h =>
    List.filter_eq_self.mpr fun c hc => hgap c (h c hc)
  have hsplit : line.filter p = (closed line).filter p ++ gaps := by
    have hfilter := congrArg (List.filter p) hline
    rwa [List.filter_append, hall hgaps] at hfilter
  have hkept := withoutOverhang_eq width hline
  generalize hcount : gaps.length - min gaps.length (line.length - width) = count at hkept
  have hfew : ∀ c ∈ gaps.take count, c.meets isGap = true := fun c hc =>
    hgaps c (List.mem_of_mem_take hc)
  rw [hsplit, shownPart, hkept, cut] at hsame
  split at hsame
  · -- The gaps that are left would have to fill more than the room that they are cut to.
    next hwide =>
    rw [fitted_append hclosed, List.filter_append, hall (isGap_of_mem_fitted hfew)] at hsame
    have hcells := congrArg cells (List.append_cancel_left hsame)
    rw [cells_fitted] at hcells
    have hmore : cells gaps = cells (gaps.take count) + cells (gaps.drop count) := by
      rw [← cells_append, List.take_append_drop]
    rw [cells_append] at hwide
    omega
  · next hroom =>
    rw [List.filter_append, hall hfew] at hsame
    have hkeeps : gaps.take count = gaps := List.append_cancel_left hsame
    refine ⟨by rw [hline, ← hkeeps]; omega, ?_⟩
    by_cases hnone : gaps = []
    · rw [hnone, List.append_nil] at hline
      exact Or.inl hline.symm
    · have hlength := congrArg List.length hkeeps
      rw [List.length_take] at hlength
      have hpos := List.length_pos_iff.mpr hnone
      exact Or.inr (by omega)

/-! ## Tabs and controls -/

/-- The screen shows the character as itself. -/
def IsShown (c : Point) : Prop :=
  c ≠ .char '\t' ∧ isHidden c = false

instance (c : Point) : Decidable (IsShown c) :=
  inferInstanceAs (Decidable (_ ∧ _))

theorem withoutTabs_eq_self {line : List Point} (h : Point.char '\t' ∉ line) (column : Nat) :
    withoutTabs column line = line := by
  induction line generalizing column with
  | nil => rfl
  | cons c rest ih =>
    rw [List.mem_cons, not_or] at h
    rw [withoutTabs, if_neg (Ne.symm h.1), ih h.2]

theorem tab_not_mem_withoutTabs (column : Nat) (line : List Point) :
    Point.char '\t' ∉ withoutTabs column line := by
  induction line generalizing column with
  | nil => exact List.not_mem_nil
  | cons c rest ih =>
    unfold withoutTabs
    split
    · rw [List.mem_append, not_or]
      exact ⟨fun h => absurd (List.eq_of_mem_replicate h) (by decide), ih _⟩
    · next hc =>
      rw [List.mem_cons, not_or]
      exact ⟨Ne.symm hc, ih _⟩

theorem mem_withoutTabs {c : Point} (hc : c ≠ .char '\t') (column : Nat) {line : List Point}
    (h : c ∈ line) : c ∈ withoutTabs column line := by
  induction line generalizing column with
  | nil => exact h
  | cons d rest ih =>
    unfold withoutTabs
    rcases List.mem_cons.mp h with rfl | hrest
    · rw [if_neg hc]
      exact List.mem_cons_self
    · split
      · exact List.mem_append_right _ (ih _ hrest)
      · exact List.mem_cons_of_mem d (ih _ hrest)

theorem count_withoutTabs_le {c : Point} (hc : c ≠ .char ' ') (column : Nat) (line : List Point) :
    (withoutTabs column line).count c ≤ line.count c := by
  induction line generalizing column with
  | nil => exact Nat.le_refl 0
  | cons d rest ih =>
    unfold withoutTabs
    split
    · rw [List.count_append, count_blanks hc, Nat.zero_add]
      exact (ih _).trans List.count_le_count_cons
    · rw [List.count_cons, List.count_cons]
      exact Nat.add_le_add_right (ih _) _

/-! ## The whole text -/

/-- The lines that come of one line. -/
def laidOut (width : Nat) (line : List Point) : List (List Point) :=
  (broken width .fold (withoutTabs 0 line)).map (shownPart width)

theorem laidOut_ne_nil (width : Nat) (line : List Point) : laidOut width line ≠ [] := by
  unfold laidOut
  rw [ne_eq, List.map_eq_nil_iff]
  exact broken_ne_nil width .fold _

theorem laidOut_of_fits {line : List Point} (htab : Point.char '\t' ∉ line) (h : Fits width line) :
    laidOut width line = [line] := by
  rw [laidOut, withoutTabs_eq_self htab, broken_of_fits h.1, List.map_singleton,
    shownPart_of_fits h]

/-- A line that comes out as one line with all its gaps fits. -/
theorem fits_of_laidOut (hwidth : 2 ≤ width) {p : Point → Bool}
    (hgap : ∀ c, c.meets isGap = true → p c = true) {line out : List Point}
    (htab : Point.char '\t' ∉ line) (h : laidOut width line = [out])
    (hsame : out.filter p = line.filter p) : Fits width line := by
  rw [laidOut, withoutTabs_eq_self htab, List.map_eq_singleton_iff] at h
  obtain ⟨part, hbroken, hout⟩ := h
  obtain ⟨hpart, hclosed⟩ := closed_le_of_broken hwidth hbroken
  rw [← hout, hpart] at hsame
  exact fits_of_filter_shownPart hgap hclosed hsame

theorem count_flatten_map_le {c : Point} {f : List Point → List Point}
    (h : ∀ part, (f part).count c ≤ part.count c) (parts : List (List Point)) :
    (parts.map f).flatten.count c ≤ parts.flatten.count c := by
  induction parts with
  | nil => exact Nat.le_refl 0
  | cons part rest ih =>
    rw [List.map_cons, List.flatten_cons, List.flatten_cons, List.count_append, List.count_append]
    exact Nat.add_le_add (h part) ih

/-- Laying a line out adds only blanks. -/
theorem count_laidOut_le (hwidth : 2 ≤ width) {c : Point} (hc : c ≠ .char ' ') (line : List Point) :
    (laidOut width line).flatten.count c ≤ (withoutTabs 0 line).count c := by
  have hparts := count_flatten_map_le (count_shownPart_le hc width)
    (broken width .fold (withoutTabs 0 line))
  rwa [flatten_broken hwidth] at hparts

/-- Where every member gives something, there are as many results as members at least. -/
theorem length_le_length_flatMap {α β : Type} {f : α → List β} (h : ∀ x, f x ≠ [])
    (xs : List α) : xs.length ≤ (xs.flatMap f).length := by
  induction xs with
  | nil => exact Nat.le_refl 0
  | cons x rest ih =>
    have hpos := List.length_pos_iff.mpr (h x)
    rw [List.flatMap_cons, List.length_append, List.length_cons]
    omega

/-- There are no more only if each gives one. -/
theorem exists_singleton_of_length_flatMap_le {α β : Type} {f : α → List β} (h : ∀ x, f x ≠ [])
    {xs : List α} (hlength : (xs.flatMap f).length ≤ xs.length) : ∀ x ∈ xs, ∃ y, f x = [y] := by
  induction xs with
  | nil => exact fun x hx => absurd hx List.not_mem_nil
  | cons x rest ih =>
    have hpos := List.length_pos_iff.mpr (h x)
    have hrest := length_le_length_flatMap h rest
    rw [List.flatMap_cons, List.length_append, List.length_cons] at hlength
    rw [List.forall_mem_cons]
    exact ⟨List.length_eq_one_iff.mp (by omega), ih (by omega)⟩

/-- The lines that come of a text. -/
def shownLines (width : Nat) (text : Text) : List (List Point) :=
  (Text.pieces (.char '\n') (visible text.toList)).flatMap (laidOut width)

theorem toList_shown (width : Nat) (text : Text) :
    (shown width text).toList = [.char '\n'].intercalate (shownLines width text) :=
  Text.toList_joined rfl _

theorem mem_of_mem_withoutTabs {c : Point} (hblank : c ≠ .char ' ') {column : Nat}
    {line : List Point} (h : c ∈ withoutTabs column line) : c ∈ line := by
  have hcount := count_withoutTabs_le hblank column line
  have hpos := List.count_pos_iff.mpr h
  exact List.count_pos_iff.mp (by omega)

/-- A text whose lines fit comes out as it is. -/
theorem toList_shown_of_fits {text : Text} (htab : Point.char '\t' ∉ visible text.toList)
    (hfits : ∀ line ∈ Text.pieces (.char '\n') (visible text.toList), Fits width line) :
    (shown width text).toList = visible text.toList := by
  have hlines : shownLines width text = Text.pieces (.char '\n') (visible text.toList) := by
    rw [shownLines, List.flatMap_congr fun line hline => laidOut_of_fits
      (fun hmem => htab (Text.mem_of_mem_pieces hline hmem)) (hfits line hline)]
    exact List.flatMap_singleton' _
  rw [toList_shown, hlines, Text.intercalate_pieces]

section Shown

variable (hwidth : 2 ≤ width) (text : Text)
include hwidth

/-- Whatever is neither a blank nor a line feed stood in the text, and was no tab. -/
theorem exists_line_of_mem_shownLines {c : Point} (hblank : c ≠ .char ' ') {out : List Point}
    (hout : out ∈ shownLines width text) (hc : c ∈ out) :
    ∃ line ∈ Text.pieces (.char '\n') (visible text.toList), c ∈ withoutTabs 0 line := by
  obtain ⟨line, hline, hpart⟩ := List.mem_flatMap.mp hout
  refine ⟨line, hline, List.count_pos_iff.mp ?_⟩
  have hcount := count_laidOut_le hwidth hblank line
  have hpos := List.count_pos_iff.mpr (List.mem_flatten_of_mem hpart hc)
  omega

theorem pieces_shown :
    Text.pieces (.char '\n') (shown width text).toList = shownLines width text := by
  rw [toList_shown]
  refine Text.pieces_intercalate (fun out hout hfeed => ?_) ?_
  · obtain ⟨line, hline, hc⟩ := exists_line_of_mem_shownLines hwidth text (by decide) hout hfeed
    exact Text.not_mem_of_mem_pieces hline (mem_of_mem_withoutTabs (by decide) hc)
  · rw [shownLines, ne_eq, List.flatMap_eq_nil_iff]
    intro hnone
    obtain ⟨line, others, hpieces⟩ :=
      List.exists_cons_of_ne_nil (Text.pieces_ne_nil (.char '\n') (visible text.toList))
    exact laidOut_ne_nil width line (hnone line (hpieces ▸ List.mem_cons_self))

theorem exists_line_of_mem_shown {c : Point} (hblank : c ≠ .char ' ') (hfeed : c ≠ .char '\n')
    (h : c ∈ (shown width text).toList) :
    ∃ line ∈ Text.pieces (.char '\n') (visible text.toList), c ∈ withoutTabs 0 line := by
  rw [toList_shown, ← List.count_pos_iff, Text.count_intercalate hfeed, List.count_pos_iff,
    List.mem_flatten] at h
  obtain ⟨out, hout, hc⟩ := h
  exact exists_line_of_mem_shownLines hwidth text hblank hout hc

/-- Tabs and the controls that are not shown never come out. -/
theorem isShown_of_mem_shown {c : Point} (h : c ∈ (shown width text).toList) : IsShown c := by
  by_cases hblank : c = .char ' '
  · rw [hblank]
    decide
  by_cases hfeed : c = .char '\n'
  · rw [hfeed]
    decide
  obtain ⟨line, hline, hc⟩ := exists_line_of_mem_shown hwidth text hblank hfeed h
  refine ⟨fun htab => tab_not_mem_withoutTabs 0 line (htab ▸ hc), ?_⟩
  have hvisible := Text.mem_of_mem_pieces hline (mem_of_mem_withoutTabs hblank hc)
  simpa [visible] using (List.mem_filter.mp hvisible).2

/-- Of a character that is neither a blank nor a line feed there never come out more than there
were. -/
theorem count_shown_le {c : Point} (hblank : c ≠ .char ' ') (hfeed : c ≠ .char '\n') :
    (shown width text).toList.count c ≤ (visible text.toList).count c := by
  have hlines : ∀ lines : List (List Point),
      (lines.flatMap (laidOut width)).flatten.count c ≤ lines.flatten.count c := by
    intro lines
    induction lines with
    | nil => exact Nat.le_refl 0
    | cons line rest ih =>
      rw [List.flatMap_cons, List.flatten_append, List.flatten_cons, List.count_append,
        List.count_append]
      exact Nat.add_le_add ((count_laidOut_le hwidth hblank line).trans
        (count_withoutTabs_le hblank 0 line)) ih
  rw [toList_shown, Text.count_intercalate hfeed]
  refine (hlines _).trans ?_
  rw [← Text.count_intercalate hfeed, Text.intercalate_pieces]

/-- What is no gap and has a picture comes out, and nothing else of that kind does. -/
theorem mem_shown_iff {c : Point} (hgap : c.meets isGap = false) (hshown : IsShown c) :
    c ∈ (shown width text).toList ↔ c ∈ text.toList := by
  have hblank : c ≠ .char ' ' := fun hc => by
    rw [hc, isGap_blank] at hgap
    cases hgap
  have hfeed : c ≠ .char '\n' := fun hc => by
    rw [hc, isGap_feed] at hgap
    cases hgap
  have hvisible : c ∈ visible text.toList ↔ c ∈ text.toList := by
    simp [visible, hshown.2]
  rw [← hvisible]
  constructor
  · intro h
    obtain ⟨line, hline, hc⟩ := exists_line_of_mem_shown hwidth text hblank hfeed h
    exact Text.mem_of_mem_pieces hline (mem_of_mem_withoutTabs hblank hc)
  · intro h
    rw [← Text.intercalate_pieces (.char '\n') (visible text.toList), ← List.count_pos_iff,
      Text.count_intercalate hfeed, List.count_pos_iff, List.mem_flatten] at h
    obtain ⟨line, hline, hc⟩ := h
    have hflatten := flatten_broken hwidth (withoutTabs 0 line)
    have hmem := mem_withoutTabs hshown.1 0 hc
    rw [← hflatten, List.mem_flatten] at hmem
    obtain ⟨part, hpart, hcPart⟩ := hmem
    rw [toList_shown, ← List.count_pos_iff, Text.count_intercalate hfeed, List.count_pos_iff,
      List.mem_flatten]
    exact ⟨shownPart width part,
      List.mem_flatMap.mpr ⟨line, hline, List.mem_map_of_mem hpart⟩,
      mem_shownPart hgap (closed_le_of_mem_broken hwidth hpart) hcPart⟩

/-- No half of a surrogate pair is lost on the screen, and none comes in. -/
theorem isWhole_shown : (shown width text).isWhole = text.isWhole := by
  rw [Bool.eq_iff_iff, Text.isWhole_iff_half_not_mem, Text.isWhole_iff_half_not_mem]
  refine forall_congr' fun n => not_congr (mem_shown_iff hwidth text rfl ⟨nofun, ?_⟩)
  simp only [isHidden, Point.code, List.contains_iff_mem, List.mem_cons, List.not_mem_nil,
    or_false, Bool.eq_false_iff, ne_eq]
  omega

/-- No line feed is lost. -/
theorem count_feed_le_shown :
    (visible text.toList).count (.char '\n') ≤ (shown width text).toList.count (.char '\n') := by
  have hlength := length_le_length_flatMap (laidOut_ne_nil width)
    (Text.pieces (.char '\n') (visible text.toList))
  have hlines : (shownLines width text).length =
      (shown width text).toList.count (.char '\n') + 1 := by
    rw [← pieces_shown hwidth, Text.length_pieces]
  rw [Text.length_pieces] at hlength
  unfold shownLines at hlines
  omega

/-- When a text comes out with all its gaps and with no more line feeds than it has, its lines
fit. -/
theorem fits_of_shown (htab : Point.char '\t' ∉ visible text.toList) {p : Point → Bool}
    (hgap : ∀ c, c.meets isGap = true → p c = true)
    (hfeeds : (shown width text).toList.count (.char '\n') ≤
      (visible text.toList).count (.char '\n'))
    (hsame : (shown width text).toList.filter p = (visible text.toList).filter p) :
    ∀ line ∈ Text.pieces (.char '\n') (visible text.toList), Fits width line := by
  have hfeed : p (.char '\n') = true := hgap (.char '\n') (by decide +kernel)
  have hlength : (shownLines width text).length ≤
      (Text.pieces (.char '\n') (visible text.toList)).length := by
    rw [← pieces_shown hwidth, Text.length_pieces, Text.length_pieces]
    omega
  have hsingle := exists_singleton_of_length_flatMap_le (laidOut_ne_nil width) hlength
  have hpieces := congrArg (Text.pieces (.char '\n')) hsame
  rw [Text.pieces_filter hfeed, Text.pieces_filter hfeed, pieces_shown hwidth,
    shownLines] at hpieces
  have hheads : (Text.pieces (.char '\n') (visible text.toList)).flatMap (laidOut width) =
      (Text.pieces (.char '\n') (visible text.toList)).map fun line =>
        (laidOut width line).headD [] := by
    rw [List.map_eq_flatMap]
    refine List.flatMap_congr fun line hline => ?_
    obtain ⟨out, hout⟩ := hsingle line hline
    rw [hout, List.headD_cons]
  rw [hheads, List.map_map] at hpieces
  intro line hline
  obtain ⟨out, hout⟩ := hsingle line hline
  have hline' := List.map_inj_left.mp hpieces line hline
  rw [Function.comp_apply, hout, List.headD_cons] at hline'
  exact fits_of_laidOut hwidth hgap
    (fun hmem => htab (Text.mem_of_mem_pieces hline hmem)) hout hline'

end Shown

end ChartQuery.Terminal
