/-
# Texts that can be shown

A marked-up text cannot be shown when it closes a style that is not open, or a handler that cannot
be evaluated. Whether it does so depends on its tags alone, each with the backslashes before it: a
tag behind an odd number of them is plain text. `tagsFrom` finds the tags character by character,
and `settles` follows the tags that they open and close. In an escaped text all tags are plain,
whatever the text was, so it can be shown between the tags of any style, and no half of a surrogate
pair is lost (`Shows`). Nothing of this depends on the screen.
-/

import ChartQuery.Proofs.Terminal.Pictograph
import ChartQuery.Terminal.Markup
import Mathlib.Data.Bool.AllAny
import Mathlib.Data.List.TakeWhile

namespace ChartQuery.Terminal.Markup

variable {text body after rest : List Point} {pieces : List Part}

/-! ## The tags of a text -/

/-- What stands in front of the first bracket of a text, when that bracket closes. -/
def enclosed? : List Point → Option (List Point)
  | [] => none
  | c :: rest =>
    if c = .char ']' then some [] else if c = .char '[' then none else (enclosed? rest).map (c :: ·)

/-- What stands between two brackets makes a tag of them. -/
def startsTag (body : List Point) : Bool :=
  body.head?.any (·.meets opensTag)

/-- The tags of a text, each with the number of backslashes before it, when `count` backslashes
stand in front of the text. A bracket that opens a tag is told by what comes behind it. -/
def tagsFrom (count : Nat) : List Point → List (Nat × List Point)
  | [] => []
  | c :: rest =>
    if c = .char '\\' then tagsFrom (count + 1) rest
    else if c = .char '[' then
      ((enclosed? rest).filter startsTag).toList.map (count, ·) ++ tagsFrom 0 rest
    else tagsFrom 0 rest

/-- A text without tags and without backslashes. -/
def isPlain (text : List Point) : Bool :=
  text.all fun c => c != .char '[' && c != .char '\\'

/-- The tag that a part is, with its backslashes. -/
def Part.tag? : Part → Option (Nat × List Point)
  | .plain _ => none
  | .tag count body => some (count, body)

theorem enclosed?_eq_some_iff :
    enclosed? text = some body ↔
      (∀ c ∈ body, c ≠ .char '[' ∧ c ≠ .char ']') ∧ ∃ after, text = body ++ .char ']' :: after := by
  induction text generalizing body with
  | nil => simp [enclosed?]
  | cons c rest ih =>
    rw [enclosed?]
    by_cases hclose : c = .char ']'
    · rw [if_pos hclose, hclose]
      constructor
      · intro h
        cases h
        exact ⟨by simp, rest, rfl⟩
      · rintro ⟨hplain, after, htext⟩
        cases body with
        | nil => rfl
        | cons d more =>
          cases htext
          exact absurd rfl (hplain (.char ']') (by simp)).2
    · rw [if_neg hclose]
      by_cases hopen : c = .char '['
      · rw [if_pos hopen, hopen]
        refine iff_of_false nofun ?_
        rintro ⟨hplain, after, htext⟩
        cases body with
        | nil => cases htext
        | cons d more =>
          cases htext
          exact absurd rfl (hplain (.char '[') (by simp)).1
      · rw [if_neg hopen, Option.map_eq_some_iff]
        constructor
        · rintro ⟨more, hmore, rfl⟩
          obtain ⟨hplain, after, rfl⟩ := ih.mp hmore
          exact ⟨List.forall_mem_cons.mpr ⟨⟨hopen, hclose⟩, hplain⟩, after, rfl⟩
        · rintro ⟨hplain, after, htext⟩
          cases body with
          | nil =>
            cases htext
            exact absurd rfl hclose
          | cons d more =>
            cases htext
            exact ⟨more, ih.mpr ⟨(List.forall_mem_cons.mp hplain).2, after, rfl⟩, rfl⟩

theorem ne_of_opensTag {c : Point} (h : c.meets opensTag = true) :
    c ≠ .char '[' ∧ c ≠ .char ']' := by
  constructor <;> rintro rfl <;> exact absurd h (by decide)

theorem tag?_eq_some_iff :
    tag? text = some (body, after) ↔
      startsTag body = true ∧ (∀ c ∈ body, c ≠ .char '[' ∧ c ≠ .char ']') ∧
        text = bracketed body ++ after := by
  constructor
  · intro h
    unfold tag? at h
    split at h
    · next c rest =>
      split at h
      · next hopens =>
        simp only at h
        split at h
        · next left hleft =>
          cases h
          refine ⟨hopens, List.forall_mem_cons.mpr ⟨ne_of_opensTag hopens, fun d hd => ?_⟩, ?_⟩
          · have hplain := List.mem_takeWhile_imp hd
            simpa [and_comm] using hplain
          · have hrest := List.prefix_iff_eq_append.mp (List.takeWhile_prefix (l := rest)
              fun x => decide (x ≠ .char ']' ∧ x ≠ .char '['))
            rw [hleft] at hrest
            rw [bracketed, List.cons_append, List.cons_append, List.cons_append,
              List.append_assoc, List.singleton_append, hrest]
        · cases h
      · cases h
    · cases h
  · rintro ⟨hstarts, hplain, rfl⟩
    cases body with
    | nil => cases hstarts
    | cons c more =>
      obtain ⟨-, hmore⟩ := List.forall_mem_cons.mp hplain
      have htake : (more ++ .char ']' :: after).takeWhile
          (fun x => decide (x ≠ .char ']' ∧ x ≠ .char '[')) = more := by
        rw [List.takeWhile_append_of_pos fun d hd => by simpa [and_comm] using hmore d hd,
          List.takeWhile_cons_of_neg (by simp), List.append_nil]
      have htext : bracketed (c :: more) ++ after =
          .char '[' :: c :: (more ++ .char ']' :: after) := by
        simp [bracketed]
      have hopens : c.meets opensTag = true := hstarts
      simp only [htext, tag?, if_pos hopens, htake, List.drop_left]

/-- A bracket opens no tag when what it encloses does not start one. -/
theorem filter_enclosed? (h : tag? (.char '[' :: rest) = none) :
    (enclosed? rest).filter startsTag = none := by
  cases hbody : (enclosed? rest).filter startsTag with
  | none => rfl
  | some body =>
    obtain ⟨henclosed, hstarts⟩ := Option.filter_eq_some_iff.mp hbody
    obtain ⟨hplain, after, rfl⟩ := enclosed?_eq_some_iff.mp henclosed
    have htext : .char '[' :: (body ++ .char ']' :: after) = bracketed body ++ after := by
      simp [bracketed]
    rw [htext, tag?_eq_some_iff.mpr ⟨hstarts, hplain, rfl⟩] at h
    cases h

theorem tagsFrom_backslashes (count n : Nat) (text : List Point) :
    tagsFrom count (backslashes n ++ text) = tagsFrom (count + n) text := by
  induction n generalizing count with
  | zero => rfl
  | succ n ih =>
    rw [backslashes, List.replicate_succ, List.cons_append, tagsFrom, if_pos rfl, ← backslashes, ih]
    congr 1
    omega

/-- Up to a bracket that closes there is no tag where no bracket opens one. -/
theorem tagsFrom_closed (count : Nat) (h : ∀ c ∈ text, c ≠ .char '[') (rest : List Point) :
    tagsFrom count (text ++ .char ']' :: rest) = tagsFrom 0 rest := by
  induction text generalizing count with
  | nil => rfl
  | cons c more ih =>
    obtain ⟨hc, hmore⟩ := List.forall_mem_cons.mp h
    rw [List.cons_append, tagsFrom, if_neg hc, ih _ hmore, ih _ hmore, ite_self]

theorem tagsFrom_bracketed (count : Nat) (hstarts : startsTag body = true)
    (hplain : ∀ c ∈ body, c ≠ .char '[' ∧ c ≠ .char ']') (rest : List Point) :
    tagsFrom count (bracketed body ++ rest) = (count, body) :: tagsFrom 0 rest := by
  have henclosed : enclosed? (body ++ .char ']' :: rest) = some body :=
    enclosed?_eq_some_iff.mpr ⟨hplain, rest, rfl⟩
  rw [bracketed, List.cons_append, List.append_assoc, List.singleton_append, tagsFrom,
    if_neg (by decide), if_pos rfl, henclosed, Option.filter_some_pos hstarts,
    tagsFrom_closed 0 fun c hc => (hplain c hc).1]
  rfl

/-- A plain text changes nothing about the tags behind it. -/
theorem tagsFrom_plain (h : isPlain text = true) (rest : List Point) :
    tagsFrom 0 (text ++ rest) = tagsFrom 0 rest := by
  induction text with
  | nil => rfl
  | cons c more ih =>
    rw [isPlain, List.all_cons, Bool.and_eq_true, Bool.and_eq_true, bne_iff_ne, bne_iff_ne] at h
    obtain ⟨⟨hopen, hslash⟩, hmore⟩ := h
    rw [List.cons_append, tagsFrom, if_neg hslash, if_neg hopen, ih hmore]

theorem tagsFrom_eq_nil (count : Nat) (h : ∀ c ∈ text, c ≠ .char '[') :
    tagsFrom count text = [] := by
  induction text generalizing count with
  | nil => rfl
  | cons c more ih =>
    obtain ⟨hc, hmore⟩ := List.forall_mem_cons.mp h
    rw [tagsFrom, if_neg hc, ih _ hmore, ih _ hmore, ite_self]

/-! ## The parts of a text -/

/-- How a text falls into parts: tags with all backslashes before them, and plain text that is cut
behind every character other than a backslash. -/
inductive Splits : List Point → List Part → Prop
  | nil : Splits [] []
  | trailing (count : Nat) : Splits (backslashes count) [.plain (backslashes count)]
  | tag (count : Nat) {body rest : List Point} {pieces : List Part}
      (hstarts : startsTag body = true)
      (hplain : ∀ c ∈ body, c ≠ .char '[' ∧ c ≠ .char ']') (hrest : Splits rest pieces) :
      Splits (backslashes count ++ (bracketed body ++ rest)) (.tag count body :: pieces)
  | plain (count : Nat) {c : Point} {rest : List Point} {pieces : List Part} (hc : c ≠ .char '\\')
      (htag : tag? (c :: rest) = none) (hrest : Splits rest pieces) :
      Splits (backslashes count ++ c :: rest) (withPlain (backslashes count ++ [c]) pieces)

/-- A text is backslashes only, or some other character stands behind those at its head. -/
theorem backslashes_cases (text : List Point) :
    (∃ count, text = backslashes count) ∨
      ∃ count c rest, c ≠ .char '\\' ∧ text = backslashes count ++ c :: rest := by
  induction text with
  | nil => exact Or.inl ⟨0, rfl⟩
  | cons first others ih =>
    by_cases hfirst : first = .char '\\'
    · subst hfirst
      rcases ih with ⟨count, rfl⟩ | ⟨count, c, rest, hc, rfl⟩
      · exact Or.inl ⟨count + 1, rfl⟩
      · exact Or.inr ⟨count + 1, c, rest, hc, rfl⟩
    · exact Or.inr ⟨0, first, others, hfirst, rfl⟩

theorem partsFrom_trailing (bound count : Nat) :
    partsFrom (bound + 1) (backslashes (count + 1)) = [.plain (backslashes (count + 1))] := by
  have htake : (backslashes (count + 1)).takeWhile (· = .char '\\') = backslashes (count + 1) :=
    List.takeWhile_eq_self_iff.mpr fun d hd => by simpa using List.eq_of_mem_replicate hd
  have hdrop : (backslashes (count + 1)).drop (backslashes (count + 1)).length = [] :=
    List.drop_length
  have hnothing : partsFrom bound [] = [] := by cases bound <;> rfl
  rw [partsFrom, htake, hdrop]
  · show withPlain (backslashes (count + 1) ++ []) (partsFrom bound []) = _
    rw [hnothing, List.append_nil]
    rfl
  · exact nofun

theorem partsFrom_backslashes (bound count : Nat) {c : Point} (hc : c ≠ .char '\\')
    (rest : List Point) :
    partsFrom (bound + 1) (backslashes count ++ c :: rest) =
      match tag? (c :: rest) with
      | some (body, after) => .tag count body :: partsFrom bound after
      | none => withPlain (backslashes count ++ [c]) (partsFrom bound rest) := by
  have htake : (backslashes count ++ c :: rest).takeWhile (· = .char '\\') = backslashes count := by
    rw [List.takeWhile_append_of_pos fun d hd => by simpa using List.eq_of_mem_replicate hd,
      List.takeWhile_cons_of_neg (by simpa using hc), List.append_nil]
  have hlength : (backslashes count).length = count := List.length_replicate
  cases htext : backslashes count ++ c :: rest with
  | nil => simp at htext
  | cons first others =>
    rw [partsFrom, ← htext, htake, List.drop_left, hlength]
    · rfl
    · simp

/-- The parts of a text are such a fall into parts. -/
theorem splits_partsFrom (bound : Nat) (text : List Point) (hbound : text.length ≤ bound) :
    Splits text (partsFrom bound text) := by
  induction bound generalizing text with
  | zero =>
    obtain rfl := List.length_eq_zero_iff.mp (Nat.le_zero.mp hbound)
    exact .nil
  | succ bound ih =>
    rcases backslashes_cases text with ⟨count, rfl⟩ | ⟨count, c, rest, hc, rfl⟩
    · cases count with
      | zero => exact .nil
      | succ count =>
        rw [partsFrom_trailing]
        exact .trailing (count + 1)
    · rw [partsFrom_backslashes bound count hc]
      rw [List.length_append, List.length_cons] at hbound
      cases htag : tag? (c :: rest) with
      | some found =>
        obtain ⟨body, after⟩ := found
        obtain ⟨hstarts, hplain, htext⟩ := tag?_eq_some_iff.mp htag
        have hafter : after.length ≤ rest.length := by
          have hlength := congrArg List.length htext
          simp only [bracketed, List.length_cons, List.length_append, List.length_nil] at hlength
          omega
        rw [htext]
        exact .tag count hstarts hplain (ih after (by omega))
      | none => exact .plain count hc htag (ih rest (by omega))

theorem splits_parts (text : List Point) : Splits text (parts text) :=
  splits_partsFrom text.length text le_rfl

theorem filterMap_withPlain (text : List Point) (pieces : List Part) :
    (withPlain text pieces).filterMap Part.tag? = pieces.filterMap Part.tag? := by
  cases pieces with
  | nil => rfl
  | cons part rest => cases part <;> rfl

theorem flatMap_withPlain {f : Part → List Point} (hf : ∀ text, f (.plain text) = text)
    (text : List Point) (pieces : List Part) :
    (withPlain text pieces).flatMap f = text ++ pieces.flatMap f := by
  cases pieces with
  | nil => simp [withPlain, hf]
  | cons part rest =>
    cases part with
    | plain more => simp [withPlain, hf]
    | tag count body => simp [withPlain, hf]

/-- The tags among the parts of a text are those that are found character by character. -/
theorem tags_of_splits (h : Splits text pieces) : pieces.filterMap Part.tag? = tagsFrom 0 text := by
  induction h with
  | nil => rfl
  | trailing count => exact (tagsFrom_eq_nil 0 fun c hc => by
      rw [List.eq_of_mem_replicate hc]
      decide).symm
  | tag count hstarts hplain _ ih =>
    rw [tagsFrom_backslashes, tagsFrom_bracketed _ hstarts hplain, Nat.zero_add, ← ih]
    rfl
  | plain count hc htag _ ih =>
    rw [filterMap_withPlain, ih, tagsFrom_backslashes, tagsFrom, if_neg hc]
    split
    · next hopen =>
      rw [hopen] at htag
      rw [filter_enclosed? htag]
      rfl
    · rfl

/-! ## Escaped texts -/

theorem enclosed?_backslashes (count : Nat) (rest : List Point) :
    enclosed? (backslashes count ++ rest) = (enclosed? rest).map (backslashes count ++ ·) := by
  induction count with
  | zero => simp [backslashes]
  | succ count ih =>
    rw [backslashes, List.replicate_succ, List.cons_append, enclosed?, if_neg (by decide),
      if_neg (by decide), ← backslashes, ih, Option.map_map]
    rfl

theorem withClosedEnd_cases (text : List Point) :
    withClosedEnd text = text ∨ withClosedEnd text = text ++ [.char '\\'] := by
  unfold withClosedEnd
  split
  · exact Or.inl rfl
  · exact Or.inr rfl
  · exact Or.inl rfl

/-- Escaping a text does not change what stands in front of its first bracket. -/
theorem enclosed?_of_splits (h : Splits text pieces) {rest : List Point}
    (hrest : enclosed? rest = none) :
    enclosed? (pieces.flatMap Part.escaped ++ rest) = enclosed? text := by
  induction h with
  | nil => exact hrest
  | trailing count =>
    show enclosed? (backslashes count ++ [] ++ rest) = _
    rw [List.append_nil, enclosed?_backslashes, hrest, ← List.append_nil (backslashes count),
      enclosed?_backslashes]
    rfl
  | tag count hstarts hplain _ _ =>
    show enclosed? (backslashes (2 * count + 1) ++ bracketed _ ++ _ ++ rest) = _
    rw [List.append_assoc, List.append_assoc, enclosed?_backslashes, enclosed?_backslashes]
    rfl
  | plain count hc htag _ ih =>
    rw [flatMap_withPlain fun _ => rfl, List.append_assoc, List.append_assoc, enclosed?_backslashes,
      enclosed?_backslashes, List.singleton_append, enclosed?, enclosed?, ih]

/-- The tags of an escaped text are plain text, and what follows it keeps its tags: the text may add
to the backslashes before them. -/
theorem tagsFrom_of_splits (h : Splits text pieces) {rest : List Point}
    (hrest : enclosed? rest = none) :
    ∃ quiet count, (∀ tag ∈ quiet, tag.1 % 2 = 1) ∧
      tagsFrom 0 (pieces.flatMap Part.escaped ++ rest) = quiet ++ tagsFrom count rest := by
  induction h with
  | nil => exact ⟨[], 0, by simp, rfl⟩
  | trailing count =>
    refine ⟨[], count, by simp, ?_⟩
    show tagsFrom 0 (backslashes count ++ [] ++ rest) = _
    rw [List.append_nil, tagsFrom_backslashes, Nat.zero_add, List.nil_append]
  | @tag count body _ others hstarts hplain _ ih =>
    obtain ⟨quiet, last, hquiet, htags⟩ := ih
    have hodd : (2 * count + 1) % 2 = 1 := by omega
    refine ⟨(2 * count + 1, body) :: quiet, last, List.forall_mem_cons.mpr ⟨hodd, hquiet⟩, ?_⟩
    show tagsFrom 0 (backslashes (2 * count + 1) ++ bracketed body ++
      others.flatMap Part.escaped ++ rest) = _
    rw [List.append_assoc, List.append_assoc, tagsFrom_backslashes,
      tagsFrom_bracketed _ hstarts hplain, Nat.zero_add, htags]
    rfl
  | plain count hc htag hmore ih =>
    obtain ⟨quiet, last, hquiet, htags⟩ := ih
    refine ⟨quiet, last, hquiet, ?_⟩
    rw [flatMap_withPlain fun _ => rfl, List.append_assoc, List.append_assoc, tagsFrom_backslashes,
      List.singleton_append, tagsFrom, if_neg hc, htags]
    split
    · next hopen =>
      rw [hopen] at htag
      rw [enclosed?_of_splits hmore hrest, filter_enclosed? htag]
      rfl
    · rfl

/-- The same with a backslash more at the end of the text, and with a plain text in front of it. -/
theorem tagsFrom_escaped {opening : List Point} (hopening : isPlain opening = true)
    (words : Text) {rest : List Point} (hrest : enclosed? rest = none) :
    ∃ quiet count, (∀ tag ∈ quiet, tag.1 % 2 = 1) ∧
      tagsFrom 0 (opening ++ (escaped words).toList ++ rest) = quiet ++ tagsFrom count rest := by
  rw [List.append_assoc, tagsFrom_plain hopening, escaped, Text.toList_ofList]
  rcases withClosedEnd_cases ((parts words.toList).flatMap Part.escaped) with hsame | hlonger
  · rw [hsame]
    exact tagsFrom_of_splits (splits_parts words.toList) hrest
  · rw [hlonger, List.append_assoc, List.singleton_append]
    have hslash : enclosed? (.char '\\' :: rest) = none := by
      rw [enclosed?, hrest]
      rfl
    obtain ⟨quiet, count, hquiet, htags⟩ := tagsFrom_of_splits (splits_parts words.toList) hslash
    refine ⟨quiet, count + 1, hquiet, ?_⟩
    rw [htags, tagsFrom, if_pos rfl]

/-! ## Halves of surrogate pairs -/

section Halves

variable {n : Fin 0x800}

/-- What a part is made of, without brackets and backslashes. -/
def Part.content : Part → List Point
  | .plain text => text
  | .tag _ body => body

@[simp] theorem half_not_mem_backslashes (count : Nat) : .half n ∉ backslashes count := by
  simp [backslashes]

@[simp] theorem half_mem_bracketed (body : List Point) :
    .half n ∈ bracketed body ↔ .half n ∈ body := by
  simp [bracketed]

theorem half_mem_content (h : Splits text pieces) :
    .half n ∈ pieces.flatMap Part.content ↔ .half n ∈ text := by
  induction h with
  | nil => exact Iff.rfl
  | trailing count => simp [Part.content]
  | tag count hstarts hplain _ ih => simp [Part.content, ih]
  | @plain count c _ _ hc htag _ ih =>
    rw [flatMap_withPlain fun _ => rfl, List.mem_append, ih]
    simp

theorem half_mem_flatMap_escaped (pieces : List Part) :
    .half n ∈ pieces.flatMap Part.escaped ↔ .half n ∈ pieces.flatMap Part.content := by
  induction pieces with
  | nil => exact Iff.rfl
  | cons part rest ih =>
    rw [List.flatMap_cons, List.flatMap_cons, List.mem_append, List.mem_append, ih]
    cases part <;> simp [Part.escaped, Part.content]

theorem half_mem_escaped (words : Text) :
    .half n ∈ (escaped words).toList ↔ .half n ∈ words.toList := by
  rw [← half_mem_content (splits_parts words.toList), ← half_mem_flatMap_escaped, escaped,
    Text.toList_ofList]
  rcases withClosedEnd_cases ((parts words.toList).flatMap Part.escaped) with hsame | hlonger
  · rw [hsame]
  · rw [hlonger]
    simp

theorem half_mem_unescaped (text : List Point) : .half n ∈ unescaped text ↔ .half n ∈ text := by
  induction text using unescaped.induct with
  | case1 rest ih => simp [unescaped, ih]
  | case2 c rest hother ih => rw [unescaped.eq_2 _ _ hother, List.mem_cons, List.mem_cons, ih]
  | case3 => exact Iff.rfl

/-- The parts that are shown keep their halves; so all of them come out when the tags that count
hold none. -/
theorem half_mem_renderedParts {screen : Screen} {opened : List OpenTag} {out : List Point}
    (htags : ∀ tag ∈ pieces.filterMap Part.tag?, tag.1 % 2 = 1 ∨ .half n ∉ tag.2)
    (h : renderedParts screen opened pieces = .ok out) :
    .half n ∈ out ↔ .half n ∈ pieces.flatMap Part.content := by
  induction pieces generalizing opened out with
  | nil =>
    cases h
    exact Iff.rfl
  | cons part rest ih =>
    rw [List.flatMap_cons, List.mem_append]
    cases part with
    | plain text =>
      rw [renderedParts] at h
      split at h
      · cases h
      · next more hmore =>
        cases h
        rw [List.mem_append, half_mem_pictured, half_mem_unescaped, ih htags hmore]
        rfl
    | tag count body =>
      obtain ⟨htag, hrest⟩ := List.forall_mem_cons.mp htags
      rw [renderedParts] at h
      split at h
      · split at h
        · cases h
        · next more hmore =>
          cases h
          simp [half_mem_pictured, ih hrest hmore, Part.content]
      · next heven =>
        have hnone : .half n ∉ body := htag.resolve_left heven
        split at h
        · cases h
        · split at h
          · cases h
          · next more hmore =>
            cases h
            simp [ih hrest hmore, Part.content, hnone]

/-- All halves of a text come out when the tags that count hold none. -/
theorem half_mem_rendered {screen : Screen} {markup out : Text}
    (htags : ∀ tag ∈ tagsFrom 0 markup.toList, tag.1 % 2 = 1 ∨ .half n ∉ tag.2)
    (h : rendered screen markup = .ok out) : .half n ∈ out.toList ↔ .half n ∈ markup.toList := by
  unfold rendered at h
  split at h
  · obtain ⟨points, hpoints, rfl⟩ : ∃ points,
        renderedParts screen [] (parts markup.toList) = .ok points ∧ Text.ofList points = out := by
      cases hparts : renderedParts screen [] (parts markup.toList) with
      | error e => simp [hparts, Except.map] at h
      | ok points => exact ⟨points, rfl, by simpa [hparts, Except.map] using h⟩
    rw [← tags_of_splits (splits_parts markup.toList)] at htags
    rw [Text.toList_ofList, half_mem_renderedParts htags hpoints,
      half_mem_content (splits_parts markup.toList)]
  · cases h
    exact half_mem_pictured markup.toList

end Halves

/-! ## Styles that are opened and closed -/

variable (screen : Screen)

/-- Every tag that counts closes something that is open and can be closed, when some tags are open
before. -/
def settles (opened : List OpenTag) : List (Nat × List Point) → Bool
  | [] => true
  | (count, body) :: rest =>
    if count % 2 = 1 then settles opened rest
    else
      match afterTag screen opened body with
      | .error _ => false
      | .ok next => settles next rest

theorem settles_append {quiet : List (Nat × List Point)} (hquiet : ∀ tag ∈ quiet, tag.1 % 2 = 1)
    (opened : List OpenTag) (others : List (Nat × List Point)) :
    settles screen opened (quiet ++ others) = settles screen opened others := by
  induction quiet with
  | nil => rfl
  | cons tag rest ih =>
    obtain ⟨htag, hrest⟩ := List.forall_mem_cons.mp hquiet
    rw [List.cons_append, settles, if_pos htag, ih hrest]

theorem isOk_renderedParts (opened : List OpenTag) (pieces : List Part) :
    (renderedParts screen opened pieces).isOk =
      settles screen opened (pieces.filterMap Part.tag?) := by
  induction pieces generalizing opened with
  | nil => rfl
  | cons part rest ih =>
    cases part with
    | plain text =>
      show (renderedParts screen opened (.plain text :: rest)).isOk =
        settles screen opened (rest.filterMap Part.tag?)
      rw [renderedParts, ← ih]
      cases renderedParts screen opened rest <;> rfl
    | tag count body =>
      show (renderedParts screen opened (.tag count body :: rest)).isOk =
        settles screen opened ((count, body) :: rest.filterMap Part.tag?)
      rw [renderedParts, settles]
      split
      · rw [← ih]
        cases renderedParts screen opened rest <;> rfl
      · cases afterTag screen opened body with
        | error e => rfl
        | ok next =>
          show _ = settles screen next _
          rw [← ih]
          cases hmore : renderedParts screen next rest with
          | error e => simp only [hmore]
          | ok more =>
            simp only [hmore]
            rfl

/-- A text can be shown exactly when its tags close only what is open and can be closed. -/
theorem isOk_rendered (text : Text) :
    (rendered screen text).isOk = settles screen [] (tagsFrom 0 text.toList) := by
  rw [rendered]
  split
  · rw [← tags_of_splits (splits_parts text.toList), ← isOk_renderedParts]
    cases renderedParts screen [] (parts text.toList) <;> rfl
  · next hnone =>
    rw [tagsFrom_eq_nil 0 fun c hc hopen => hnone (List.contains_iff_mem.mpr (hopen ▸ hc))]
    rfl

/-- The words of a style make tags that open and close it: they have no parameter, no blanks at
their ends, and do not close anything by themselves. -/
structure IsStyle (style : Text) : Prop where
  starts : startsTag style.toList = true
  plain : ∀ c ∈ style.toList, c ≠ .char '[' ∧ c ≠ .char ']'
  named : tagName style.toList = style.toList
  opens : style.toList.head? ≠ some (.char '/')
  stripped : stripped style.toList = style.toList
  whole : style.isWhole = true

theorem isStyle_red : IsStyle "red" where
  starts := rfl
  plain := List.all_iff_forall_prop.mp (by decide)
  named := by decide
  opens := by decide
  stripped := by decide +kernel
  whole := rfl

theorem isStyle_yellow : IsStyle "yellow" where
  starts := rfl
  plain := List.all_iff_forall_prop.mp (by decide)
  named := by decide
  opens := by decide
  stripped := by decide +kernel
  whole := rfl

theorem isStyle_green : IsStyle "green" where
  starts := rfl
  plain := List.all_iff_forall_prop.mp (by decide)
  named := by decide
  opens := by decide
  stripped := by decide +kernel
  whole := rfl

/-- What is closed was opened under the same name, whatever form the screen gives to it. -/
theorem IsStyle.settles {style : Text} (h : IsStyle style) (count : Nat) :
    settles screen [] [(0, style.toList), (count, .char '/' :: style.toList)] = true := by
  have hopened : afterTag screen [] style.toList = .ok [⟨screen.usualName style, ""⟩] := by
    unfold afterTag
    rw [h.named]
    split
    · next rest hclosing => exact absurd (by rw [hclosing]; rfl) h.opens
    · rw [List.drop_of_length_le (Nat.le_succ _)]
      rfl
  have hclosed : afterTag screen [⟨screen.usualName style, ""⟩] (.char '/' :: style.toList) =
      .ok [] := by
    have hname : tagName (.char '/' :: style.toList) = .char '/' :: style.toList := by
      rw [tagName, List.takeWhile_cons_of_pos (by decide)]
      exact congrArg _ h.named
    unfold afterTag
    rw [hname]
    split
    · next rest hrest =>
      cases hrest
      rw [h.stripped]
      split
      · next hnothing =>
        have hstarts := h.starts
        rw [hnothing] at hstarts
        cases hstarts
      · simp [closing, Text.isEmpty]
    · next hother => exact absurd rfl (hother style.toList)
  rw [Markup.settles, if_neg (by decide), hopened]
  dsimp only
  rw [Markup.settles]
  split
  · rfl
  · rw [hclosed]
    rfl

/-! ## What is shown -/

/-- The marked-up text can be shown, and it is shown with a half of a surrogate pair exactly when
there is one among the words that it is about. -/
def Shows (markup words : Text) : Prop :=
  ∃ out, rendered screen markup = .ok out ∧ out.isWhole = words.isWhole

variable {screen}

theorem shows_of_tags {markup words : Text}
    (hsettles : settles screen [] (tagsFrom 0 markup.toList) = true)
    (htags : ∀ n, ∀ tag ∈ tagsFrom 0 markup.toList, tag.1 % 2 = 1 ∨ .half n ∉ tag.2)
    (hwords : ∀ n, .half n ∈ markup.toList ↔ .half n ∈ words.toList) :
    Shows screen markup words := by
  rw [← isOk_rendered] at hsettles
  cases hout : rendered screen markup with
  | error e =>
    rw [hout] at hsettles
    cases hsettles
  | ok out =>
    refine ⟨out, hout, ?_⟩
    rw [Bool.eq_iff_iff, Text.isWhole_iff_half_not_mem, Text.isWhole_iff_half_not_mem]
    exact forall_congr' fun n =>
      not_congr ((half_mem_rendered (htags n) hout).trans (hwords n))

/-- A text whose tags are plain text can be shown between the tags of a style, even where its end
turns the closing tag into plain text. -/
theorem shows_styled {style : Text} (hstyle : IsStyle style) {markup words : Text}
    (hwords : ∀ n, .half n ∈ markup.toList ↔ .half n ∈ words.toList)
    (hmarkup : ∃ quiet count, (∀ tag ∈ quiet, tag.1 % 2 = 1) ∧
      tagsFrom 0 (markup.toList ++ bracketed (.char '/' :: style.toList)) =
        quiet ++ tagsFrom count (bracketed (.char '/' :: style.toList))) :
    Shows screen (styled style markup) words := by
  obtain ⟨quiet, count, hquiet, htags⟩ := hmarkup
  have hnone : ∀ n, .half n ∉ style.toList := Text.isWhole_iff_half_not_mem.mp hstyle.whole
  have hplain : ∀ c ∈ Point.char '/' :: style.toList, c ≠ .char '[' ∧ c ≠ .char ']' :=
    List.forall_mem_cons.mpr ⟨by decide, hstyle.plain⟩
  have hstyled : (styled style markup).toList =
      bracketed style.toList ++ (markup.toList ++ bracketed (.char '/' :: style.toList)) := by
    simp [styled, bracketed]
  have hclosing : tagsFrom count (bracketed (.char '/' :: style.toList)) =
      [(count, .char '/' :: style.toList)] := by
    rw [← List.append_nil (bracketed _), tagsFrom_bracketed count rfl hplain]
    rfl
  have hall : tagsFrom 0 (styled style markup).toList =
      (0, style.toList) :: (quiet ++ [(count, .char '/' :: style.toList)]) := by
    rw [hstyled, tagsFrom_bracketed 0 hstyle.starts hstyle.plain, htags, hclosing]
  refine shows_of_tags ?_ (fun n tag htag => ?_) fun n => ?_
  · have hsettles := hstyle.settles screen count
    rw [settles, if_neg (by decide)] at hsettles
    rw [hall, settles, if_neg (by decide)]
    cases hopened : afterTag screen [] style.toList with
    | error e => simp [hopened] at hsettles
    | ok opened =>
      rw [hopened] at hsettles
      exact (settles_append screen hquiet opened _).trans hsettles
  · rw [hall, List.mem_cons, List.mem_append, List.mem_singleton] at htag
    rcases htag with rfl | htag | rfl
    · exact Or.inr (hnone n)
    · exact Or.inl (hquiet tag htag)
    · exact Or.inr (by simpa using hnone n)
  · rw [hstyled]
    simp [hnone n, hwords n]

/-- Escaped words can be shown, also behind a plain text. -/
theorem shows_escaped {opening : String} (hopening : isPlain (opening : Text).toList = true)
    (words : Text) : Shows screen (opening ++ escaped words) words := by
  have hnothing : enclosed? [] = none := rfl
  obtain ⟨quiet, count, hquiet, htags⟩ := tagsFrom_escaped hopening words hnothing
  rw [List.append_nil, tagsFrom, List.append_nil] at htags
  refine shows_of_tags ?_ (fun n tag htag => ?_) fun n => ?_
  · rw [Text.toList_append, htags, ← List.append_nil quiet, settles_append screen hquiet]
    rfl
  · rw [Text.toList_append, htags] at htag
    exact Or.inl (hquiet tag htag)
  · simp [half_mem_escaped]

/-- They can be shown between the tags of a style as well. -/
theorem shows_message {style : Text} {opening : String} (hstyle : IsStyle style)
    (hopening : isPlain (opening : Text).toList = true) (words : Text) :
    Shows screen (styled style (opening ++ escaped words)) words := by
  refine shows_styled hstyle (fun n => by simp [half_mem_escaped]) ?_
  rw [Text.toList_append]
  exact tagsFrom_escaped hopening words rfl

/-- So can a plain text. -/
theorem shows_notice {style text : Text} (hstyle : IsStyle style)
    (htext : isPlain text.toList = true) : Shows screen (styled style text) text :=
  shows_styled hstyle (fun _ => Iff.rfl)
    ⟨[], 0, by simp, by rw [tagsFrom_plain htext, List.nil_append]⟩

end ChartQuery.Terminal.Markup
