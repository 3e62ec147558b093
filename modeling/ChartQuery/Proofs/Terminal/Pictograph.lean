/-
# Texts without pictographs

No picture holds a colon, and a call that is answered loses the two colons that it stood between. So
the colons of a text tell whether any of its calls was answered. Halves of surrogate pairs stay
where they are, since no name of a pictograph holds one.
-/

import ChartQuery.Terminal.Pictograph
import Mathlib.Data.List.Basic

namespace ChartQuery.Terminal

/-- The table is looked through once; everything else follows from what it says of colons. -/
theorem colon_not_mem_picture :
    (pictographs.all fun entry => !(spelled entry.2).contains (.char ':')) = true := by
  decide +kernel

theorem colon_not_mem_of_pictograph? {name : Text} {picture : List Point}
    (h : pictograph? name = some picture) : Point.char ':' ∉ picture := by
  rw [pictograph?, Option.map_eq_some_iff] at h
  obtain ⟨codes, hcodes, rfl⟩ := h
  obtain ⟨word, -, hlookup⟩ := Option.bind_eq_some_iff.mp hcodes
  obtain ⟨before, after, htable, -⟩ := List.lookup_eq_some_iff.mp hlookup
  have hentry : (word, codes) ∈ pictographs := by
    rw [htable]
    exact List.mem_append_right before List.mem_cons_self
  simpa using List.all_eq_true.mp colon_not_mem_picture (word, codes) hentry

theorem colon_not_mem_mark (call : List Point) : Point.char ':' ∉ (splitForm call).2 := by
  have hmarks : ∀ form ∈ pictographForms, form.2 ≠ ':' := by decide
  unfold splitForm
  split
  · next ending mark hfound =>
    rw [List.mem_singleton]
    exact fun hcolon =>
      hmarks (ending, mark) (List.mem_of_find?_eq_some hfound) (Point.char.inj hcolon).symm
  · exact List.not_mem_nil

/-- What stands for a call: the call as it was, or something without colons. -/
theorem answeredCall_cases (call : List Point) :
    answeredCall call = .char ':' :: (call ++ [.char ':']) ∨
      Point.char ':' ∉ answeredCall call := by
  unfold answeredCall
  dsimp only
  split
  · next picture hfound =>
    rw [List.mem_append, not_or]
    exact Or.inr ⟨colon_not_mem_of_pictograph? hfound, colon_not_mem_mark call⟩
  · exact Or.inl rfl

/-- The first character is left as it is, or a call begins with it. -/
theorem picturedFrom_cases (bound : Nat) (c : Point) (rest : List Point) :
    picturedFrom (bound + 1) (c :: rest) = c :: picturedFrom bound rest ∨
      ∃ call after, c :: rest = .char ':' :: (call ++ .char ':' :: after) ∧
        picturedFrom (bound + 1) (c :: rest) = answeredCall call ++ picturedFrom bound after := by
  rw [picturedFrom]
  split
  · next hcolon =>
    have hcall := List.prefix_iff_eq_append.mp
      (List.takeWhile_prefix (fun x => x ≠ .char ':' ∧ !x.meets Text.isGap) (l := rest))
    dsimp only
    split
    · next after hafter =>
      rw [hafter] at hcall
      exact Or.inr ⟨_, after, by rw [hcolon, hcall], rfl⟩
    · exact Or.inl rfl
  · exact Or.inl rfl

/-- A text is left as it is, or it loses colons. -/
theorem picturedFrom_eq_or_count_lt (bound : Nat) (text : List Point) :
    picturedFrom bound text = text ∨
      (picturedFrom bound text).count (.char ':') < text.count (.char ':') := by
  induction bound generalizing text with
  | zero => exact Or.inl rfl
  | succ bound ih =>
    cases text with
    | nil => exact Or.inl rfl
    | cons c rest =>
      rcases picturedFrom_cases bound c rest with hkept | ⟨call, after, htext, hcalled⟩
      · rw [hkept, List.count_cons, List.count_cons]
        rcases ih rest with hsame | hfewer
        · exact Or.inl (by rw [hsame])
        · exact Or.inr (Nat.add_lt_add_right hfewer _)
      · have hcount : (c :: rest).count (.char ':') =
            call.count (.char ':') + after.count (.char ':') + 2 := by
          rw [htext]
          simp [List.count_append]
          omega
        rw [hcalled, List.count_append, hcount]
        rcases answeredCall_cases call with hsame | hnone
        · rw [hsame, htext]
          rcases ih after with hafter | hfewer
          · exact Or.inl (by simp [hafter])
          · have hcall : (.char ':' :: (call ++ [.char ':'])).count (.char ':') =
                call.count (.char ':') + 2 := by simp
            exact Or.inr (by omega)
        · have hanswer := List.count_eq_zero.mpr hnone
          have hafter : (picturedFrom bound after).count (.char ':') ≤ after.count (.char ':') := by
            rcases ih after with hsame | hfewer
            · exact Nat.le_of_eq (congrArg (List.count (.char ':')) hsame)
            · exact Nat.le_of_lt hfewer
          exact Or.inr (by omega)

/-- A text that keeps its colons is left as it is. -/
theorem pictured_eq_self_of_count {text : List Point}
    (h : text.count (.char ':') ≤ (pictured text).count (.char ':')) : pictured text = text := by
  rcases picturedFrom_eq_or_count_lt text.length text with hsame | hfewer
  · exact hsame
  · exact absurd hfewer (Nat.not_lt_of_le h)

/-! ## Halves of surrogate pairs -/

variable {n : Fin 0x800}

theorem half_mem_lowerFrom (before text : List Point) :
    .half n ∈ Text.lowerFrom before text ↔ .half n ∈ text := by
  induction text generalizing before with
  | nil => exact Iff.rfl
  | cons p rest ih =>
    rw [Text.lowerFrom, List.mem_append, List.mem_cons, ih]
    cases p <;> simp [Text.lowerPoint]

theorem half_not_mem_of_pictograph? {name : Text} {picture : List Point}
    (h : pictograph? (Text.lower name) = some picture) :
    .half n ∉ picture ∧ .half n ∉ name.toList := by
  rw [pictograph?, Option.map_eq_some_iff] at h
  obtain ⟨codes, hcodes, rfl⟩ := h
  obtain ⟨word, hword, -⟩ := Option.bind_eq_some_iff.mp hcodes
  have hlower : Text.lower name = word := Text.string?_eq_some_iff.mp hword
  refine ⟨by simp [spelled], fun hn => ?_⟩
  rw [← half_mem_lowerFrom [], ← Text.toList_ofList (Text.lowerFrom _ _), ← Text.lower,
    hlower] at hn
  simp at hn

/-- The form that a call asks for is asked for in characters. -/
theorem half_splitForm (call : List Point) :
    (.half n ∈ (splitForm call).1 ↔ .half n ∈ call) ∧ .half n ∉ (splitForm call).2 := by
  have hforms : ∀ form ∈ pictographForms, form.1.isWhole = true := by decide
  unfold splitForm
  split
  · next ending mark hfound =>
    have hwhole := Text.isWhole_iff_half_not_mem.mp
      (hforms (ending, mark) (List.mem_of_find?_eq_some hfound)) n
    have hsuffix := List.find?_some hfound
    dsimp only at hsuffix
    obtain ⟨name, rfl⟩ := List.isSuffixOf_iff_suffix.mp hsuffix
    have hlength : (name ++ ending.toList).length - ending.length = name.length := by
      rw [List.length_append]
      exact Nat.add_sub_cancel _ _
    refine ⟨?_, by simp⟩
    rw [hlength, List.take_left, List.mem_append, or_iff_left hwhole]
  · exact ⟨Iff.rfl, List.not_mem_nil⟩

theorem half_mem_answeredCall (call : List Point) :
    .half n ∈ answeredCall call ↔ .half n ∈ call := by
  obtain ⟨hname, hmark⟩ := half_splitForm (n := n) call
  unfold answeredCall
  dsimp only
  split
  · next picture hfound =>
    obtain ⟨hpicture, hnone⟩ := half_not_mem_of_pictograph? (n := n) hfound
    rw [List.mem_append, or_iff_left hmark, ← hname]
    exact iff_of_false hpicture hnone
  · simp

theorem half_mem_picturedFrom (bound : Nat) (text : List Point) :
    .half n ∈ picturedFrom bound text ↔ .half n ∈ text := by
  induction bound generalizing text with
  | zero => exact Iff.rfl
  | succ bound ih =>
    cases text with
    | nil => exact Iff.rfl
    | cons c rest =>
      rcases picturedFrom_cases bound c rest with hkept | ⟨call, after, htext, hcalled⟩
      · rw [hkept, List.mem_cons, List.mem_cons, ih]
      · rw [hcalled, htext, List.mem_append, half_mem_answeredCall, ih]
        simp

/-- Filling in pictographs loses no half, and brings none. -/
theorem half_mem_pictured (text : List Point) : .half n ∈ pictured text ↔ .half n ∈ text :=
  half_mem_picturedFrom text.length text

end ChartQuery.Terminal
