/-
# Running scans

What the basic scans do at a given place: how far they come, and where they stop.
-/

import ChartQuery.Yaml.Cursor

namespace ChartQuery.Yaml

/-! ## Outcomes -/

section Outcome

variable {ε α β : Type}

@[simp]
theorem ok_bind (a : α) (f : α → Except ε β) : (Except.ok a >>= f) = f a := rfl

@[simp]
theorem map_ok (f : α → β) (a : α) : f <$> (Except.ok a : Except ε α) = .ok (f a) := rfl

end Outcome

/-! ## Places -/

variable {c : Char} {text rest : List Char} {m : Mark}

theorem Mark.index_after (m : Mark) (c : Char) : (m.after c).index = m.index + 1 := by
  unfold Mark.after
  split
  · rfl
  · split <;> rfl

theorem Mark.line_after (h : isBreak c = false) : (m.after c).line = m.line := by
  rw [Mark.after, h, if_neg Bool.false_ne_true]
  split <;> rfl

/-- Every character counts. -/
theorem Mark.index_foldl (text : List Char) (m : Mark) :
    (text.foldl Mark.after m).index = m.index + text.length := by
  induction text generalizing m with
  | nil => rfl
  | cons c text ih =>
    rw [List.foldl_cons, ih, Mark.index_after, List.length_cons]
    omega

/-- Only line breaks lead to another line. -/
theorem Mark.line_foldl (h : ∀ c ∈ text, isBreak c = false) :
    (text.foldl Mark.after m).line = m.line := by
  induction text generalizing m with
  | nil => rfl
  | cons c text ih =>
    rw [List.foldl_cons, ih fun d hd => h d (List.mem_cons_of_mem c hd),
      Mark.line_after (h c List.mem_cons_self)]

/-! ## Runs of characters -/

/-- Characters with a property are taken up to the first without. -/
theorem Cursor.span_append {p : Char → Bool} (htext : ∀ d ∈ text, p d = true)
    (hrest : ∀ d ∈ rest.head?, p d = false) :
    Cursor.span p ⟨text ++ rest, m⟩ = (text, ⟨rest, text.foldl Mark.after m⟩) := by
  simp only [Cursor.span, List.takeWhile_append_of_pos htext, List.dropWhile_append_of_pos htext]
  cases rest with
  | nil => simp
  | cons c rest => simp [hrest c rfl]

namespace Scan

theorem run_taking {p : Char → Bool} (htext : ∀ d ∈ text, p d = true) (hc : p c = false) :
    (taking p).run ⟨text ++ c :: rest, m⟩ =
      .ok (text, ⟨c :: rest, text.foldl Mark.after m⟩) := by
  have hspan : Cursor.span p ⟨text ++ c :: rest, m⟩ =
      (text, ⟨c :: rest, text.foldl Mark.after m⟩) :=
    Cursor.span_append htext (by simpa using hc)
  simp only [taking, StateT.run_bind, StateT.run_get, pure_bind, hspan]
  rfl

/-- No line ends here. -/
theorem run_lineBreak (hc : isBreak c = false) :
    lineBreak.run ⟨c :: rest, m⟩ = .ok (none, ⟨c :: rest, m⟩) := by
  simp only [lineBreak, peek, Cursor.peek]
  simp [hc]
  rfl

end Scan

end ChartQuery.Yaml
