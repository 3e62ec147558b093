/-
# Arranging twice

Arranged definitions stand in two parts: in front each comes after all those that it refers to,
behind each refers to another one behind (`InParts`). Such lists are exactly those that arranging
leaves alone. As long as something stands in front, the first definition refers to no other one and
is taken out first; once the front is gone, none of those behind is ready, and they stay as they
are. So arranging again changes nothing (`arranged_arranged`), also where identifiers came twice or
definitions refer to themselves or wait for each other in circles.
-/

import ChartQuery.Proofs.Metric.Arrangement

namespace ChartQuery.Definition

/-- Definitions with distinct identifiers in two parts. In front each comes after all that it refers
to, behind each refers to another one behind. -/
structure InParts (front behind : List Definition) : Prop where
  nodup : ((front ++ behind).map (·.identifier)).Nodup
  after : ∀ d ∈ front, ∀ e, RefersWithin (front ++ behind) d e →
    e ∈ front ∧ front.idxOf e < front.idxOf d
  waits : ∀ d ∈ behind, ∃ e ∈ behind, RefersWithin (front ++ behind) d e

variable {ds waiting done left front behind : List Definition} {d : Definition}

/-- What is taken out and what is left are such parts. -/
theorem Arranges.inParts (h : Arranges waiting done left)
    (hnodup : (waiting.map (·.identifier)).Nodup) : InParts done left where
  nodup := (h.perm.map _).nodup_iff.mpr hnodup
  after d hd e hrefers := h.mem_and_idxOf_lt hnodup d hd e (hrefers.mono h.perm.subset)
  waits d hd := by
    obtain ⟨e, he, hrefers⟩ := h.exists_refersWithin_left hnodup hd
    exact ⟨e, he, hrefers.mono h.perm.symm.subset⟩

namespace InParts

/-- The first definition of the front refers to no other one. -/
theorem isReady_head (h : InParts (d :: front) behind) :
    isReady (d :: front ++ behind) d = true := by
  refine (isReady_iff h.nodup List.mem_cons_self).mpr fun e hrefers => ?_
  have hlt := (h.after d List.mem_cons_self e hrefers).2
  rw [List.idxOf_cons_self] at hlt
  exact Nat.not_lt_zero _ hlt

/-- Without its first definition the front is still a front of what stands behind. -/
theorem tail (h : InParts (d :: front) behind) : InParts front behind := by
  have hfresh : d ∉ front ++ behind := (List.nodup_cons.mp (List.Nodup.of_map _ h.nodup)).1
  have hsub : front ++ behind ⊆ d :: front ++ behind := List.subset_cons_self d (front ++ behind)
  refine ⟨(List.nodup_cons.mp h.nodup).2, fun x hx e hrefers => ?_, fun x hx => ?_⟩
  · obtain ⟨he, hlt⟩ := h.after x (List.mem_cons_of_mem d hx) e (hrefers.mono hsub)
    have hxd : d ≠ x := fun heq => hfresh (heq ▸ hrefers.1)
    have hed : d ≠ e := fun heq => hfresh (heq ▸ hrefers.2.1)
    rw [List.idxOf_cons_ne front hxd, List.idxOf_cons_ne front hed] at hlt
    exact ⟨(List.mem_cons.mp he).resolve_left hed.symm, Nat.succ_lt_succ_iff.mp hlt⟩
  · obtain ⟨e, he, -, -, hdistinct⟩ := h.waits x hx
    exact ⟨e, he, List.mem_append_right front hx, List.mem_append_right front he, hdistinct⟩

/-- Once the front is gone, none of the others is ready. -/
theorem isReady_behind (h : InParts [] behind) (hd : d ∈ behind) : isReady behind d = false := by
  obtain ⟨e, -, hrefers⟩ := h.waits d hd
  exact (isReady_eq_false_iff h.nodup hd).mpr ⟨e, hrefers⟩

/-- Definitions that stand in two parts are taken out from the front, one after another. -/
theorem append_eq (h : Arranges waiting done left) (hparts : InParts front behind)
    (hwaiting : waiting = front ++ behind) : done ++ left = waiting := by
  -- The induction is on what is taken out; each time it is the first definition of the front.
  induction h generalizing front with
  | stuck _ => rfl
  | @next before after done left first hready hfirst hrest ih =>
    cases front with
    | nil =>
      have hbehind : first ∈ behind := by
        rw [← List.nil_append behind, ← hwaiting]
        simp
      rw [hwaiting, List.nil_append, hparts.isReady_behind hbehind] at hready
      cases hready
    | cons x front =>
      cases before with
      | nil =>
        obtain ⟨rfl, rfl⟩ := List.cons.inj hwaiting
        rw [List.cons_append, ih hparts.tail rfl]
        rfl
      | cons y before =>
        obtain ⟨rfl, -⟩ := List.cons.inj hwaiting
        have hnot := hfirst y List.mem_cons_self
        rw [hwaiting, hparts.isReady_head] at hnot
        cases hnot

end InParts

/-- Arranging gives definitions in two parts. -/
theorem exists_inParts (ds : List Definition) :
    ∃ front behind, arranged ds = front ++ behind ∧ InParts front behind := by
  obtain ⟨done, left, harranged, harranges⟩ := exists_arranges_firsts ds
  exact ⟨done, left, harranged, harranges.inParts (nodup_firsts ds)⟩

/-- Arranging leaves definitions in two parts alone. -/
theorem InParts.arranged_eq (h : InParts front behind) :
    arranged (front ++ behind) = front ++ behind := by
  obtain ⟨done, left, harranged, harranges⟩ := exists_arranges_firsts (front ++ behind)
  have hunique : firsts (front ++ behind) = front ++ behind :=
    firstsAfter_eq_self h.nodup (by simp)
  rw [hunique] at harranges
  rw [harranged, h.append_eq harranges rfl]

/-- Arranging again changes nothing, whatever was arranged. The definitions that arranging leaves
alone are exactly those that stand in two parts. -/
theorem arranged_arranged (ds : List Definition) :
    arranged (arranged ds) = arranged ds ∧
      (arranged ds = ds ↔ ∃ front behind, ds = front ++ behind ∧ InParts front behind) := by
  refine ⟨?_, fun hsame => ?_, ?_⟩
  · obtain ⟨front, behind, harranged, hparts⟩ := exists_inParts ds
    rw [harranged, hparts.arranged_eq]
  · have hparts := exists_inParts ds
    rwa [hsame] at hparts
  · rintro ⟨front, behind, rfl, hparts⟩
    exact hparts.arranged_eq

/-- A circle of two, one definition that refers to it, one that refers to itself, and an identifier
that comes twice. The first arranging moves definitions, the second does not. -/
example :
    let define (identifier expression : Text) : Definition := ⟨identifier, expression, "", none⟩
    let ds := [define "x" "\x7ba\x7d", define "a" "\x7bb\x7d", define "b" "\x7ba\x7d",
      define "s" "\x7bs\x7d", define "x" "1"]
    (arranged ds).map (·.identifier) = ["s", "x", "a", "b"] ∧
      arranged (arranged ds) = arranged ds := by
  decide

end ChartQuery.Definition
