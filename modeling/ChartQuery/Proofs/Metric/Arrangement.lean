/-
# The order in which definitions are arranged

Arranging takes out one definition after another, each time the first that refers to none of the
others that still wait, until none is left or all that are left wait for each other (`Arranges`).
What was taken out comes after everything that it refers to. What is left at the end is exactly what
a circle of references can be reached from, in its old order (`arranged_splits`).

Without circles nothing is left. Of all orders in which every definition comes after those it refers
to, the arranged one is then the closest to the given order: it is the least when orders are
compared by the places of their members in the given one, the first difference deciding
(`arranged_least`).
-/

import ChartQuery.Proofs.Metric.Dependency
import Mathlib.Data.Fintype.Card
import Mathlib.Data.Set.Finite.List
import Mathlib.Logic.Relation
import Mathlib.Order.WellFounded

namespace ChartQuery.Definition

open Relation

/-- One of the definitions refers to another one of them: its expression holds the identifier of
the other one in braces. -/
def RefersWithin (ds : List Definition) (d e : Definition) : Prop :=
  d ∈ ds ∧ e ∈ ds ∧ d ≠ e ∧ (referenceTo e.identifier).IsInfix d.expression.toList

/-- References lead from a definition to a circle of them. -/
def LeadsToCircle (ds : List Definition) (d : Definition) : Prop :=
  ∃ e, ReflTransGen (RefersWithin ds) d e ∧ TransGen (RefersWithin ds) e e

/-- No references lead back to where they started. -/
def HasNoCircle (ds : List Definition) : Prop :=
  ∀ d, ¬ TransGen (RefersWithin ds) d d

/-- The definitions in an order in which each comes after all those that it refers to. -/
structure IsOrderOf (ds order : List Definition) : Prop where
  perm : order.Perm ds
  after : ∀ d e, RefersWithin ds d e → order.idxOf e < order.idxOf d

instance (ds order : List Definition) : Decidable (IsOrderOf ds order) :=
  decidable_of_iff
    (order.Perm ds ∧ ∀ d ∈ ds, ∀ e ∈ ds, d ≠ e → d.refersTo e.identifier = true →
      order.idxOf e < order.idxOf d)
    ⟨fun h => ⟨h.1, fun d e ⟨hd, he, hne, hrefers⟩ =>
        h.2 d hd e he hne ((Text.occursIn_iff _ _).mpr hrefers)⟩,
      fun h => ⟨h.perm, fun d hd e he hne hrefers =>
        h.after d e ⟨hd, he, hne, (Text.occursIn_iff _ _).mp hrefers⟩⟩⟩

/-- The places that the definitions of an order have in the given one. -/
def places (ds order : List Definition) : List Nat :=
  order.map ds.idxOf

/-- Taking out waiting definitions: those that are taken out, in order, and those that are left. -/
inductive Arranges : List Definition → List Definition → List Definition → Prop
  | stuck {waiting : List Definition} (hnone : ∀ d ∈ waiting, isReady waiting d = false) :
      Arranges waiting [] waiting
  | next {before after done left : List Definition} {d : Definition}
      (hready : isReady (before ++ d :: after) d = true)
      (hfirst : ∀ e ∈ before, isReady (before ++ d :: after) e = false)
      (hrest : Arranges (before ++ after) done left) :
      Arranges (before ++ d :: after) (d :: done) left

variable {ds waiting done left : List Definition} {d e : Definition}

/-! ## References -/

theorem RefersWithin.mono (h : RefersWithin waiting d e) (hsub : waiting ⊆ ds) :
    RefersWithin ds d e :=
  ⟨hsub h.1, hsub h.2.1, h.2.2⟩

/-- A waiting definition is ready when it refers to none of the others. -/
theorem isReady_iff (hnodup : (waiting.map (·.identifier)).Nodup) (hd : d ∈ waiting) :
    isReady waiting d = true ↔ ∀ e, ¬ RefersWithin waiting d e := by
  simp only [isReady, List.all_eq_true, Bool.or_eq_true, beq_iff_eq, Bool.not_eq_true',
    ← Bool.not_eq_true, refersTo, Text.occursIn_iff]
  constructor
  · rintro hall e ⟨-, he, hne, hrefers⟩
    rcases hall e he with hsame | hnot
    · exact hne (List.inj_on_of_nodup_map hnodup he hd hsame).symm
    · exact hnot hrefers
  · intro hnone e he
    by_cases hsame : e.identifier = d.identifier
    · exact Or.inl hsame
    · refine Or.inr fun hrefers => hnone e ⟨hd, he, ?_, hrefers⟩
      rintro rfl
      exact hsame rfl

theorem isReady_eq_false_iff (hnodup : (waiting.map (·.identifier)).Nodup) (hd : d ∈ waiting) :
    isReady waiting d = false ↔ ∃ e, RefersWithin waiting d e := by
  rw [← Bool.not_eq_true, isReady_iff hnodup hd]
  simp

/-- References that lead from one member of a list to another one all the time lead to a circle. -/
theorem leadsToCircle_of_successors
    (hnext : ∀ d ∈ left, ∃ e ∈ left, RefersWithin ds d e) (hd : d ∈ left) :
    LeadsToCircle ds d := by
  by_contra hnone
  -- The members that can be reached from here; without a circle they would have a last one.
  let Reached := {x // x ∈ left ∧ ReflTransGen (RefersWithin ds) d x}
  let later : Reached → Reached → Prop := fun y x => TransGen (RefersWithin ds) x.1 y.1
  have : Finite Reached := ((List.finite_toSet left).subset fun _ hx => hx.1).to_subtype
  have : IsTrans Reached later := ⟨fun _ _ _ h₁ h₂ => h₂.trans h₁⟩
  have : Std.Irrefl later := ⟨fun x hx => hnone ⟨x.1, x.2.2, hx⟩⟩
  obtain ⟨⟨x, hx, hreached⟩, -, hlast⟩ :=
    (Finite.wellFounded_of_trans_of_irrefl later).has_min Set.univ ⟨⟨d, hd, .refl⟩, trivial⟩
  obtain ⟨y, hy, hrefers⟩ := hnext x hx
  exact hlast ⟨y, hy, hreached.tail hrefers⟩ trivial (.single hrefers)

/-- What references lead to from a list that they only lead backwards in comes before their start.
-/
theorem idxOf_lt_of_transGen
    (hback : ∀ d ∈ done, ∀ e, RefersWithin ds d e → e ∈ done ∧ done.idxOf e < done.idxOf d)
    (h : TransGen (RefersWithin ds) d e) (hd : d ∈ done) :
    e ∈ done ∧ done.idxOf e < done.idxOf d := by
  induction h with
  | single hrefers => exact hback d hd _ hrefers
  | tail _ hrefers ih =>
    obtain ⟨hmem, hlt⟩ := hback _ ih.1 _ hrefers
    exact ⟨hmem, hlt.trans ih.2⟩

theorem not_leadsToCircle
    (hback : ∀ d ∈ done, ∀ e, RefersWithin ds d e → e ∈ done ∧ done.idxOf e < done.idxOf d)
    (hd : d ∈ done) : ¬ LeadsToCircle ds d := by
  rintro ⟨e, hreached, hcircle⟩
  have he : e ∈ done := by
    rcases reflTransGen_iff_eq_or_transGen.mp hreached with rfl | hreached
    · exact hd
    · exact (idxOf_lt_of_transGen hback hreached hd).1
  exact absurd (idxOf_lt_of_transGen hback hcircle he).2 (lt_irrefl _)

/-- What can be put in order has no circle. -/
theorem IsOrderOf.hasNoCircle {order : List Definition} (h : IsOrderOf ds order) :
    HasNoCircle ds := by
  intro d hcircle
  obtain ⟨e, hrefers, -⟩ := TransGen.head'_iff.mp hcircle
  have hback : ∀ x ∈ order, ∀ y, RefersWithin ds x y →
      y ∈ order ∧ order.idxOf y < order.idxOf x :=
    fun x _ y hxy => ⟨h.perm.symm.subset hxy.2.1, h.after x y hxy⟩
  exact not_leadsToCircle hback (h.perm.symm.subset hrefers.1) ⟨d, .refl, hcircle⟩

/-! ## One definition after another -/

/-- Arranging takes out definitions one after another. -/
theorem exists_arranges {count : Nat} (h : waiting.length ≤ count) :
    ∃ done left, arrangedWithin count waiting = done ++ left ∧ Arranges waiting done left := by
  induction count generalizing waiting with
  | zero =>
    obtain rfl : waiting = [] := List.length_eq_zero_iff.mp (Nat.le_zero.mp h)
    exact ⟨[], [], rfl, .stuck (by simp)⟩
  | succ count ih =>
    rw [arrangedWithin]
    split
    · next d others hextract =>
      obtain ⟨before, after, rfl, rfl, hready, hfirst⟩ := extract?_eq_some hextract
      have hlength : (before ++ after).length ≤ count := by
        simp only [List.length_append, List.length_cons] at h ⊢
        omega
      obtain ⟨done, left, heq, harranges⟩ := ih hlength
      exact ⟨d :: done, left, by rw [heq, List.cons_append], .next hready hfirst harranges⟩
    · next hextract => exact ⟨[], waiting, rfl, .stuck (extract?_eq_none hextract)⟩

namespace Arranges

/-- The rest waits in the same order as before. -/
theorem rest_sublist (before after : List Definition) (d : Definition) :
    (before ++ after).Sublist (before ++ d :: after) :=
  (List.sublist_cons_self d after).append_left before

theorem perm (h : Arranges waiting done left) : (done ++ left).Perm waiting := by
  induction h with
  | stuck _ => exact List.Perm.refl _
  | next _ _ _ ih => exact (ih.cons _).trans List.perm_middle.symm

/-- What is left keeps its order. -/
theorem left_sublist (h : Arranges waiting done left) : left.Sublist waiting := by
  induction h with
  | stuck _ => exact List.Sublist.refl _
  | next _ _ _ ih => exact ih.trans (rest_sublist _ _ _)

theorem mem_of_mem_done (h : Arranges waiting done left) (hd : d ∈ done) : d ∈ waiting :=
  h.perm.subset (List.mem_append_left left hd)

theorem nodup_rest {before after : List Definition}
    (hnodup : ((before ++ d :: after).map (·.identifier)).Nodup) :
    ((before ++ after).map (·.identifier)).Nodup :=
  hnodup.sublist ((rest_sublist before after d).map _)

/-- What is left refers to something else that is left. -/
theorem exists_refersWithin_left (h : Arranges waiting done left)
    (hnodup : (waiting.map (·.identifier)).Nodup) (hd : d ∈ left) :
    ∃ e ∈ left, RefersWithin waiting d e := by
  induction h with
  | stuck hnone =>
    obtain ⟨e, hrefers⟩ := (isReady_eq_false_iff hnodup hd).mp (hnone d hd)
    exact ⟨e, hrefers.2.1, hrefers⟩
  | next _ _ _ ih =>
    obtain ⟨e, he, hrefers⟩ := ih (nodup_rest hnodup) hd
    exact ⟨e, he, hrefers.mono (rest_sublist _ _ _).subset⟩

/-- What is taken out comes after everything that it refers to. -/
theorem mem_and_idxOf_lt (h : Arranges waiting done left)
    (hnodup : (waiting.map (·.identifier)).Nodup) :
    ∀ d ∈ done, ∀ e, RefersWithin waiting d e → e ∈ done ∧ done.idxOf e < done.idxOf d := by
  induction h with
  | stuck _ => simp
  | @next before after done left first hready hfirst hrest ih =>
    intro d hd e hrefers
    have hnotFirst : d ≠ first := by
      rintro rfl
      exact (isReady_iff hnodup (by simp)).mp hready e hrefers
    have hd : d ∈ done := (List.mem_cons.mp hd).resolve_left hnotFirst
    rw [List.idxOf_cons_ne done hnotFirst.symm]
    by_cases he : e = first
    · subst he
      exact ⟨List.mem_cons_self, by rw [List.idxOf_cons_self]; omega⟩
    · have hwaits : e ∈ before ++ after := by
        have := hrefers.2.1
        simp only [List.mem_append, List.mem_cons, he, false_or] at this ⊢
        exact this
      obtain ⟨hmem, hlt⟩ := ih (nodup_rest hnodup) d hd e
        ⟨hrest.mem_of_mem_done hd, hwaits, hrefers.2.2⟩
      rw [List.idxOf_cons_ne done (Ne.symm he)]
      exact ⟨List.mem_cons_of_mem first hmem, Nat.succ_lt_succ hlt⟩

/-- What is left is what a circle can be reached from. -/
theorem mem_left_iff (h : Arranges waiting done left)
    (hnodup : (waiting.map (·.identifier)).Nodup) (d : Definition) :
    d ∈ left ↔ d ∈ waiting ∧ LeadsToCircle waiting d := by
  constructor
  · intro hd
    exact ⟨h.left_sublist.subset hd,
      leadsToCircle_of_successors (fun _ hx => h.exists_refersWithin_left hnodup hx) hd⟩
  · rintro ⟨hd, hcircle⟩
    rcases List.mem_append.mp (h.perm.symm.subset hd) with hdone | hleft
    · exact absurd hcircle (not_leadsToCircle (h.mem_and_idxOf_lt hnodup) hdone)
    · exact hleft

/-- Without a circle nothing is left. -/
theorem left_eq_nil (h : Arranges waiting done left)
    (hnodup : (waiting.map (·.identifier)).Nodup) (hcircle : HasNoCircle waiting) : left = [] := by
  refine List.eq_nil_iff_forall_not_mem.mpr fun d hd => ?_
  obtain ⟨-, e, -, he⟩ := (h.mem_left_iff hnodup d).mp hd
  exact hcircle e he

/-- An order of the waiting definitions goes on with an order of those that still wait. -/
theorem isOrderOf_rest {before after rest : List Definition}
    (hnodup : ((before ++ d :: after).map (·.identifier)).Nodup)
    (h : IsOrderOf (before ++ d :: after) (d :: rest)) : IsOrderOf (before ++ after) rest := by
  have hfresh : d ∉ before ++ after :=
    (List.nodup_cons.mp (List.perm_middle.nodup_iff.mp (List.Nodup.of_map _ hnodup))).1
  refine ⟨(h.perm.trans List.perm_middle).cons_inv, fun x e hrefers => ?_⟩
  have hx : d ≠ x := fun heq => hfresh (heq ▸ hrefers.1)
  have he : d ≠ e := fun heq => hfresh (heq ▸ hrefers.2.1)
  have hlt := h.after x e (hrefers.mono (rest_sublist before after d).subset)
  rw [List.idxOf_cons_ne rest hx, List.idxOf_cons_ne rest he] at hlt
  exact Nat.succ_lt_succ_iff.mp hlt

/-- What comes first in an order of the waiting definitions refers to none of the others. -/
theorem isReady_of_isOrderOf {rest : List Definition}
    (hnodup : (waiting.map (·.identifier)).Nodup) (h : IsOrderOf waiting (d :: rest)) :
    isReady waiting d = true := by
  refine (isReady_iff hnodup (h.perm.subset List.mem_cons_self)).mpr fun e hrefers => ?_
  have hlt := h.after d e hrefers
  rw [List.idxOf_cons_self] at hlt
  exact Nat.not_lt_zero _ hlt

/-- No order comes before the one in which the definitions are taken out, when orders are compared
by numbers that grow along the waiting definitions. -/
theorem eq_or_lex (h : Arranges waiting done left) (hall : left = [])
    (hnodup : (waiting.map (·.identifier)).Nodup) {rank : Definition → Nat}
    (hrank : waiting.Pairwise fun a b => rank a < rank b) {order : List Definition}
    (horder : IsOrderOf waiting order) :
    order = done ∨ List.Lex (· < ·) (done.map rank) (order.map rank) := by
  induction h generalizing order with
  | stuck _ =>
    subst hall
    exact Or.inl horder.perm.eq_nil
  | @next before after done left first hready hfirst hrest ih =>
    cases order with
    | nil => simpa using horder.perm.length_eq
    | cons x rest =>
      have hxready : isReady (before ++ first :: after) x = true :=
        isReady_of_isOrderOf hnodup horder
      have hxbefore : x ∉ before := fun hx => by simp [hfirst x hx] at hxready
      have hxwaits : x ∈ first :: after :=
        (List.mem_append.mp (horder.perm.subset List.mem_cons_self)).resolve_left hxbefore
      rcases List.mem_cons.mp hxwaits with rfl | hxafter
      · -- Both orders begin alike, so what comes behind decides.
        rcases ih hall (nodup_rest hnodup) (hrank.sublist (rest_sublist _ _ _))
            (isOrderOf_rest hnodup horder) with rfl | hlex
        · exact Or.inl rfl
        · exact Or.inr (.cons hlex)
      · have hlt : rank first < rank x :=
          List.rel_of_pairwise_cons (List.pairwise_append.mp hrank).2.1 hxafter
        exact Or.inr (.rel hlt)

/-- Definitions that are in order already stay as they are. -/
theorem append_eq_of_isOrderOf (h : Arranges waiting done left)
    (hnodup : (waiting.map (·.identifier)).Nodup) (horder : IsOrderOf waiting waiting) :
    done ++ left = waiting := by
  induction h with
  | stuck _ => rfl
  | @next before after done left first hready hfirst hrest ih =>
    cases before with
    | nil => rw [List.cons_append, ih (nodup_rest hnodup) (isOrderOf_rest hnodup horder)]; rfl
    | cons x before =>
      have hxready := isReady_of_isOrderOf hnodup horder
      rw [hfirst x List.mem_cons_self] at hxready
      cases hxready

end Arranges

/-! ## All definitions -/

theorem nodup_firsts (ds : List Definition) : ((firsts ds).map (·.identifier)).Nodup :=
  nodup_firstsAfter [] ds

/-- The places of distinct definitions grow along their list. -/
theorem pairwise_idxOf (h : ds.Nodup) : ds.Pairwise fun a b => ds.idxOf a < ds.idxOf b := by
  rw [List.pairwise_iff_getElem]
  intro i j hi hj hlt
  rwa [h.idxOf_getElem, h.idxOf_getElem]

/-- All definitions, each once, are taken out one after another. -/
theorem exists_arranges_firsts (ds : List Definition) :
    ∃ done left, arranged ds = done ++ left ∧ Arranges (firsts ds) done left :=
  exists_arranges le_rfl

/-- What was taken out comes after all that it refers to. -/
theorem Arranges.idxOf_arranged_lt {done left : List Definition}
    (h : Arranges (firsts ds) done left) (harranged : arranged ds = done ++ left)
    {d e : Definition} (hd : d ∈ done) (hrefers : RefersWithin (firsts ds) d e) :
    (arranged ds).idxOf e < (arranged ds).idxOf d := by
  obtain ⟨he, hlt⟩ := h.mem_and_idxOf_lt (nodup_firsts ds) d hd e hrefers
  rwa [harranged, List.idxOf_append_of_mem he, List.idxOf_append_of_mem hd]

/-- When no references lead back to where they started, everything is taken out. -/
theorem isOrderOf_arranged (h : HasNoCircle (firsts ds)) : IsOrderOf (firsts ds) (arranged ds) := by
  obtain ⟨done, left, harranged, harranges⟩ := exists_arranges_firsts ds
  refine ⟨arranged_perm ds, fun d e hrefers => ?_⟩
  obtain rfl := harranges.left_eq_nil (nodup_firsts ds) h
  have hd : d ∈ arranged ds := (arranged_perm ds).symm.subset hrefers.1
  rw [harranged, List.append_nil] at hd
  exact harranges.idxOf_arranged_lt harranged hd hrefers

/-- The arranged definitions are the first ones of each identifier, in two parts. Behind stand, in
their old order, exactly those that a circle of references can be reached from; those in front come
after all that they refer to. So everything comes after what it refers to when there is no circle.
-/
theorem arranged_splits (ds : List Definition) :
    let unique := firsts ds
    unique.Sublist ds ∧ (unique.map (·.identifier)).Nodup ∧
      (∀ identifier, unique.find? (·.identifier == identifier) =
        ds.find? (·.identifier == identifier)) ∧
      (arranged ds).Perm unique ∧
      (∃ done left, arranged ds = done ++ left ∧ left.Sublist unique ∧
        (∀ d, d ∈ left ↔ d ∈ unique ∧ LeadsToCircle unique d) ∧
        ∀ d ∈ done, ∀ e, RefersWithin unique d e →
          (arranged ds).idxOf e < (arranged ds).idxOf d) ∧
      (HasNoCircle unique → IsOrderOf unique (arranged ds)) := by
  intro unique
  have hnodup : (unique.map (·.identifier)).Nodup := nodup_firsts ds
  obtain ⟨done, left, harranged, harranges⟩ := exists_arranges_firsts ds
  exact ⟨firstsAfter_sublist [] ds, hnodup, fun identifier => find?_firstsAfter (by simp) ds,
    arranged_perm ds, ⟨done, left, harranged, harranges.left_sublist,
      harranges.mem_left_iff hnodup,
      fun d hd e hrefers => harranges.idxOf_arranged_lt harranged hd hrefers⟩,
    isOrderOf_arranged⟩

/-- Definitions that wait for each other stay behind, and so does what refers to one of them. Of two
definitions with one identifier the first is kept. -/
example :
    let define (identifier expression : Text) : Definition := ⟨identifier, expression, "", none⟩
    (arranged [define "x" "\x7ba\x7d", define "a" "\x7bb\x7d", define "y" "\x7bc\x7d",
      define "b" "\x7ba\x7d", define "c" "1", define "c" "2"]).map (·.identifier) =
      ["c", "y", "x", "a", "b"] := by
  decide

/-- When no references lead back to where they started, the arranged definitions are an order of the
first ones of each identifier, and of all such orders the one whose places in the given order are
the least, the first difference deciding. Definitions with distinct identifiers that are in order
already are not moved. -/
theorem arranged_least (ds : List Definition) :
    let unique := firsts ds
    (HasNoCircle unique → IsOrderOf unique (arranged ds) ∧
      ∀ order, IsOrderOf unique order → order = arranged ds ∨
        List.Lex (· < ·) (places unique (arranged ds)) (places unique order)) ∧
      ((ds.map (·.identifier)).Nodup → IsOrderOf ds ds → arranged ds = ds) := by
  intro unique
  have hnodup : (unique.map (·.identifier)).Nodup := nodup_firsts ds
  obtain ⟨done, left, harranged, harranges⟩ := exists_arranges_firsts ds
  constructor
  · intro hcircle
    refine ⟨isOrderOf_arranged hcircle, fun order horder => ?_⟩
    have hleft : left = [] := harranges.left_eq_nil hnodup hcircle
    rw [harranged, hleft, List.append_nil]
    exact harranges.eq_or_lex hleft hnodup (pairwise_idxOf (.of_map _ hnodup)) horder
  · intro hdistinct horder
    have hunique : firsts ds = ds := firstsAfter_eq_self hdistinct (by simp)
    rw [hunique] at harranges
    rw [harranged, harranges.append_eq_of_isOrderOf hdistinct horder]

/-- Three definitions, of which the first refers to the last: the one between comes first, though
the last could. -/
theorem arranged_least_between :
    let define (identifier expression : Text) : Definition := ⟨identifier, expression, "", none⟩
    let a := define "a" "SELECT \x7bc\x7d"
    let b := define "b" "SELECT 1"
    let c := define "c" "SELECT 2"
    HasNoCircle (firsts [a, b, c]) ∧ arranged [a, b, c] = [b, c, a] ∧
      IsOrderOf (firsts [a, b, c]) [c, a, b] ∧
      List.Lex (· < ·) (places (firsts [a, b, c]) (arranged [a, b, c]))
        (places (firsts [a, b, c]) [c, a, b]) ∧
      IsOrderOf [b, c, a] [b, c, a] ∧ arranged [b, c, a] = [b, c, a] := by
  intro define a b c
  have horder : IsOrderOf (firsts [a, b, c]) [c, a, b] := by decide
  have hsame : IsOrderOf [b, c, a] [b, c, a] := by decide
  have hbetween : arranged [a, b, c] = [b, c, a] := by decide
  have hleast := ((arranged_least [a, b, c]).1 horder.hasNoCircle).2 [c, a, b] horder
  refine ⟨horder.hasNoCircle, hbetween, horder, hleast.resolve_left ?_, hsame,
    (arranged_least [b, c, a]).2 (by decide) hsame⟩
  rw [hbetween]
  decide

end ChartQuery.Definition
