/-
# Texts in brackets

A JSON text that both formats read alike falls into the tokens that its tree has
(`tokens_document`). The proof follows the tree: a value is passed sign by sign, and what is passed
is the value's tokens.
-/

import ChartQuery.Proofs.Yaml.Scalar
import ChartQuery.Proofs.Yaml.TokenStream
import Mathlib.Data.Bool.AllAny

namespace ChartQuery.Yaml

open Json (Blanks Tree Items Members stringOf)

variable {c : Char} {text rest : List Char}

/-! ## Values -/

mutual

/-- The tokens of a value. -/
def kindsOf : Tree → List Token.Kind
  | .word w => [.scalar (String.ofList w.chars) true]
  | .number n => [.scalar (String.ofList n.chars) true]
  | .text pieces => [.scalar (Text.ofList (stringOf pieces)) false]
  | .emptyList _ => [.flowSequenceStart, .flowSequenceEnd]
  | .list items => .flowSequenceStart :: (kindsOfItems items ++ [.flowSequenceEnd])
  | .emptyObject _ => [.flowMappingStart, .flowMappingEnd]
  | .object members => .flowMappingStart :: (kindsOfMembers members ++ [.flowMappingEnd])

/-- The tokens of items. -/
def kindsOfItems : Items → List Token.Kind
  | .last _ item _ => kindsOf item
  | .more _ item _ items => kindsOf item ++ .flowEntry :: kindsOfItems items

/-- The tokens of fields. -/
def kindsOfMembers : Members → List Token.Kind
  | .last label value _ =>
    .key :: .scalar (Text.ofList (stringOf label.name)) false :: .value :: kindsOf value
  | .more label value _ members =>
    .key :: .scalar (Text.ofList (stringOf label.name)) false :: .value ::
      (kindsOf value ++ .flowEntry :: kindsOfMembers members)

end

/-- What stands behind a value in brackets: blank space and a sign. -/
def EndsItem (text : List Char) : Prop :=
  ∃ space c rest, text = space ++ c :: rest ∧ IsSpace space ∧ isClosing c = true

theorem endsItem_blanks {b : Blanks} (h : b.isPortable = true) (hc : isClosing c = true) :
    EndsItem (spaceOf b ++ c :: rest) :=
  ⟨spaceOf b, c, rest, rfl, isSpace_spaceOf h, hc⟩

namespace Stream

theorem exists_word_eq_cons (w : Json.Word) :
    ∃ c tail, w.chars = c :: tail ∧ BeginsWord c tail ∧ ∀ d ∈ w.chars, isWordChar d = true := by
  cases w with
  | null => exact ⟨'n', _, rfl, Or.inl (by decide), List.all_eq_true.mp (by decide)⟩
  | bool b =>
    cases b with
    | true => exact ⟨'t', _, rfl, Or.inl (by decide), List.all_eq_true.mp (by decide)⟩
    | false => exact ⟨'f', _, rfl, Or.inl (by decide), List.all_eq_true.mp (by decide)⟩

theorem exists_number_eq_cons (n : Json.Number) :
    ∃ c tail, n.chars = c :: tail ∧ BeginsWord c tail ∧ ∀ d ∈ n.chars, isWordChar d = true := by
  have hword : ∀ d ∈ Json.Number.alphabet, isWordChar d = true :=
    List.all_iff_forall_prop.mp (by decide)
  have hdigits : ∀ d ∈ "0123456789".toList, d ∈ "0123456789ntf".toList :=
    List.all_iff_forall_prop.mp (by decide)
  obtain ⟨d, ds, hds, hd⟩ := n.exists_whole_eq_cons
  have hbody : n.body = d :: (ds ++ n.fractionPart ++ n.powerPart) := by
    simp [Json.Number.body, hds]
  have hchars : ∀ d ∈ n.chars, isWordChar d = true := fun d hd => hword d (n.mem_alphabet hd)
  cases hn : n.negative with
  | true =>
    exact ⟨'-', n.body, by simp [Json.Number.chars, hn], Or.inr ⟨rfl, d, _, hbody, hd⟩, hchars⟩
  | false =>
    exact ⟨d, _, by rw [Json.Number.chars, hn, hbody]; rfl, Or.inl (hdigits d hd), hchars⟩

mutual

/-- Cutting a value gives its tokens. Outside brackets it must be an object. -/
theorem At.leads_tree (t : Tree) (ht : t.isReadable = true) {rest : List Char} {s : Stream}
    {depth : Nat} {kinds : List Token.Kind}
    (hrest : t.isObject = true ∨ depth ≠ 0 ∧ EndsItem rest)
    (h : s.At depth kinds (t.written spaceOf rest)) :
    ∃ u, s.Leads u ∧ u.At depth ((kindsOf t).reverse ++ kinds) rest := by
  cases t with
  | word w =>
    obtain hobject | ⟨hdepth, space, c, rest, rfl, hspace, hc⟩ := hrest
    · cases hobject
    · obtain ⟨depth, rfl⟩ := Nat.exists_eq_succ_of_ne_zero hdepth
      obtain ⟨d, tail, hchars, hbegins, hword⟩ := exists_word_eq_cons w
      rw [Tree.written, hchars] at h
      rw [hchars] at hword
      simpa [kindsOf, hchars] using h.leads_word hbegins hword hspace hc
  | number n =>
    obtain hobject | ⟨hdepth, space, c, rest, rfl, hspace, hc⟩ := hrest
    · cases hobject
    · obtain ⟨depth, rfl⟩ := Nat.exists_eq_succ_of_ne_zero hdepth
      obtain ⟨d, tail, hchars, hbegins, hword⟩ := exists_number_eq_cons n
      rw [Tree.written, hchars] at h
      rw [hchars] at hword
      simpa [kindsOf, hchars] using h.leads_word hbegins hword hspace hc
  | text pieces =>
    obtain ⟨u, hlead, hu, -⟩ := At.leads_string ht h
    exact ⟨u, hlead, hu⟩
  | emptyList inside =>
    obtain ⟨u, hlead, hu, -⟩ := h.leads_opening (Or.inl ⟨rfl, rfl⟩)
    obtain ⟨v, hlead', hv⟩ := (hu.of_space (isSpace_spaceOf ht)).leads_closing (Or.inl ⟨rfl, rfl⟩)
    exact ⟨v, hlead.trans hlead', hv⟩
  | list items =>
    obtain ⟨u, hlead, hu, -⟩ := h.leads_opening (Or.inl ⟨rfl, rfl⟩)
    obtain ⟨v, hlead', hv⟩ := At.leads_items items ht hu
    obtain ⟨w, hlead'', hw⟩ := hv.leads_closing (Or.inl ⟨rfl, rfl⟩)
    exact ⟨w, (hlead.trans hlead').trans hlead'', by simpa [kindsOf] using hw⟩
  | emptyObject inside =>
    obtain ⟨u, hlead, hu, -⟩ := h.leads_opening (Or.inr ⟨rfl, rfl⟩)
    obtain ⟨v, hlead', hv⟩ := (hu.of_space (isSpace_spaceOf ht)).leads_closing (Or.inr ⟨rfl, rfl⟩)
    exact ⟨v, hlead.trans hlead', hv⟩
  | object members =>
    obtain ⟨u, hlead, hu, hallowed⟩ := h.leads_opening (Or.inr ⟨rfl, rfl⟩)
    obtain ⟨v, hlead', hv⟩ := At.leads_members members ht hallowed hu
    obtain ⟨w, hlead'', hw⟩ := hv.leads_closing (Or.inr ⟨rfl, rfl⟩)
    exact ⟨w, (hlead.trans hlead').trans hlead'', by simpa [kindsOf] using hw⟩

/-- Cutting items gives their tokens. -/
theorem At.leads_items (items : Items) (hitems : items.isReadable = true) {rest : List Char}
    {s : Stream} {depth : Nat} {kinds : List Token.Kind}
    (h : s.At (depth + 1) kinds (items.written spaceOf (']' :: rest))) :
    ∃ u, s.Leads u ∧ u.At (depth + 1) ((kindsOfItems items).reverse ++ kinds) (']' :: rest) := by
  cases items with
  | last before item behind =>
    simp only [Items.isReadable, Bool.and_eq_true] at hitems
    obtain ⟨⟨hbefore, hitem⟩, hbehind⟩ := hitems
    obtain ⟨u, hlead, hu⟩ := At.leads_tree item hitem
      (Or.inr ⟨Nat.succ_ne_zero depth, endsItem_blanks hbehind (by decide)⟩)
      (h.of_space (isSpace_spaceOf hbefore))
    exact ⟨u, hlead, hu.of_space (isSpace_spaceOf hbehind)⟩
  | more before item behind items =>
    simp only [Items.isReadable, Bool.and_eq_true] at hitems
    obtain ⟨⟨⟨hbefore, hitem⟩, hbehind⟩, hitems⟩ := hitems
    obtain ⟨u, hlead, hu⟩ := At.leads_tree item hitem
      (Or.inr ⟨Nat.succ_ne_zero depth, endsItem_blanks hbehind (by decide)⟩)
      (h.of_space (isSpace_spaceOf hbefore))
    obtain ⟨v, hlead', hv, -⟩ := (hu.of_space (isSpace_spaceOf hbehind)).leads_comma
    obtain ⟨w, hlead'', hw⟩ := At.leads_items items hitems hv
    exact ⟨w, (hlead.trans hlead').trans hlead'', by simpa [kindsOfItems] using hw⟩

/-- Cutting fields gives their tokens. -/
theorem At.leads_members (members : Members) (hmembers : members.isReadable = true)
    {rest : List Char} {s : Stream} {depth : Nat} {kinds : List Token.Kind}
    (hallowed : s.keyAllowed = true)
    (h : s.At (depth + 1) kinds (members.written spaceOf ('}' :: rest))) :
    ∃ u, s.Leads u ∧
      u.At (depth + 1) ((kindsOfMembers members).reverse ++ kinds) ('}' :: rest) := by
  cases members with
  | last label value behind =>
    simp only [Members.isReadable, Bool.and_eq_true] at hmembers
    obtain ⟨⟨hlabel, hvalue⟩, hbehind⟩ := hmembers
    obtain ⟨u, hlead, hu⟩ := h.leads_label hlabel hallowed
    obtain ⟨v, hlead', hv⟩ := At.leads_tree value hvalue
      (Or.inr ⟨Nat.succ_ne_zero depth, endsItem_blanks hbehind (by decide)⟩) hu
    refine ⟨v, hlead.trans hlead', ?_⟩
    simpa [kindsOfMembers] using hv.of_space (isSpace_spaceOf hbehind)
  | more label value behind members =>
    simp only [Members.isReadable, Bool.and_eq_true] at hmembers
    obtain ⟨⟨⟨hlabel, hvalue⟩, hbehind⟩, hmembers⟩ := hmembers
    obtain ⟨u, hlead, hu⟩ := h.leads_label hlabel hallowed
    obtain ⟨v, hlead', hv⟩ := At.leads_tree value hvalue
      (Or.inr ⟨Nat.succ_ne_zero depth, endsItem_blanks hbehind (by decide)⟩) hu
    obtain ⟨w, hlead'', hw, hallowed'⟩ := (hv.of_space (isSpace_spaceOf hbehind)).leads_comma
    obtain ⟨x, hlead''', hx⟩ := At.leads_members members hmembers hallowed' hw
    refine ⟨x, ((hlead.trans hlead').trans hlead'').trans hlead''', ?_⟩
    simpa [kindsOfMembers] using hx

end

/-! ## Whole texts -/

/-- Behind the last token stands the end of the text. -/
theorem At.collect_end {s : Stream} {kinds : List Token.Kind} (h : s.At 0 kinds text)
    (htext : IsSpace text) (bound : Nat) :
    ∃ tokens, collect (bound + 2) s = (tokens, none) ∧
      tokens.map Token.kind = kinds.reverse ++ [.streamEnd] := by
  obtain ⟨space, hspace, hrest⟩ := exists_space_append s.cursor.rest
  have hnone : withoutSpace text = [] :=
    List.dropWhile_eq_nil_iff.mpr fun _ hc => isSpace_of_mem htext hc
  rw [h.rest, hnone] at hrest
  obtain ⟨fresh, next, hfresh, hnext, hready⟩ := h.bare.exists_ready hrest hspace (by rintro c ⟨⟩)
  have hbare := hready.bare
  have hend : next.pushEnd = .ok
      { next.pushEmpty .streamEnd with
        pending := []
        keyAllowed := false
        finished := true } := by
    rw [pushEnd, hbare.closeBlocks_eq, dropKeyHere, hbare.dropKeys_eq]
    rfl
  have hadvance : fresh.advance = next.pushEnd := by
    simp only [advance, hnext, ok_bind, hbare.closeBlocks_eq, hready.cursor, Cursor.peek,
      List.getElem?_nil]
  refine ⟨(⟨.streamEnd, next.mark, next.mark⟩ :: next.found).reverse, ?_, ?_⟩
  · rw [collect, h.bare.unfinished, hfresh]
    simp only [Bool.false_eq_true, if_false, hadvance, hend, collect, if_true]
    rfl
  · simp [hready.found, ← h.kinds]

/-- The tokens of a document. -/
theorem tokens_document {d : Json.Document} (h : d.isReadable = true) :
    ∃ tokens, Stream.tokens (d.written spaceOf) = (tokens, none) ∧
      tokens.map Token.kind = kindsOf d.root ++ [.streamEnd] := by
  simp only [Json.Document.isReadable, Bool.and_eq_true] at h
  obtain ⟨⟨hbefore, hroot⟩, hbehind⟩ := h
  have hstart : (start (d.written spaceOf)).At 0 [] (spaceOf d.before ++ d.root.written spaceOf
      (spaceOf d.behind)) :=
    ⟨⟨rfl, rfl, rfl, by rintro key ⟨⟩⟩, rfl, rfl, rfl⟩
  obtain ⟨u, ⟨steps, hsteps, hlead⟩, hu⟩ := At.leads_tree d.root hroot (Or.inl d.isObject)
    (hstart.of_space (isSpace_spaceOf hbefore))
  obtain ⟨left, hleft⟩ : ∃ left, (d.written spaceOf).length = left + steps :=
    Nat.exists_eq_add_of_le' (Nat.le_of_add_right_le hsteps)
  obtain ⟨tokens, hcollect, hkinds⟩ := hu.collect_end (isSpace_spaceOf hbehind) left
  refine ⟨tokens, ?_, ?_⟩
  · rw [Stream.tokens, hleft, Nat.add_right_comm, hlead, hcollect]
  · simpa using hkinds

end Stream

end ChartQuery.Yaml
