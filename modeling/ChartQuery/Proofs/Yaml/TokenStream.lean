/-
# Cutting single tokens

What one step of cutting does inside brackets: it passes over blank space and takes one sign, string
or word; a key and its colon take two. Where cutting stands is told up to blank space (`Stream.At`).
A stretch of text is passed in at most as many steps as it has characters (`Stream.Leads`), so the
bound of the loop is never reached.
-/

import ChartQuery.Proofs.Yaml.Plain
import ChartQuery.Proofs.Yaml.QuotedScalar
import ChartQuery.Yaml.TokenStream
import Mathlib.Data.Bool.AllAny

namespace ChartQuery.Yaml

open Json (Blanks Piece Label quotedBefore stringOf)

variable {c : Char} {space text rest : List Char}

/-! ## Blank space -/

/-- Blank space as it is cut into tokens: each line end is a line feed. -/
def spaceOf (b : Blanks) : List Char :=
  withLineFeeds b.chars

theorem mem_withLineFeeds (hc : c ∈ withLineFeeds text) : c = '\n' ∨ c ∈ text ∧ c ≠ '\r' := by
  fun_induction withLineFeeds text with
  | case1 => cases hc
  | case2 rest ih => grind
  | case3 rest hnext ih => grind
  | case4 d rest hpair hreturn ih => grind

theorem withLineFeeds_eq_self (h : '\r' ∉ text) : withLineFeeds text = text := by
  fun_induction withLineFeeds text with
  | case1 => rfl
  | case2 rest ih => exact absurd List.mem_cons_self h
  | case3 rest hnext ih => exact absurd List.mem_cons_self h
  | case4 d rest hpair hreturn ih => rw [ih fun hmem => h (List.mem_cons_of_mem d hmem)]

theorem isSpace_spaceOf {b : Blanks} (h : b.isPortable = true) : IsSpace (spaceOf b) := by
  intro c hc
  rcases mem_withLineFeeds hc with rfl | ⟨hmem, hreturn⟩
  · exact Or.inr rfl
  · have hblank := List.all_eq_true.mp b.areBlank c hmem
    have htab : c ≠ '\t' := by
      rintro rfl
      simp [Blanks.isPortable, hmem] at h
    simpa [Json.isBlank, htab, hreturn] using hblank

theorem spaceOf_of_blanks {b : Blanks} (h : b.chars.all (· == ' ') = true) :
    spaceOf b = b.chars := by
  apply withLineFeeds_eq_self
  intro hreturn
  cases List.all_eq_true.mp h '\r' hreturn

/-! ## Keys that may begin -/

/-- The character is a blank or a line feed. -/
def isSpace (c : Char) : Bool :=
  c == ' ' || c == '\n'

/-- The text behind the blank space at its head. -/
def withoutSpace (text : List Char) : List Char :=
  text.dropWhile isSpace

theorem isSpace_of_mem (hspace : IsSpace space) (hc : c ∈ space) : isSpace c = true := by
  rcases hspace c hc with rfl | rfl <;> rfl

theorem withoutSpace_append (hspace : IsSpace space) :
    withoutSpace (space ++ text) = withoutSpace text :=
  List.dropWhile_append_of_pos fun _ hc => isSpace_of_mem hspace hc

theorem exists_space_append (text : List Char) :
    ∃ space, IsSpace space ∧ text = space ++ withoutSpace text := by
  refine ⟨text.takeWhile isSpace, fun c hc => ?_, List.takeWhile_append_dropWhile.symm⟩
  simpa [isSpace] using List.mem_takeWhile_imp hc

namespace Stream

/-- No block is open, and no key is required: the state of cutting a text of brackets. -/
structure Bare (s : Stream) : Prop where
  outer : s.outer = []
  indent : s.indent = -1
  unfinished : s.finished = false
  optional : ∀ key ∈ s.pending, key.required = false

variable {s t : Stream}

theorem Bare.closeBlocks_eq (h : s.Bare) (column : Int) : s.closeBlocks column = s := by
  rw [closeBlocks, h.outer]
  split <;> rfl

/-- Keys that are not required can be dropped. -/
theorem Bare.dropKeys_eq (h : s.Bare) (p : PendingKey → Bool) :
    s.dropKeys p = .ok { s with pending := s.pending.filter fun key => !p key } := by
  have hnone : (s.pending.find? fun key => p key && key.required) = none := by
    rw [List.find?_eq_none]
    intro key hkey
    simp [h.optional key hkey]
  rw [dropKeys, hnone]

theorem Bare.filter (h : s.Bare) (p : PendingKey → Bool) :
    Bare { s with pending := s.pending.filter p } :=
  ⟨h.outer, h.indent, h.unfinished, fun key hkey => h.optional key (List.mem_filter.mp hkey).1⟩

/-- A key may be remembered here; if so, it comes first. -/
theorem Bare.exists_saveKey (h : s.Bare) :
    ∃ pending, s.saveKey = .ok { s with pending := pending } ∧
      Bare { s with pending := pending } ∧
      (s.keyAllowed = true → pending.head? = some ⟨s.depth, s.found.length, false, s.mark⟩) := by
  by_cases hallowed : s.keyAllowed = true
  · have hindent : (s.indent == (s.mark.column : Int)) = false := by
      rw [h.indent, beq_eq_false_iff_ne]
      omega
    refine ⟨⟨s.depth, s.found.length, false, s.mark⟩ ::
      s.pending.filter fun key => !(key.depth == s.depth), ?_, ?_, fun _ => rfl⟩
    · simp only [saveKey, hallowed, if_true, dropKeyHere, h.dropKeys_eq, hindent, Bool.and_false]
      rfl
    · refine ⟨h.outer, h.indent, h.unfinished, ?_⟩
      intro key hkey
      rcases List.mem_cons.mp hkey with rfl | hkey
      · rfl
      · exact h.optional key (List.mem_filter.mp hkey).1
  · refine ⟨s.pending, ?_, h, fun hyes => absurd hyes hallowed⟩
    rw [saveKey, if_neg hallowed]

/-! ## Blank space -/

/-- A token begins here: there is no white space and no comment. -/
def BeginsToken (text : List Char) : Prop :=
  ∀ c ∈ text.head?, c ≠ ' ' ∧ c ≠ '#' ∧ c ≠ byteOrderMark ∧ isBreak c = false

/-- Blank space is passed over; a key that was allowed in front of it is allowed behind it. -/
theorem exists_skipSpaceWithin (hrest : s.cursor.rest = space ++ text) (hspace : IsSpace space)
    (htext : BeginsToken text) {bound : Nat} (hbound : space.length < bound) :
    ∃ allowed, skipSpaceWithin bound s =
        { s with cursor := ⟨text, space.foldl Mark.after s.mark⟩, keyAllowed := allowed } ∧
      (s.keyAllowed = true → allowed = true) := by
  induction bound generalizing s space with
  | zero => omega
  | succ bound ih =>
    rcases hspace.cases with hblanks | ⟨blanks, lines, rfl, hblanks, hlines⟩
    · have hspan : s.cursor.span (· == ' ') = (space, ⟨text, space.foldl Mark.after s.mark⟩) := by
        have happend := Cursor.span_append (p := (· == ' ')) (m := s.cursor.mark)
          (fun b hb => beq_iff_eq.mpr (hblanks b hb)) fun c hc => beq_false_of_ne (htext c hc).1
        rwa [← hrest] at happend
      refine ⟨s.keyAllowed, ?_, id⟩
      cases text with
      | nil => simp [skipSpaceWithin, hspan, Cursor.peek]
      | cons c text =>
        obtain ⟨-, hcomment, -, hbreak⟩ := htext c rfl
        simp [skipSpaceWithin, hspan, Cursor.peek, hcomment, hbreak]
    · have hspan : s.cursor.span (· == ' ') =
          (blanks, ⟨'\n' :: (lines ++ text), blanks.foldl Mark.after s.mark⟩) := by
        have hfeed : ∀ d ∈ ('\n' :: (lines ++ text)).head?, (d == ' ') = false := by simp
        have happend := Cursor.span_append (p := (· == ' ')) (m := s.cursor.mark)
          (fun b hb => beq_iff_eq.mpr (hblanks b hb)) hfeed
        rw [List.append_assoc, List.cons_append] at hrest
        rwa [← hrest] at happend
      have hbreak : isBreak '\n' = true := rfl
      rw [List.length_append, List.length_cons] at hbound
      obtain ⟨allowed, hskip, hkept⟩ := ih
        (s := { s with
          cursor := ⟨lines ++ text, (blanks.foldl Mark.after s.mark).after '\n'⟩
          keyAllowed := s.keyAllowed || !s.inFlow })
        rfl hlines (by omega)
      refine ⟨allowed, ?_, fun hyes => hkept (by simp [hyes])⟩
      simp only [skipSpaceWithin, hspan, Cursor.peek, List.getElem?_cons_zero, hbreak, if_true,
        Cursor.advance, List.drop_succ_cons, List.drop_zero, List.take_succ_cons, List.take_zero,
        List.foldl_cons, List.foldl_nil, Option.some.injEq, Char.reduceEq, if_false, hskip]
      simp [mark]

theorem exists_skipSpace (hrest : s.cursor.rest = space ++ text) (hspace : IsSpace space)
    (htext : BeginsToken text) :
    ∃ allowed, s.skipSpace =
        { s with cursor := ⟨text, space.foldl Mark.after s.mark⟩, keyAllowed := allowed } ∧
      (s.keyAllowed = true → allowed = true) := by
  have hmark : s.cursor.peek 0 ≠ some byteOrderMark := by
    intro hmark
    rw [Cursor.peek, hrest, ← List.head?_eq_getElem?] at hmark
    cases space with
    | nil => exact (htext byteOrderMark hmark).2.2.1 rfl
    | cons b space =>
      obtain rfl : b = byteOrderMark := Option.some.inj hmark
      rcases hspace byteOrderMark List.mem_cons_self with hb | hb <;> cases hb
  have hbound : space.length < s.cursor.rest.length + 1 := by
    rw [hrest, List.length_append]
    omega
  obtain ⟨allowed, hskip, hkept⟩ := exists_skipSpaceWithin hrest hspace htext hbound
  refine ⟨allowed, ?_, hkept⟩
  simp only [skipSpace, hmark, and_false, if_false, hskip]

/-! ## Single tokens -/

/-- The state from which the next token of a text is cut, when `s` is where cutting stands. -/
structure Ready (s : Stream) (space text : List Char) (next : Stream) : Prop where
  bare : next.Bare
  cursor : next.cursor = ⟨text, space.foldl Mark.after s.mark⟩
  found : next.found = s.found
  depth : next.depth = s.depth
  allowed : s.keyAllowed = true → next.keyAllowed = true
  /-- The key that came last is still possible unless it is out of reach. -/
  pending : ∀ key, s.pending.head? = some key → s.isStale key = false →
    next.isStale key = false → next.pending.head? = some key

theorem head?_filter_of_head? {keys : List PendingKey} {key : PendingKey} {p : PendingKey → Bool}
    (h : keys.head? = some key) (hp : p key = true) : (keys.filter p).head? = some key := by
  obtain ⟨rest, rfl⟩ := List.head?_eq_some_iff.mp h
  rw [List.filter_cons_of_pos hp, List.head?_cons]

theorem Bare.exists_ready (h : s.Bare) (hrest : s.cursor.rest = space ++ text)
    (hspace : IsSpace space) (htext : BeginsToken text) :
    ∃ fresh next, s.dropStale = .ok fresh ∧ fresh.skipSpace.dropStale = .ok next ∧
      Ready s space text next := by
  let fresh : Stream := { s with pending := s.pending.filter fun key => !s.isStale key }
  have hfresh : fresh.Bare := h.filter fun key => !s.isStale key
  obtain ⟨allowed, hskip, hkept⟩ := exists_skipSpace (s := fresh) hrest hspace htext
  let skipped : Stream :=
    { fresh with cursor := ⟨text, space.foldl Mark.after s.mark⟩, keyAllowed := allowed }
  have hskipped : skipped.Bare :=
    ⟨hfresh.outer, hfresh.indent, hfresh.unfinished, hfresh.optional⟩
  let next : Stream :=
    { skipped with pending := skipped.pending.filter fun key => !skipped.isStale key }
  refine ⟨fresh, next, h.dropKeys_eq s.isStale, ?_, hskipped.filter _, rfl, rfl, rfl, hkept, ?_⟩
  · rw [hskip]
    exact hskipped.dropKeys_eq skipped.isStale
  · intro key hkey hnear hnear'
    have hfirst : fresh.pending.head? = some key := head?_filter_of_head? hkey (by simp [hnear])
    have hstale : skipped.isStale key = false := hnear'
    exact head?_filter_of_head? hfirst (by simp [hstale])

/-- One step of cutting takes the token that begins behind the blank space. -/
theorem Bare.exists_collect (h : s.Bare) (hrest : s.cursor.rest = space ++ c :: rest)
    (hspace : IsSpace space) (htext : BeginsToken (c :: rest)) :
    ∃ next, Ready s space (c :: rest) next ∧
      ∀ t, next.pushNext c = .ok t → ∀ bound, collect (bound + 1) s = collect bound t := by
  obtain ⟨fresh, next, hfresh, hnext, hready⟩ := h.exists_ready hrest hspace htext
  refine ⟨next, hready, fun t ht bound => ?_⟩
  have hadvance : fresh.advance = .ok t := by
    simpa only [advance, hnext, ok_bind, hready.bare.closeBlocks_eq, hready.cursor, Cursor.peek,
      List.getElem?_cons_zero] using ht
  rw [collect, h.unfinished, hfresh]
  simp only [Bool.false_eq_true, if_false, hadvance]

/-- Where cutting stands: the number of brackets that are open, the kinds of the tokens found, the
latest first, and the text that is left but for the blank space at its head. -/
structure At (s : Stream) (depth : Nat) (kinds : List Token.Kind) (text : List Char) : Prop where
  bare : s.Bare
  depth : s.depth = depth
  kinds : s.found.map Token.kind = kinds
  rest : withoutSpace s.cursor.rest = withoutSpace text

/-- Cutting goes on from one state to another one, in no more steps than characters are passed. -/
def Leads (s t : Stream) : Prop :=
  ∃ steps, steps + t.cursor.rest.length ≤ s.cursor.rest.length ∧
    ∀ bound, collect (bound + steps) s = collect bound t

theorem Leads.trans {u : Stream} (hst : s.Leads t) (htu : t.Leads u) : s.Leads u := by
  obtain ⟨m, hm, hs⟩ := hst
  obtain ⟨n, hn, ht⟩ := htu
  refine ⟨n + m, by omega, fun bound => ?_⟩
  rw [← Nat.add_assoc, hs, ht]

variable {depth : Nat} {kinds : List Token.Kind}

theorem At.congr (h : s.At depth kinds text) (heq : withoutSpace text = withoutSpace rest) :
    s.At depth kinds rest :=
  ⟨h.bare, h.depth, h.kinds, h.rest.trans heq⟩

/-- Blank space at the head of the text makes no difference. -/
theorem At.of_space (h : s.At depth kinds (space ++ text)) (hspace : IsSpace space) :
    s.At depth kinds text :=
  h.congr (withoutSpace_append hspace)

/-- The rule for one token: what holds behind it wherever the blank space in front of it has been
passed over. -/
theorem At.exists_leads {P : Stream → Prop} (h : s.At depth kinds (c :: rest))
    (hspace : isSpace c = false) (hbegins : BeginsToken (c :: rest))
    (hpush : ∀ next : Stream, next.At depth kinds (c :: rest) → next.cursor.rest = c :: rest →
      (s.keyAllowed = true → next.keyAllowed = true) →
      ∃ t, next.pushNext c = .ok t ∧ t.cursor.rest.length ≤ rest.length ∧ P t) :
    ∃ t, s.Leads t ∧ P t := by
  obtain ⟨space, hspace, hrest⟩ : ∃ space, IsSpace space ∧ s.cursor.rest = space ++ c :: rest := by
    have hkept : withoutSpace (c :: rest) = c :: rest :=
      List.dropWhile_cons_of_neg (by simp [hspace])
    have hsplit := exists_space_append s.cursor.rest
    rwa [h.rest, hkept] at hsplit
  obtain ⟨next, hready, hcollect⟩ := h.bare.exists_collect hrest hspace hbegins
  have hcursor : next.cursor.rest = c :: rest := congrArg Cursor.rest hready.cursor
  have hnext : next.At depth kinds (c :: rest) :=
    ⟨hready.bare, hready.depth.trans h.depth, (congrArg _ hready.found).trans h.kinds,
      congrArg withoutSpace hcursor⟩
  obtain ⟨t, ht, hlength, hp⟩ := hpush next hnext hcursor hready.allowed
  refine ⟨t, ⟨1, ?_, hcollect t ht⟩, hp⟩
  rw [hrest, List.length_append, List.length_cons]
  omega

/-! ## Signs -/

/-- The characters with which the tokens of JSON begin. -/
def tokenChars : List Char := "-0123456789ntf[]\x7b\x7d\x22,:".toList

theorem beginsToken_of_mem (h : c ∈ tokenChars) (rest : List Char) :
    isSpace c = false ∧ BeginsToken (c :: rest) := by
  have hall : ∀ c ∈ tokenChars, isSpace c = false ∧ c ≠ ' ' ∧ c ≠ '#' ∧ c ≠ byteOrderMark ∧
      isBreak c = false :=
    List.all_iff_forall_prop.mp (by decide)
  obtain ⟨hspace, hbegins⟩ := hall c h
  refine ⟨hspace, fun d hd => ?_⟩
  obtain rfl : c = d := Option.some.inj hd
  exact hbegins

/-- An opening bracket. -/
theorem At.leads_opening {kind : Token.Kind} (h : s.At depth kinds (c :: rest))
    (hc : c = '[' ∧ kind = .flowSequenceStart ∨ c = '{' ∧ kind = .flowMappingStart) :
    ∃ t, s.Leads t ∧ t.At (depth + 1) (kind :: kinds) rest ∧ t.keyAllowed = true := by
  have hmem : c ∈ tokenChars := by
    rcases hc with ⟨rfl, -⟩ | ⟨rfl, -⟩ <;> decide
  obtain ⟨hspace, hbegins⟩ := beginsToken_of_mem hmem rest
  refine h.exists_leads hspace hbegins fun next hnext hrest _ => ?_
  obtain ⟨pending, hsave, hbare, -⟩ := hnext.bare.exists_saveKey
  have hpush : next.pushNext c = next.pushFlowStart kind := by
    rcases hc with ⟨rfl, rfl⟩ | ⟨rfl, rfl⟩ <;> simp [pushNext]
  rw [hpush, pushFlowStart, hsave, ok_bind]
  refine ⟨_, rfl, ?_, ⟨⟨hbare.outer, hbare.indent, hbare.unfinished, hbare.optional⟩, ?_, ?_, ?_⟩,
    rfl⟩
  · simp [pushSign, Cursor.advance, hrest]
  · simp [hnext.depth]
  · simp [pushSign, hnext.kinds]
  · simp [pushSign, Cursor.advance, hrest]

/-- A closing bracket. -/
theorem At.leads_closing {kind : Token.Kind} (h : s.At (depth + 1) kinds (c :: rest))
    (hc : c = ']' ∧ kind = .flowSequenceEnd ∨ c = '}' ∧ kind = .flowMappingEnd) :
    ∃ t, s.Leads t ∧ t.At depth (kind :: kinds) rest := by
  have hmem : c ∈ tokenChars := by
    rcases hc with ⟨rfl, -⟩ | ⟨rfl, -⟩ <;> decide
  obtain ⟨hspace, hbegins⟩ := beginsToken_of_mem hmem rest
  refine h.exists_leads hspace hbegins fun next hnext hrest _ => ?_
  have hbare := hnext.bare.filter fun key => !(key.depth == next.depth)
  have hpush : next.pushNext c = next.pushFlowEnd kind := by
    rcases hc with ⟨rfl, rfl⟩ | ⟨rfl, rfl⟩ <;> simp [pushNext]
  rw [hpush, pushFlowEnd, dropKeyHere, hnext.bare.dropKeys_eq, ok_bind]
  refine ⟨_, rfl, ?_, ⟨hbare.outer, hbare.indent, hbare.unfinished, hbare.optional⟩, ?_, ?_, ?_⟩
  · simp [pushSign, Cursor.advance, hrest]
  · simp [hnext.depth]
  · simp [pushSign, hnext.kinds]
  · simp [pushSign, Cursor.advance, hrest]

/-- A comma, behind which a key may begin. -/
theorem At.leads_comma (h : s.At depth kinds (',' :: rest)) :
    ∃ t, s.Leads t ∧ t.At depth (.flowEntry :: kinds) rest ∧ t.keyAllowed = true := by
  obtain ⟨hspace, hbegins⟩ := beginsToken_of_mem (c := ',') (by decide) rest
  refine h.exists_leads hspace hbegins fun next hnext hrest _ => ?_
  have hbare := hnext.bare.filter fun key => !(key.depth == next.depth)
  have hpush : next.pushNext ',' = next.pushFlowEntry := by simp [pushNext]
  rw [hpush, pushFlowEntry, dropKeyHere, hnext.bare.dropKeys_eq, ok_bind]
  refine ⟨_, rfl, ?_, ⟨⟨hbare.outer, hbare.indent, hbare.unfinished, hbare.optional⟩, ?_, ?_, ?_⟩,
    rfl⟩
  · simp [pushSign, Cursor.advance, hrest]
  · simp [pushSign, hnext.depth]
  · simp [pushSign, hnext.kinds]
  · simp [pushSign, Cursor.advance, hrest]

/-! ## Scalars -/

/-- What is known behind a string that may be a key: the place where it begins is remembered. -/
structure BehindKey (t : Stream) (depth length : Nat) (rest : List Char) (key : PendingKey) :
    Prop where
  pending : t.pending.head? = some key
  depth : key.depth = depth
  before : t.found.length = key.before + 1
  line : key.mark.line = t.mark.line
  index : t.mark.index = key.mark.index + length
  rest : t.cursor.rest = rest

theorem isBreak_quotedBefore {pieces : List Piece} (hpieces : Json.arePortable pieces = true) :
    ∀ c ∈ quotedBefore pieces [], isBreak c = false := by
  intro c hc
  simp only [quotedBefore, List.mem_cons, List.mem_append, List.mem_flatMap, List.not_mem_nil,
    or_false] at hc
  rcases hc with rfl | ⟨p, hp, hc⟩ | rfl
  · rfl
  · rw [Json.arePortable, Bool.and_eq_true] at hpieces
    exact (isPrintable_of_mem_chars (List.all_eq_true.mp hpieces.1 p hp) hc).2
  · rfl

/-- A string. Where a key is allowed, it may be one. -/
theorem At.leads_string {pieces : List Piece} (hpieces : Json.arePortable pieces = true)
    (h : s.At depth kinds (quotedBefore pieces rest)) :
    ∃ t, s.Leads t ∧ t.At depth (.scalar (Text.ofList (stringOf pieces)) false :: kinds) rest ∧
      (s.keyAllowed = true →
        ∃ key, t.BehindKey depth (quotedBefore pieces []).length rest key) := by
  obtain ⟨hspace, hbegins⟩ := beginsToken_of_mem (c := Text.doubleQuote) (by decide)
    (pieces.flatMap Piece.chars ++ Text.doubleQuote :: rest)
  refine At.exists_leads h hspace hbegins fun next hnext hrest hallowed => ?_
  obtain ⟨pending, hsave, hbare, hkey⟩ := hnext.bare.exists_saveKey
  have hpush : next.pushNext Text.doubleQuote =
      next.pushKeyLike ((Token.Kind.scalar · false) <$> scanQuoted true) := by
    simp [pushNext, Text.doubleQuote, Text.singleQuote]
  have hcursor : next.cursor = ⟨quotedBefore pieces rest, next.mark⟩ := by
    rw [quotedBefore, ← hrest]
    rfl
  have hscan := scanQuoted_string hpieces rest next.mark
  rw [hpush, pushKeyLike, hsave, ok_bind, pushScanned]
  simp only [StateT.run_map, hcursor, hscan, map_ok, ok_bind]
  refine ⟨_, rfl, ?_, ⟨⟨hbare.outer, hbare.indent, hbare.unfinished, hbare.optional⟩, ?_, ?_, rfl⟩,
    fun hyes => ⟨_, ⟨hkey (hallowed hyes), ?_, ?_, ?_, ?_, rfl⟩⟩⟩
  · simp only [List.length_append, List.length_cons]
    omega
  · exact hnext.depth
  · simp [hnext.kinds]
  · exact hnext.depth
  · simp
  · exact (Mark.line_foldl (isBreak_quotedBefore hpieces)).symm
  · exact Mark.index_foldl _ _

/-- The text begins like a word or a number of JSON. -/
def BeginsWord (c : Char) (tail : List Char) : Prop :=
  c ∈ "0123456789ntf".toList ∨ c = '-' ∧ ∃ d more, tail = d :: more ∧ d ∈ "0123456789".toList

theorem pushNext_word {tail : List Char} (hword : BeginsWord c tail)
    (hrest : s.cursor.rest = c :: (tail ++ rest)) : s.pushNext c = s.pushPlain := by
  rcases hword with hc | ⟨rfl, d, more, rfl, hd⟩
  · have hall : ∀ c ∈ "0123456789ntf".toList, atSpace (some c) = false ∧
        plainRefusals.contains c = false ∧ c ∉ ['%', '-', '.', '[', '{', ']', '}', ',', '?', ':',
          '*', '&', '!', '|', '>', Text.singleQuote, Text.doubleQuote] :=
      List.all_iff_forall_prop.mp (by decide)
    obtain ⟨hspace, hplain, hsign⟩ := hall c hc
    simp only [List.mem_cons, List.not_mem_nil, or_false, not_or] at hsign
    simp only [pushNext, hsign, beginsPlain, hspace, hplain, false_and, if_false, Bool.or_self,
      Bool.not_false, Bool.true_or, if_true]
  · have hall : ∀ d ∈ "0123456789".toList, d ≠ '-' ∧ atSpace (some d) = false :=
      List.all_iff_forall_prop.mp (by decide)
    obtain ⟨hminus, hspace⟩ := hall d hd
    have hseparator : s.cursor.atSeparator = false := by
      simp [Cursor.atSeparator, hrest, hminus]
    simp [pushNext, Cursor.peek, hrest, hseparator, hspace, beginsPlain, Text.singleQuote,
      Text.doubleQuote]

/-- A word or a number inside brackets. -/
theorem At.leads_word {d : Char} {tail : List Char} (hword : BeginsWord d tail)
    (hchars : ∀ e ∈ d :: tail, isWordChar e = true) (hspace : IsSpace space)
    (hc : isClosing c = true)
    (h : s.At (depth + 1) kinds (d :: (tail ++ (space ++ c :: rest)))) :
    ∃ t, s.Leads t ∧ t.At (depth + 1) (.scalar (String.ofList (d :: tail)) true :: kinds)
      (space ++ c :: rest) := by
  have hmem : d ∈ tokenChars := by
    have hall : ∀ d ∈ "0123456789ntf".toList, d ∈ tokenChars :=
      List.all_iff_forall_prop.mp (by decide)
    rcases hword with hd | ⟨rfl, -⟩
    · exact hall d hd
    · decide
  obtain ⟨hd, hbegins⟩ := beginsToken_of_mem hmem (tail ++ (space ++ c :: rest))
  refine h.exists_leads hd hbegins fun next hnext hrest _ => ?_
  obtain ⟨pending, hsave, hbare, -⟩ := hnext.bare.exists_saveKey
  obtain ⟨crosses, hscan⟩ := scanPlain_word next.indent hchars (List.cons_ne_nil d tail) hspace
    hc rest next.mark
  have hcursor : next.cursor = ⟨d :: tail ++ (space ++ c :: rest), next.mark⟩ := by
    rw [List.cons_append, ← hrest]
    rfl
  have hflow : (next.depth != 0) = true := by simp [hnext.depth]
  rw [pushNext_word hword hrest, pushPlain, hsave, ok_bind, pushScanned]
  simp only [inFlow, hflow, hcursor, hscan, ok_bind]
  refine ⟨_, rfl, ?_, ⟨hbare.outer, hbare.indent, hbare.unfinished, hbare.optional⟩, ?_, ?_, ?_⟩
  · simp only [List.length_append]
    omega
  · exact hnext.depth
  · simp [hnext.kinds]
  · exact (withoutSpace_append hspace).symm

/-! ## Keys -/

/-- The colon behind a key puts the token that opens the key in front of it. -/
theorem Bare.exists_pushValue (h : s.Bare) (hdepth : s.depth ≠ 0) {key : PendingKey}
    (hkey : s.pending.head? = some key) (hhere : key.depth = s.depth) {scalar : Token}
    {others : List Token} (hfound : s.found = scalar :: others)
    (hbefore : others.length = key.before) :
    ∃ t, s.pushValue = .ok t ∧ t.Bare ∧ t.depth = s.depth ∧
      t.cursor = s.cursor.advance 1 ∧
      t.found.map Token.kind = .value :: scalar.kind :: .key :: others.map Token.kind := by
  have hfind : s.pending.find? (·.depth == s.depth) = some key := by
    obtain ⟨pending, hpending⟩ := List.head?_eq_some_iff.mp hkey
    rw [hpending, List.find?_cons_of_pos (by simp [hhere])]
  have hsettle : s.settleKey key =
      { s with
        pending := s.pending.filter (·.depth != s.depth)
        found := scalar :: ⟨.key, key.mark, key.mark⟩ :: others } := by
    simp [settleKey, insert, inFlow, hdepth, hfound, ← hbefore]
  have hbare := h.filter (·.depth != s.depth)
  rw [pushValue, hfind]
  refine ⟨_, rfl, ?_⟩
  rw [hsettle]
  exact ⟨⟨hbare.outer, hbare.indent, hbare.unfinished, hbare.optional⟩, rfl, rfl, rfl⟩

/-- A key with its colon inside brackets, where a key is allowed. -/
theorem At.leads_label {l : Label} (h : s.At (depth + 1) kinds (l.written spaceOf rest))
    (hl : l.isPortable = true) (hallowed : s.keyAllowed = true) :
    ∃ t, s.Leads t ∧ t.At (depth + 1)
      (.value :: .scalar (Text.ofList (stringOf l.name)) false :: .key :: kinds) rest := by
  simp only [Label.isPortable, Bool.and_eq_true, decide_eq_true_eq] at hl
  obtain ⟨⟨⟨⟨hbefore, hname⟩, hline⟩, hpad⟩, hreach⟩ := hl
  obtain ⟨t, hlead, hat, hkey⟩ := At.leads_string hname (h.of_space (isSpace_spaceOf hbefore))
  obtain ⟨key, hkey⟩ := hkey hallowed
  have hgap := spaceOf_of_blanks hline
  have hspace : IsSpace l.gap.chars := fun c hc =>
    Or.inl (beq_iff_eq.mp (List.all_eq_true.mp hline c hc))
  obtain ⟨hcolon, hbegins⟩ := beginsToken_of_mem (c := ':') (by decide)
    (spaceOf l.pad ++ rest)
  obtain ⟨next, hready, hcollect⟩ := hat.bare.exists_collect (hgap ▸ hkey.rest) hspace hbegins
  have hlength : (quotedBefore l.name []).length = (l.name.flatMap Piece.chars).length + 2 := by
    simp [quotedBefore]
  have hmark : next.mark = l.gap.chars.foldl Mark.after t.mark := congrArg Cursor.mark hready.cursor
  have hsame : next.mark.line = t.mark.line := by
    have hbreak : ∀ c ∈ l.gap.chars, isBreak c = false := fun c hc => by
      rw [beq_iff_eq.mp (List.all_eq_true.mp hline c hc)]
      rfl
    rw [hmark, Mark.line_foldl hbreak]
  have hnear : t.isStale key = false := by
    have hindex := hkey.index
    simp only [Label.reach] at hreach
    simp only [isStale, hkey.line, bne_self_eq_false, Bool.false_or, decide_eq_false_iff_not]
    omega
  have hnear' : next.isStale key = false := by
    have hindex := hkey.index
    have hindex' : next.mark.index = t.mark.index + l.gap.chars.length := by
      rw [hmark, Mark.index_foldl]
    simp only [Label.reach] at hreach
    simp only [isStale, hkey.line, hsame, bne_self_eq_false, Bool.false_or,
      decide_eq_false_iff_not]
    omega
  obtain ⟨scalar, others, hfound⟩ := List.exists_cons_of_length_eq_add_one hkey.before
  have hkinds := hat.kinds
  rw [hfound, List.map_cons, List.cons.injEq] at hkinds
  have hdepth : next.depth = depth + 1 := hready.depth.trans hat.depth
  obtain ⟨u, hu, hbare, hdepth', hcursor, hkinds'⟩ := hready.bare.exists_pushValue
    (by rw [hdepth]; exact Nat.succ_ne_zero depth) (hready.pending key hkey.pending hnear hnear')
    (hkey.depth.trans hdepth.symm) (hready.found.trans hfound) (by simpa [hfound] using hkey.before)
  have hpush : next.pushNext ':' = next.pushValue := by simp [pushNext, inFlow, hdepth]
  have hrest : u.cursor.rest = spaceOf l.pad ++ rest := by
    rw [hcursor, Cursor.advance, hready.cursor]
    rfl
  refine ⟨u, hlead.trans ⟨1, ?_, hcollect u (hpush.trans hu)⟩, hbare, hdepth'.trans hdepth, ?_, ?_⟩
  · rw [hrest, hkey.rest, hgap]
    simp only [List.length_append, List.length_cons]
    omega
  · rw [hkinds', hkinds.1, hkinds.2]
  · rw [hrest, withoutSpace_append (isSpace_spaceOf hpad)]

end Stream

end ChartQuery.Yaml
