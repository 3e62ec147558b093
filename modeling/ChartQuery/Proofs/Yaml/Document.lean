/-
# JSON documents in YAML files

A file that holds a JSON text has the value that the text means, if both formats read what is
written in it alike (`read_json`); only whole numbers of too many digits are refused. Before
anything is cut from a text its line ends become line feeds and its characters are checked
(`Cleaned`).
-/

import ChartQuery.Proofs.Yaml.Node
import Mathlib.Data.Bool.AllAny

namespace ChartQuery.Yaml

open Json (Blanks Piece Label Tree Items Members quotedBefore)

variable {c : Char} {text rest rest' : List Char}

/-! ## Line ends and characters -/

theorem withLineFeeds_cons (hc : c ≠ '\r') :
    withLineFeeds (c :: text) = c :: withLineFeeds text := by
  simp [withLineFeeds, hc]

/-- A text can be cleaned in parts, unless the two characters of a line end are parted. -/
theorem withLineFeeds_append (hrest : rest.head? ≠ some '\n') :
    withLineFeeds (text ++ rest) = withLineFeeds text ++ withLineFeeds rest := by
  fun_induction withLineFeeds text with
  | case1 => rfl
  | case2 text ih => simp [withLineFeeds, ih]
  | case3 text hnext ih =>
    have hnext' : ∀ tail, text ++ rest ≠ '\n' :: tail := by
      intro tail htail
      cases text with
      | nil => exact hrest (by rw [show rest = '\n' :: tail from htail, List.head?_cons])
      | cons d text =>
        obtain ⟨rfl, -⟩ := List.cons.inj htail
        exact hnext text rfl
    rw [List.cons_append, withLineFeeds, ih, List.cons_append]
    exact hnext'
  | case4 d text hpair hreturn ih =>
    have hd : d ≠ '\r' := fun h => hreturn h
    rw [List.cons_append, withLineFeeds_cons hd, ih, List.cons_append]

/-- With a line feed at the end of each line the first text is the second one, in which each
character may stand in a document. -/
structure Cleaned (text text' : List Char) : Prop where
  lines : withLineFeeds text = text'
  printable : ∀ c ∈ text', isPrintable c = true

namespace Cleaned

theorem nil : Cleaned [] [] := ⟨rfl, by simp⟩

theorem cons (h : Cleaned rest rest') (hreturn : c ≠ '\r') (hc : isPrintable c = true) :
    Cleaned (c :: rest) (c :: rest') := by
  refine ⟨by rw [withLineFeeds_cons hreturn, h.lines], fun d hd => ?_⟩
  rcases List.mem_cons.mp hd with rfl | hd
  · exact hc
  · exact h.printable d hd

theorem append (h : Cleaned rest rest') (htext : ∀ c ∈ text, c ≠ '\r' ∧ isPrintable c = true) :
    Cleaned (text ++ rest) (text ++ rest') := by
  induction text with
  | nil => exact h
  | cons c text ih =>
    obtain ⟨hreturn, hc⟩ := htext c List.mem_cons_self
    exact (ih fun d hd => htext d (List.mem_cons_of_mem c hd)).cons hreturn hc

theorem blanks (h : Cleaned rest rest') {b : Blanks} (hb : b.isPortable = true)
    (hrest : rest.head? ≠ some '\n') : Cleaned (b.chars ++ rest) (spaceOf b ++ rest') := by
  refine ⟨by rw [withLineFeeds_append hrest, h.lines]; rfl, fun c hc => ?_⟩
  rcases List.mem_append.mp hc with hspace | hrest
  · rcases isSpace_spaceOf hb c hspace with rfl | rfl <;> rfl
  · exact h.printable c hrest

/-- A string has no carriage return, which would need an escape. -/
theorem ne_return_of_mem_chars {p : Piece} (hc : c ∈ p.chars) : c ≠ '\r' := by
  rintro rfl
  cases p with
  | plain d stands =>
    obtain rfl := List.mem_singleton.mp hc
    cases stands
  | short e => cases e <;> exact absurd hc (by decide)
  | unit d e f g areDigits =>
    simp only [List.all_cons, List.all_nil, Bool.and_true, Bool.and_eq_true] at areDigits
    obtain ⟨hd, he, hf, hg⟩ := areDigits
    simp only [Piece.chars, List.mem_cons, List.not_mem_nil, or_false] at hc
    rcases hc with hc | hc | rfl | rfl | rfl | rfl
    · cases hc
    · cases hc
    · cases hd
    · cases he
    · cases hf
    · cases hg

theorem quoted (h : Cleaned rest rest') {pieces : List Piece}
    (hpieces : Json.arePortable pieces = true) :
    Cleaned (quotedBefore pieces rest) (quotedBefore pieces rest') := by
  have hquote : Text.doubleQuote ≠ '\r' := by decide
  refine cons (append (h.cons hquote rfl) fun c hc => ?_) hquote rfl
  obtain ⟨p, hp, hc⟩ := List.mem_flatMap.mp hc
  rw [Json.arePortable, Bool.and_eq_true] at hpieces
  exact ⟨ne_return_of_mem_chars hc,
    (isPrintable_of_mem_chars (List.all_eq_true.mp hpieces.1 p hp) hc).1⟩

theorem label (h : Cleaned rest rest') {l : Label} (hl : l.isPortable = true)
    (hrest : rest.head? ≠ some '\n') :
    Cleaned (l.written Blanks.chars rest) (l.written spaceOf rest') := by
  simp only [Label.isPortable, Bool.and_eq_true] at hl
  obtain ⟨⟨⟨⟨hbefore, hname⟩, hgap⟩, hpad⟩, -⟩ := hl
  have hgap' : l.gap.isPortable = true := by
    rw [Blanks.isPortable, Bool.not_eq_true', List.contains_eq_any_beq, List.any_eq_false]
    intro c hc
    obtain rfl := eq_of_beq (List.all_eq_true.mp hgap c hc)
    decide
  have hcolon := ((h.blanks hpad hrest).cons (c := ':') (by decide) rfl).blanks hgap' (by simp)
  exact (hcolon.quoted hname).blanks hbefore (by simp [quotedBefore, Text.doubleQuote])

/-- No value begins with the end of a line. -/
theorem head?_tree (t : Tree) : (t.written Blanks.chars rest).head? ≠ some '\n' := by
  obtain ⟨c, tail, hwritten, hc⟩ := t.exists_written_eq_cons Blanks.chars rest
  have hother : ∀ c ∈ Json.openings, c ≠ '\n' := List.all_iff_forall_prop.mp (by decide)
  simpa [hwritten] using hother c hc

mutual

/-- Cleaning changes the blank space in a value and nothing else. -/
theorem tree (t : Tree) (ht : t.isReadable = true) {rest rest' : List Char}
    (h : Cleaned rest rest') :
    Cleaned (t.written Blanks.chars rest) (t.written spaceOf rest') := by
  cases t with
  | word w =>
    refine h.append (List.all_iff_forall_prop.mp ?_)
    cases w with
    | null => decide
    | bool b => cases b <;> decide
  | number n =>
    have halphabet : ∀ c ∈ Json.Number.alphabet, c ≠ '\r' ∧ isPrintable c = true :=
      List.all_iff_forall_prop.mp (by decide)
    exact h.append fun c hc => halphabet c (n.mem_alphabet hc)
  | text pieces => exact h.quoted ht
  | emptyList inside =>
    exact ((h.cons (by decide) rfl).blanks ht (by simp)).cons (by decide) rfl
  | list items =>
    have hend : Cleaned (']' :: rest) (']' :: rest') := h.cons (by decide) rfl
    exact (items_written items ht hend (by simp)).cons (by decide) rfl
  | emptyObject inside =>
    exact ((h.cons (by decide) rfl).blanks ht (by simp)).cons (by decide) rfl
  | object members =>
    have hend : Cleaned ('}' :: rest) ('}' :: rest') := h.cons (by decide) rfl
    exact (members_written members ht hend (by simp)).cons (by decide) rfl

/-- Cleaning changes the blank space around items and nothing else. -/
theorem items_written (items : Items) (hitems : items.isReadable = true) {rest rest' : List Char}
    (h : Cleaned rest rest') (hrest : rest.head? ≠ some '\n') :
    Cleaned (items.written Blanks.chars rest) (items.written spaceOf rest') := by
  cases items with
  | last before item behind =>
    simp only [Items.isReadable, Bool.and_eq_true] at hitems
    obtain ⟨⟨hbefore, hitem⟩, hbehind⟩ := hitems
    exact (tree item hitem (h.blanks hbehind hrest)).blanks hbefore (head?_tree item)
  | more before item behind items =>
    simp only [Items.isReadable, Bool.and_eq_true] at hitems
    obtain ⟨⟨⟨hbefore, hitem⟩, hbehind⟩, hitems⟩ := hitems
    have hcomma := (items_written items hitems h hrest).cons (c := ',') (by decide) rfl
    exact (tree item hitem (hcomma.blanks hbehind (by simp))).blanks hbefore (head?_tree item)

/-- Cleaning changes the blank space around fields and nothing else. -/
theorem members_written (members : Members) (hmembers : members.isReadable = true)
    {rest rest' : List Char} (h : Cleaned rest rest') (hrest : rest.head? ≠ some '\n') :
    Cleaned (members.written Blanks.chars rest) (members.written spaceOf rest') := by
  cases members with
  | last label value behind =>
    simp only [Members.isReadable, Bool.and_eq_true] at hmembers
    obtain ⟨⟨hlabel, hvalue⟩, hbehind⟩ := hmembers
    exact (tree value hvalue (h.blanks hbehind hrest)).label hlabel (head?_tree value)
  | more label value behind members =>
    simp only [Members.isReadable, Bool.and_eq_true] at hmembers
    obtain ⟨⟨⟨hlabel, hvalue⟩, hbehind⟩, hmembers⟩ := hmembers
    have hcomma := (members_written members hmembers h hrest).cons (c := ',') (by decide) rfl
    exact (tree value hvalue (hcomma.blanks hbehind (by simp))).label hlabel (head?_tree value)

end

end Cleaned

theorem cleaned_document {d : Json.Document} (h : d.isReadable = true) :
    Cleaned d.text (d.written spaceOf) := by
  simp only [Json.Document.isReadable, Bool.and_eq_true] at h
  obtain ⟨⟨hbefore, hroot⟩, hbehind⟩ := h
  have hend : Cleaned d.behind.chars (spaceOf d.behind) := by
    simpa using Cleaned.nil.blanks hbehind (by simp)
  exact (Cleaned.tree d.root hroot hend).blanks hbefore (Cleaned.head?_tree d.root)

/-! ## Reading -/

/-- A text with a line feed at the end of each line has the value that it means; else a whole number
in it has too many digits. -/
theorem readText_document {d : Json.Document} (h : d.isReadable = true) :
    (d.root.hasShortNumbers = true →
      readText (d.written spaceOf) = .ok (.object (d.fields Json.Number.yamlValue))) ∧
    (d.root.hasShortNumbers = false →
      ∃ digits, readText (d.written spaceOf) = .error (.unreadable (.oversizedInt digits))) := by
  have hprintable : ((d.written spaceOf).findIdx? fun c => !isPrintable c) = none := by
    rw [List.findIdx?_eq_none_iff]
    intro c hc
    rw [(cleaned_document h).printable c hc]
    rfl
  obtain ⟨tokens, htokens, hkinds⟩ := Stream.tokens_document h
  have hroot : d.root.isReadable = true := by
    simp only [Json.Document.isReadable, Bool.and_eq_true] at h
    exact h.1.2
  obtain ⟨n, st, hrun, hn⟩ := exists_run_onlyRoot hroot
    (s := ⟨tokens, none, Assemble.standardHandles, []⟩) hkinds
  have hn' := hn 0
  rw [d.root_value] at hn'
  have hnode : Node.ofText? (d.written spaceOf) = .ok (some n) := by
    simp only [Node.ofText?, htokens, hrun]
  have hread : readText (d.written spaceOf) = n.content := by
    rw [readText, hprintable]
    simp only [hnode]
  rw [hread, Node.content]
  generalize n.attempt 0 [] = outcome at hn'
  cases hn' with
  | given hshort => exact ⟨fun _ => rfl, fun hlong => absurd hshort (by simp [hlong])⟩
  | refused hlong depth digits =>
    exact ⟨fun hshort => absurd hshort (by simp [hlong]), fun _ => ⟨digits, rfl⟩⟩

section ReadJson

variable {d : Json.Document} {bytes : List UInt8}

theorem read_eq_readText (h : d.isReadable = true) (hbytes : Text.decodeUtf8 bytes = .ok d.text) :
    read bytes = readText (d.written spaceOf) := by
  rw [read, hbytes]
  simp only [(cleaned_document h).lines]

/-- A file that holds a JSON text has the value that the text means. -/
theorem read_json (h : d.isReadable = true) (hbytes : Text.decodeUtf8 bytes = .ok d.text)
    (hshort : d.root.hasShortNumbers = true) :
    read bytes = .ok (.object (d.fields Json.Number.yamlValue)) := by
  rw [read_eq_readText h hbytes, (readText_document h).1 hshort]

/-- A whole number that is too long is the only reason why such a file has no value. -/
theorem read_json_of_long (h : d.isReadable = true) (hbytes : Text.decodeUtf8 bytes = .ok d.text)
    (hlong : d.root.hasShortNumbers = false) :
    ∃ digits, read bytes = .error (.unreadable (.oversizedInt digits)) := by
  rw [read_eq_readText h hbytes]
  exact (readText_document h).2 hlong

end ReadJson

end ChartQuery.Yaml
