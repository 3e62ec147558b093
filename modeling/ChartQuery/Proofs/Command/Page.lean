/-
# Pages that can be printed

A page breaks down where a value has no printed form, or where its text has none in UTF-8. A message
can be printed exactly when the words that it is about hold no half of a surrogate pair, whatever
else they are; a compiled query when it can be written as JSON. What else may break down is the list
of charts, and a result: as JSON by what it holds, and in rows by what its rows are and by what is
left of the cells once they are laid out.
-/

import ChartQuery.Command.Page
import ChartQuery.Proofs.Execution.Result
import ChartQuery.Proofs.Json.Whole
import ChartQuery.Proofs.Terminal.Markup
import ChartQuery.Proofs.Terminal.Wrap

namespace ChartQuery

/-- A chart that has a row in the list of charts: it has a name, and the tags in its kind close only
what is open and can be closed. -/
structure Summary.IsListable (screen : Terminal.Screen) (s : Summary) : Prop where
  named : s.name ≠ none
  kind : ∀ kind ∈ s.kind, (Terminal.Markup.rendered screen kind).isOk = true

/-- Every row of the result gives its cells one after another. -/
def ResultSet.HasCells (r : ResultSet) : Prop :=
  ∀ row ∈ r.rows, row.items?.isSome = true

namespace Command

open Terminal

/-! ## Steps that may fail -/

section Steps

variable {ε α β : Type}

/-- What follows a step may fail or not in a way that does not depend on the step. -/
theorem isOk_bind_iff {x : Except ε α} {next : α → Except ε β} (later : Prop)
    (h : ∀ a, (next a).isOk = true ↔ later) :
    (x >>= next).isOk = true ↔ x.isOk = true ∧ later := by
  cases x with
  | error e => exact iff_of_false nofun nofun
  | ok a => exact (h a).trans (and_iff_right rfl).symm

/-- It may also be unable to fail. -/
theorem isOk_bind_pure (x : Except ε α) (f : α → β) :
    (x >>= fun a => pure (f a)).isOk = x.isOk := by
  cases x <;> rfl

theorem isOk_mapM (f : α → Except ε β) (xs : List α) :
    (xs.mapM f).isOk = true ↔ ∀ x ∈ xs, (f x).isOk = true := by
  induction xs with
  | nil => exact iff_of_true rfl nofun
  | cons x rest ih =>
    rw [List.mapM_cons, List.forall_mem_cons, ← ih]
    exact isOk_bind_iff _ fun a => by rw [isOk_bind_pure]

end Steps

/-! ## Pages -/

namespace Page

theorem breakdown_printed (text : Text) :
    (printed text).breakdown = none ↔ text.isWhole = true := by
  rw [← Bool.not_eq_false, ← Text.exists_string_eq_error_iff, printed]
  cases text.string <;> simp [broken]

/-- A page is printed when its text can be made and consists of characters. -/
theorem breakdown_ofText (x : Except Breakdown Text) :
    (ofText x).breakdown = none ↔ x.isOk = true ∧ ∀ text, x = .ok text → text.isWhole = true := by
  cases x with
  | error b => exact iff_of_false nofun fun h => nomatch h.1
  | ok text =>
    refine (breakdown_printed text).trans ⟨fun h => ⟨rfl, ?_⟩, fun h => h.2 text rfl⟩
    rintro _ ⟨⟩
    exact h

/-- Nothing of a page that breaks down is printed. -/
theorem text_ofText {x : Except Breakdown Text} (h : (ofText x).breakdown ≠ none) :
    (ofText x).text = "" := by
  cases x with
  | error b => rfl
  | ok text =>
    unfold ofText printed at h ⊢
    dsimp only at h ⊢
    split at h
    · exact absurd rfl h
    · rfl

theorem breakdown_followedBy (first second : Page) :
    (first.followedBy second).breakdown = none ↔
      first.breakdown = none ∧ second.breakdown = none := by
  unfold followedBy
  split
  · next b hb => simp [hb]
  · next hb => simp [hb]

theorem breakdown_sequence (pages : List Page) :
    (sequence pages).breakdown = none ↔ ∀ page ∈ pages, page.breakdown = none := by
  induction pages with
  | nil => exact iff_of_true rfl nofun
  | cons first rest ih =>
    rw [List.forall_mem_cons, ← ih]
    exact breakdown_followedBy first (sequence rest)

end Page

variable {screen : Screen}

/-! ## Messages -/

theorem isOk_wordsOf (markup : Text) :
    (wordsOf screen markup).isOk = (Markup.rendered screen markup).isOk := by
  unfold wordsOf
  cases Markup.rendered screen markup <;> rfl

theorem isOk_wordsOf_escaped (words : Text) :
    (wordsOf screen (Markup.escaped words)).isOk = true := by
  have hplain : Markup.isPlain ("" : Text).toList = true := rfl
  have hshows : Markup.Shows screen _ words := Markup.shows_escaped hplain words
  obtain ⟨out, hout, -⟩ := hshows
  rw [Text.empty_append] at hout
  rw [isOk_wordsOf, hout]
  rfl

/-- A text that can be shown is printed when the words that it is about consist of characters. -/
theorem breakdown_said {markup words : Text} (h : Markup.Shows screen markup words) :
    (said screen markup).breakdown = none ↔ words.isWhole = true := by
  obtain ⟨out, hout, hwhole⟩ := h
  have hwords : wordsOf screen markup = .ok out := by rw [wordsOf, hout]
  rw [said, hwords, ← hwhole]
  refine (Page.breakdown_printed _).trans ?_
  rw [Text.isWhole_append, isWhole_shown screen.room, Text.isWhole_ofString, Bool.and_true]

theorem breakdown_message {colour opening : String} (hcolour : Markup.IsStyle colour)
    (hopening : Markup.isPlain (opening : Text).toList = true) (words : Text) :
    (message screen colour opening words).breakdown = none ↔ words.isWhole = true :=
  breakdown_said (Markup.shows_message hcolour hopening words)

/-- Fixed words can always be printed. -/
theorem breakdown_notice {colour text : String} (hcolour : Markup.IsStyle colour)
    (htext : Markup.isPlain (text : Text).toList = true) :
    (said screen (Markup.styled colour text)).breakdown = none :=
  (breakdown_said (Markup.shows_notice hcolour htext)).mpr (Text.isWhole_ofString text)

/-! ## The list of charts and a query -/

/-- A row that shows a text for the kind of its chart, whatever the cells behind it are. -/
theorem isOk_row (name kindText : Text) (cells : List Text) :
    (do
      let shownName ← wordsOf screen (Markup.escaped name)
      let kind ← wordsOf screen kindText
      pure (shownName :: kind :: cells)).isOk = true ↔
        (Markup.rendered screen kindText).isOk = true := by
  refine (isOk_bind_iff ((Markup.rendered screen kindText).isOk = true) fun shownName => ?_).trans
    (and_iff_right (isOk_wordsOf_escaped name))
  rw [isOk_bind_pure, isOk_wordsOf]

theorem isOk_summaryRow (s : Summary) :
    (summaryRow screen s).isOk = true ↔ s.IsListable screen := by
  obtain ⟨name, kind, measures, categories, filters⟩ := s
  cases name with
  | none => exact iff_of_false nofun fun h => h.named rfl
  | some name =>
    cases kind with
    | none => exact (isOk_row name "-" _).trans (iff_of_true rfl ⟨nofun, nofun⟩)
    | some kind =>
      refine (isOk_row name (if kind.isEmpty then "-" else kind) _).trans ?_
      by_cases hempty : kind = ""
      · subst hempty
        refine iff_of_true rfl ⟨nofun, ?_⟩
        rintro _ ⟨⟩
        rfl
      · rw [if_neg fun h => hempty ((Text.isEmpty_iff kind).mp h)]
        constructor
        · intro hkind
          refine ⟨nofun, ?_⟩
          rintro _ ⟨⟩
          exact hkind
        · exact fun h => h.kind kind rfl

/-- The charts can be listed: each of them has a row, and the table of these rows, in which long
names may be cut off, consists of characters. -/
structure CanBeListed (screen : Screen) (summaries : List Summary) : Prop where
  listable : ∀ s ∈ summaries, s.IsListable screen
  whole : summaries ≠ [] → ∀ text, listText screen summaries = .ok text → text.isWhole = true

theorem breakdown_listPage (summaries : List Summary) :
    (listPage screen summaries).breakdown = none ↔ CanBeListed screen summaries := by
  unfold listPage
  split
  · next hempty =>
    rw [List.isEmpty_iff.mp hempty]
    exact iff_of_true (breakdown_notice Markup.isStyle_yellow (by decide))
      ⟨nofun, fun hsome => absurd rfl hsome⟩
  · next hsome =>
    have hrows : (listText screen summaries).isOk = true ↔
        ∀ s ∈ summaries, s.IsListable screen := by
      rw [listText, isOk_bind_pure, isOk_mapM]
      exact forall₂_congr fun s _ => isOk_summaryRow s
    have hne : summaries ≠ [] := fun h => hsome (List.isEmpty_iff.mpr h)
    rw [Page.breakdown_ofText, hrows]
    exact ⟨fun h => ⟨h.1, fun _ => h.2⟩, fun h => ⟨h.listable, h.whole hne⟩⟩

theorem isOk_jsonOf (layout : Json.Layout) (v : Value) :
    (jsonOf layout v).isOk = true ↔ Json.Writable layout v := by
  rw [Json.writable_iff_isOk]
  unfold jsonOf
  cases Json.write layout v <;> exact Iff.rfl

/-- A query is written in ASCII, so that nothing but its values can keep it from being printed. -/
theorem breakdown_queryPage (c : Configuration) :
    (queryPage screen c).breakdown = none ↔ Json.Writable .listing c.toPayload := by
  rw [queryPage, Page.breakdown_ofText, isOk_bind_pure, isOk_jsonOf]
  refine and_iff_left fun text htext => ?_
  unfold jsonOf at htext
  split at htext
  · next written hwritten =>
    cases htext
    rw [Text.isWhole_append, isWhole_shown screen.room, Json.isWhole_write hwritten]
    rfl
  · cases htext

/-! ## Results -/

theorem isOk_rowTexts (row : Value) : (rowTexts row).isOk = row.items?.isSome := by
  unfold rowTexts
  cases row.items? <;> rfl

theorem isOk_csvText (r : ResultSet) : (csvText screen r).isOk = true ↔ r.HasCells := by
  rw [csvText, isOk_bind_pure, records, isOk_bind_pure, isOk_mapM]
  simp only [isOk_rowTexts]
  exact Iff.rfl

theorem isOk_tableText (r : ResultSet) : (tableText screen r).isOk = true ↔ r.HasCells := by
  have hrow : ∀ row : Value, (do
      (← rowTexts row).mapM fun text => wordsOf screen (Markup.escaped text)).isOk = true ↔
        row.items?.isSome = true := by
    intro row
    rw [← isOk_rowTexts]
    refine (isOk_bind_iff True fun texts => ?_).trans (and_iff_left trivial)
    rw [isOk_mapM]
    exact iff_of_true (fun text _ => isOk_wordsOf_escaped text) trivial
  have hheadings : (r.headers.mapM fun h =>
      wordsOf screen (Markup.escaped (headingOf h))).isOk = true :=
    (isOk_mapM _ _).mpr fun h _ => isOk_wordsOf_escaped (headingOf h)
  rw [tableText, isOk_bind_pure]
  refine (isOk_bind_iff r.HasCells fun headings => ?_).trans (and_iff_right hheadings)
  rw [isOk_bind_pure, isOk_mapM]
  simp only [hrow]
  exact Iff.rfl

/-- A result can be printed as JSON unless the number of a measure has too many digits, or a text
somewhere in it holds half of a surrogate pair. -/
structure IsPrintableJson (r : ResultSet) : Prop where
  digits : ∀ header ∈ r.headers, ∀ n ∈ header.measureIndex, Numeral.isWritable n = true
  whole : r.toValue.isWhole = true

theorem breakdown_jsonText {r : ResultSet} (h : r.HoldsJson) :
    (Page.ofText (jsonText r)).breakdown = none ↔ IsPrintableJson r := by
  rw [Page.breakdown_ofText, jsonText, isOk_bind_pure, isOk_jsonOf]
  constructor
  · rintro ⟨hwritable, hwhole⟩
    refine ⟨h.writable_iff.mp hwritable, ?_⟩
    obtain ⟨text, htext⟩ := hwritable
    have hprinted := hwhole (text ++ "\n") (by rw [jsonOf, htext]; rfl)
    rw [Text.isWhole_append, Text.isWhole_ofString, Bool.and_true, Json.isWhole_write htext]
      at hprinted
    exact hprinted
  · rintro ⟨hdigits, hwhole⟩
    obtain ⟨text, htext⟩ := h.writable_iff.mpr hdigits
    refine ⟨⟨text, htext⟩, fun printed hprinted => ?_⟩
    rw [jsonOf, htext] at hprinted
    cases hprinted
    rw [Text.isWhole_append, Json.isWhole_write htext, hwhole]
    rfl

/-- A result can be printed in rows when its rows have cells and what is printed consists of
characters. -/
structure IsPrintableInRows (screen : Screen) (form : Text) (r : ResultSet) : Prop where
  cells : r.HasCells
  whole : ∀ text, resultText screen form r = .ok text → text.isWhole = true

theorem breakdown_resultText {form : Text} (hform : form ≠ "json") (r : ResultSet) :
    (Page.ofText (resultText screen form r)).breakdown = none ↔
      IsPrintableInRows screen form r := by
  have hrows : (resultText screen form r).isOk = true ↔ r.HasCells := by
    rw [resultText, if_neg hform]
    split
    · exact isOk_csvText r
    · exact isOk_tableText r
  rw [Page.breakdown_ofText, hrows]
  exact ⟨fun h => ⟨h.1, h.2⟩, fun h => ⟨h.cells, h.whole⟩⟩

/-- A result can be printed in the form of some name, with all its warnings. -/
structure IsPrintable (screen : Screen) (form : Text) (r : ResultSet) : Prop where
  json : form = "json" → IsPrintableJson r
  rows : form ≠ "json" → IsPrintableInRows screen form r
  warnings : ∀ warning ∈ r.warnings, warning.display.isWhole = true

theorem breakdown_resultPage (form : Text) {r : ResultSet} (h : r.HoldsJson) :
    (resultPage screen form r).breakdown = none ↔ r.isEmpty = true ∨ IsPrintable screen form r := by
  unfold resultPage
  split
  · next hempty =>
    exact iff_of_true (breakdown_notice Markup.isStyle_yellow (by decide)) (Or.inl hempty)
  · next hfilled =>
    have hresult : (Page.ofText (resultText screen form r)).breakdown = none ↔
        (form = "json" → IsPrintableJson r) ∧
          (form ≠ "json" → IsPrintableInRows screen form r) := by
      by_cases hform : form = "json"
      · rw [resultText, if_pos hform, breakdown_jsonText h]
        simp [hform]
      · rw [breakdown_resultText hform]
        simp [hform]
    have hwarning (warning : Value) :
        (message screen "yellow" "Warning: " warning.display).breakdown = none ↔
          warning.display.isWhole = true :=
      breakdown_message Markup.isStyle_yellow (by decide) warning.display
    rw [or_iff_right hfilled, Page.breakdown_sequence, List.forall_mem_cons, List.forall_mem_map,
      hresult]
    simp only [hwarning]
    exact ⟨fun h => ⟨h.1.1, h.1.2, h.2⟩, fun h => ⟨⟨h.json, h.rows⟩, h.warnings⟩⟩

end Command

end ChartQuery
