/-
# Reading CSV

A reader of records for the dialect in which they are written. It takes one character after the
other: a comma ends a field, a line feed, a carriage return or both together end a record, and a
quotation mark at the start of a field opens a part in which only a mark has a meaning, which closes
the part unless it stands twice. An empty line is a record without fields.

Two things are shown about it. It reads back what is written, for records with any content and with
either line end (`read_write`). And it neither adds nor loses anything: apart from commas and marks,
what the records hold is what the text holds, character by character (`exists_contents_readChars`).
-/

import ChartQuery.Csv.Writer
import Mathlib.Data.List.Basic

namespace ChartQuery.Csv

/-! ## The reader -/

/-- Where a field that is being read stands: before its first character, outside marks, inside
them, or behind a mark that closes unless another one follows. -/
inductive Place where
  | start
  | plain
  | quoted
  | closing
  deriving DecidableEq, Repr

/-- A record that is being read: its finished fields and the field at its end. -/
structure Draft where
  finished : List (List Point)
  field : List Point
  place : Place
  deriving DecidableEq, Repr

namespace Draft

/-- A record of which nothing has been read. -/
def blank : Draft := ⟨[], [], .start⟩

/-- The fields so far. -/
def record (d : Draft) : List (List Point) :=
  d.finished ++ [d.field]

/-- One more character of the field. -/
def take (d : Draft) (c : Point) (place : Place) : Draft :=
  ⟨d.finished, d.field ++ [c], place⟩

/-- Before the next field. -/
def next (d : Draft) : Draft :=
  ⟨d.record, [], .start⟩

end Draft

/-- A text that is being read: the finished records, the record that has begun, and whether a
carriage return came last, to which a line feed belongs. -/
structure Reading where
  records : List (List (List Point))
  draft : Option Draft
  returned : Bool
  deriving DecidableEq, Repr

namespace Reading

/-- Before the first character. -/
def start : Reading := ⟨[], none, false⟩

/-- The record that has begun is now this one. -/
def withDraft (r : Reading) (d : Draft) : Reading :=
  ⟨r.records, some d, false⟩

/-- A record has ended. -/
def withRecord (r : Reading) (record : List (List Point)) (returned : Bool) : Reading :=
  ⟨r.records ++ [record], none, returned⟩

/-- A character outside marks. -/
def outside (r : Reading) (d : Draft) (c : Point) : Reading :=
  if c = .char ',' then r.withDraft d.next
  else if c = .char '\n' then r.withRecord d.record false
  else if c = .char '\r' then r.withRecord d.record true
  else r.withDraft (d.take c .plain)

/-- A character of a record that has begun. -/
def within (r : Reading) (d : Draft) (c : Point) : Reading :=
  match d.place with
  | .start =>
    if c = .char Text.doubleQuote then r.withDraft ⟨d.finished, d.field, .quoted⟩ else r.outside d c
  | .plain => r.outside d c
  | .quoted =>
    if c = .char Text.doubleQuote then r.withDraft ⟨d.finished, d.field, .closing⟩
    else r.withDraft (d.take c .quoted)
  | .closing =>
    if c = .char Text.doubleQuote then r.withDraft (d.take c .quoted) else r.outside d c

/-- A character before a record has begun. -/
def between (r : Reading) (c : Point) : Reading :=
  if c = .char '\n' then if r.returned then ⟨r.records, none, false⟩ else r.withRecord [] false
  else if c = .char '\r' then r.withRecord [] true
  else r.within .blank c

/-- The next character. -/
def step (r : Reading) (c : Point) : Reading :=
  match r.draft with
  | none => r.between c
  | some d => r.within d c

/-- The records at the end of the text; a record that has begun ends there. -/
def finish (r : Reading) : List (List (List Point)) :=
  r.records ++ (r.draft.map Draft.record).toList

end Reading

open Reading

/-- The records of a text. -/
def readChars (text : List Point) : List (List (List Point)) :=
  (text.foldl step start).finish

/-- The records of a text, field by field. -/
def read (text : Text) : List (List Text) :=
  (readChars text.toList).map fun record => record.map Text.ofList

/-! ## Reading what is written -/

section Written

variable {records : List (List (List Point))} {finished : List (List Point)}

/-- Inside marks every character is taken as it is, a mark when it stands twice. -/
theorem foldl_step_doubledMarks (field before : List Point) :
    (doubledMarks field).foldl step ⟨records, some ⟨finished, before, .quoted⟩, false⟩ =
      ⟨records, some ⟨finished, before ++ field, .quoted⟩, false⟩ := by
  induction field generalizing before with
  | nil => rw [doubledMarks, List.append_nil, List.foldl_nil]
  | cons c rest ih =>
    have htaken : before ++ c :: rest = before ++ [c] ++ rest := by simp
    rw [doubledMarks, htaken]
    split
    · next hmark =>
      -- The first mark closes the part, the second one takes that back.
      subst hmark
      exact ih (before ++ [(.char Text.doubleQuote)])
    · next hother =>
      rw [List.foldl_cons]
      have hstep : step ⟨records, some ⟨finished, before, .quoted⟩, false⟩ c =
          ⟨records, some ⟨finished, before ++ [c], .quoted⟩, false⟩ := if_neg hother
      rw [hstep, ih]

theorem foldl_step_marked (field : List Point) :
    (marked field).foldl step ⟨records, some ⟨finished, [], .start⟩, false⟩ =
      ⟨records, some ⟨finished, field, .closing⟩, false⟩ := by
  have hopened : step ⟨records, some ⟨finished, [], .start⟩, false⟩ (.char Text.doubleQuote) =
      ⟨records, some ⟨finished, [], .quoted⟩, false⟩ := rfl
  have hclosed : step ⟨records, some ⟨finished, field, .quoted⟩, false⟩ (.char Text.doubleQuote) =
      ⟨records, some ⟨finished, field, .closing⟩, false⟩ := rfl
  rw [marked, List.foldl_cons, hopened, List.foldl_append, foldl_step_doubledMarks,
    List.nil_append, List.foldl_cons, hclosed, List.foldl_nil]

/-- A character that needs no marks only adds to its field. -/
theorem step_of_plain {c : Point} (hplain : needsMarks c = false) {place : Place}
    (hplace : place = .start ∨ place = .plain) (before : List Point) :
    step ⟨records, some ⟨finished, before, place⟩, false⟩ c =
      ⟨records, some ⟨finished, before ++ [c], .plain⟩, false⟩ := by
  simp only [needsMarks, Bool.or_eq_false_iff, beq_eq_false_iff_ne] at hplain
  obtain ⟨⟨⟨hcomma, hmark⟩, hfeed⟩, hreturn⟩ := hplain
  have houtside : outside ⟨records, some ⟨finished, before, place⟩, false⟩
      ⟨finished, before, place⟩ c = ⟨records, some ⟨finished, before ++ [c], .plain⟩, false⟩ := by
    rw [outside, if_neg hcomma, if_neg hfeed, if_neg hreturn]
    rfl
  rcases hplace with rfl | rfl
  · exact (if_neg hmark).trans houtside
  · exact houtside

theorem foldl_step_plain {field : List Point} (hplain : field.any needsMarks = false)
    (before : List Point) :
    field.foldl step ⟨records, some ⟨finished, before, .plain⟩, false⟩ =
      ⟨records, some ⟨finished, before ++ field, .plain⟩, false⟩ := by
  induction field generalizing before with
  | nil => rw [List.append_nil, List.foldl_nil]
  | cons c rest ih =>
    rw [List.any_cons, Bool.or_eq_false_iff] at hplain
    rw [List.foldl_cons, step_of_plain hplain.1 (Or.inr rfl), ih hplain.2, List.append_assoc,
      List.singleton_append]

/-- Behind a written field the reader has that field, and it is not inside marks. -/
theorem exists_foldl_step_writtenField (records : List (List (List Point)))
    (finished : List (List Point)) (field : List Point) :
    ∃ place, place ≠ .quoted ∧
      (writtenField field).foldl step ⟨records, some ⟨finished, [], .start⟩, false⟩ =
        ⟨records, some ⟨finished, field, place⟩, false⟩ := by
  unfold writtenField
  split
  · exact ⟨.closing, by decide, foldl_step_marked field⟩
  · next hplain =>
    rw [Bool.not_eq_true] at hplain
    cases field with
    | nil => exact ⟨.start, by decide, rfl⟩
    | cons c rest =>
      rw [List.any_cons, Bool.or_eq_false_iff] at hplain
      refine ⟨.plain, by decide, ?_⟩
      rw [List.foldl_cons, step_of_plain hplain.1 (Or.inl rfl), foldl_step_plain hplain.2]
      rfl

/-- Outside marks a comma and a line end have their meaning. -/
theorem step_of_ne_quoted {d : Draft} (hplace : d.place ≠ .quoted) {c : Point}
    (hmark : c ≠ .char Text.doubleQuote) (r : Reading) :
    step ⟨r.records, some d, r.returned⟩ c = r.outside d c := by
  obtain ⟨finished, field, place⟩ := d
  cases place with
  | start => exact if_neg hmark
  | plain => rfl
  | quoted => exact absurd rfl hplace
  | closing => exact if_neg hmark

theorem writtenFields_cons_cons (first second : List Point) (others : List (List Point)) :
    writtenFields (first :: second :: others) =
      writtenField first ++ .char ',' :: writtenFields (second :: others) := rfl

/-- Behind the written fields of a record the reader has that record. -/
theorem exists_foldl_step_writtenFields {fields : List (List Point)} (hsome : fields ≠ [])
    (finished : List (List Point)) :
    ∃ d : Draft, d.place ≠ .quoted ∧ d.record = finished ++ fields ∧
      (writtenFields fields).foldl step ⟨records, some ⟨finished, [], .start⟩, false⟩ =
        ⟨records, some d, false⟩ := by
  induction fields generalizing finished with
  | nil => exact absurd rfl hsome
  | cons first rest ih =>
    obtain ⟨place, hplace, hfirst⟩ := exists_foldl_step_writtenField records finished first
    cases rest with
    | nil => exact ⟨⟨finished, first, place⟩, hplace, rfl, hfirst⟩
    | cons second others =>
      obtain ⟨d, hd, hrecord, hrest⟩ := ih (List.cons_ne_nil second others) (finished ++ [first])
      refine ⟨d, hd, by rw [hrecord, List.append_assoc, List.singleton_append], ?_⟩
      have hcomma := step_of_ne_quoted (d := ⟨finished, first, place⟩) hplace
        (c := .char ',') (by decide) ⟨records, none, false⟩
      rw [writtenFields_cons_cons, List.foldl_append, hfirst, List.foldl_cons, hcomma]
      exact hrest

/-- A record as it is written, without its end. -/
def line (record : List (List Point)) : List Point :=
  if record = [[]] then marked [] else writtenFields record

theorem writtenRecord_eq (record : List (List Point)) :
    writtenRecord record = line record ++ recordEnd := by
  unfold writtenRecord line
  split
  · rfl
  · next hother => rw [if_neg hother]

/-- The first character of a record that has fields begins the record. -/
theorem exists_line_eq_cons {record : List (List Point)} (hsome : record ≠ []) :
    ∃ c rest, line record = c :: rest ∧ c ≠ .char '\n' ∧ c ≠ .char '\r' := by
  have hfield : ∀ c rest, ∃ d more,
      writtenField (c :: rest) = d :: more ∧ d ≠ .char '\n' ∧ d ≠ .char '\r' := by
    intro c rest
    unfold writtenField
    split
    · exact ⟨_, _, rfl, by decide, by decide⟩
    · next hplain =>
      simp only [List.any_cons, needsMarks, Bool.or_eq_true, beq_iff_eq, not_or] at hplain
      exact ⟨c, rest, rfl, hplain.1.1.2, hplain.1.2⟩
  unfold line
  split
  · exact ⟨_, _, rfl, by decide, by decide⟩
  · next hother =>
    -- Behind an empty first field there is a comma, since the field is not the only one.
    cases record with
    | nil => exact absurd rfl hsome
    | cons first others =>
      cases others with
      | nil =>
        cases first with
        | nil => exact absurd rfl hother
        | cons c rest => exact hfield c rest
      | cons second others =>
        rw [writtenFields_cons_cons]
        cases first with
        | nil => exact ⟨_, _, rfl, by decide, by decide⟩
        | cons c rest =>
          obtain ⟨d, more, hfirst, hd⟩ := hfield c rest
          rw [hfirst]
          exact ⟨d, _, rfl, hd⟩

/-- What ends a record: a line feed, also behind a carriage return. -/
def IsRecordEnd (ending : List Point) : Prop :=
  ending = [.char '\n'] ∨ ending = recordEnd

/-- A record is read back from its line. -/
theorem foldl_step_line {ending : List Point} (hending : IsRecordEnd ending)
    (record : List (List Point)) :
    (line record ++ ending).foldl step ⟨records, none, false⟩ =
      ⟨records ++ [record], none, false⟩ := by
  by_cases hsome : record = []
  · subst hsome
    rcases hending with rfl | rfl <;> rfl
  obtain ⟨d, hplace, hrecord, hread⟩ : ∃ d : Draft, d.place ≠ .quoted ∧ d.record = record ∧
      (line record).foldl step ⟨records, some .blank, false⟩ = ⟨records, some d, false⟩ := by
    unfold line
    split
    · next honly => exact ⟨⟨[], [], .closing⟩, by decide, honly.symm, foldl_step_marked []⟩
    · exact exists_foldl_step_writtenFields hsome []
  have hbegun : (line record).foldl step ⟨records, none, false⟩ = ⟨records, some d, false⟩ := by
    obtain ⟨c, rest, hline, hfeed, hreturn⟩ := exists_line_eq_cons hsome
    have hfirst : step ⟨records, none, false⟩ c = step ⟨records, some .blank, false⟩ c :=
      (if_neg hfeed).trans (if_neg hreturn)
    rw [← hread, hline, List.foldl_cons, List.foldl_cons, hfirst]
  rw [List.foldl_append, hbegun, ← hrecord]
  rcases hending with rfl | rfl
  · exact step_of_ne_quoted hplace (by decide) ⟨records, none, false⟩
  · have hreturned := step_of_ne_quoted hplace (c := .char '\r') (by decide) ⟨records, none, false⟩
    rw [recordEnd, List.foldl_cons, hreturned]
    rfl

/-- The lines of records. -/
def lined (ending : List Point) (records : List (List (List Point))) : List Point :=
  records.flatMap fun record => line record ++ ending

theorem foldl_step_lined {ending : List Point} (hending : IsRecordEnd ending)
    (more : List (List (List Point))) :
    (lined ending more).foldl step ⟨records, none, false⟩ = ⟨records ++ more, none, false⟩ := by
  induction more generalizing records with
  | nil => rw [List.append_nil, lined, List.flatMap_nil, List.foldl_nil]
  | cons record rest ih =>
    have hlined : lined ending (record :: rest) = line record ++ ending ++ lined ending rest := rfl
    rw [hlined, List.foldl_append, foldl_step_line hending, ih, List.append_assoc,
      List.singleton_append]

/-- Records are read back from their lines, whatever their fields hold. -/
theorem readChars_lined {ending : List Point} (hending : IsRecordEnd ending)
    (records : List (List (List Point))) : readChars (lined ending records) = records := by
  rw [readChars, start, foldl_step_lined hending, List.nil_append]
  exact List.append_nil records

end Written

/-- The characters of records. -/
def charsOf (records : List (List Text)) : List (List (List Point)) :=
  records.map fun record => record.map Text.toList

theorem toList_write (records : List (List Text)) :
    (write records).toList = lined recordEnd (charsOf records) := by
  rw [write, Text.toList_ofList, lined, charsOf, List.flatMap_map]
  exact List.flatMap_congr fun record _ => writtenRecord_eq _

theorem read_ofList_lined {ending : List Point} (hending : IsRecordEnd ending)
    (records : List (List Text)) :
    read (Text.ofList (lined ending (charsOf records))) = records := by
  have hfield : (Text.ofList ∘ Text.toList) = id := funext Text.ofList_toList
  rw [read, Text.toList_ofList, readChars_lined hending, charsOf, List.map_map]
  refine List.map_id'' (fun record => ?_) records
  rw [Function.comp_apply, List.map_map, hfield, List.map_id]

/-- The characters of the records that are read. -/
theorem charsOf_read (text : Text) : charsOf (read text) = readChars text.toList := by
  have hfield : Text.toList ∘ Text.ofList = id := funext Text.toList_ofList
  rw [charsOf, read, List.map_map]
  refine List.map_id'' (fun record => ?_) _
  rw [Function.comp_apply, List.map_map, hfield, List.map_id]

/-- What is written is read back. -/
theorem read_write (records : List (List Text)) : read (write records) = records := by
  rw [← Text.ofList_toList (write records), toList_write]
  exact read_ofList_lined (Or.inr rfl) records

/-! ## What stands in a line -/

theorem mem_doubledMarks {c : Point} {field : List Point} : c ∈ doubledMarks field ↔ c ∈ field := by
  induction field with
  | nil => exact Iff.rfl
  | cons d rest ih =>
    rw [doubledMarks]
    split
    · simp only [List.mem_cons, ih]
      tauto
    · simp only [List.mem_cons, ih]

theorem mem_writtenField {c : Point} {field : List Point} (h : c ∈ writtenField field) :
    c = .char Text.doubleQuote ∨ c ∈ field := by
  unfold writtenField marked at h
  split at h
  · rw [List.mem_cons, List.mem_append, List.mem_singleton] at h
    rcases h with hmark | hfield | hmark
    · exact Or.inl hmark
    · exact Or.inr (mem_doubledMarks.mp hfield)
    · exact Or.inl hmark
  · exact Or.inr h

theorem mem_writtenFields {c : Point} {fields : List (List Point)} (h : c ∈ writtenFields fields) :
    c = .char ',' ∨ c = .char Text.doubleQuote ∨ ∃ field ∈ fields, c ∈ field := by
  induction fields with
  | nil => exact absurd h List.not_mem_nil
  | cons first rest ih =>
    have hfirst : c ∈ writtenField first →
        c = .char ',' ∨ c = .char Text.doubleQuote ∨ ∃ field ∈ first :: rest, c ∈ field := fun hc =>
      Or.inr ((mem_writtenField hc).imp_right fun hfield => ⟨first, List.mem_cons_self, hfield⟩)
    cases rest with
    | nil => exact hfirst h
    | cons second others =>
      rw [writtenFields_cons_cons, List.mem_append, List.mem_cons] at h
      rcases h with hc | hcomma | hrest
      · exact hfirst hc
      · exact Or.inl hcomma
      · rcases ih hrest with hcomma | hmark | ⟨field, hfield, hc⟩
        · exact Or.inl hcomma
        · exact Or.inr (Or.inl hmark)
        · exact Or.inr (Or.inr ⟨field, List.mem_cons_of_mem first hfield, hc⟩)

/-- A line holds commas, marks and what its fields hold. -/
theorem mem_line {c : Point} {record : List (List Point)} (h : c ∈ line record) :
    c = .char ',' ∨ c = .char Text.doubleQuote ∨ ∃ field ∈ record, c ∈ field := by
  unfold line at h
  split at h
  · have hmarks : marked [] = [.char Text.doubleQuote, .char Text.doubleQuote] := rfl
    rw [hmarks] at h
    exact Or.inr (Or.inl (by simpa using h))
  · exact mem_writtenFields h

theorem mem_writtenField_of_mem {c : Point} {field : List Point} (h : c ∈ field) :
    c ∈ writtenField field := by
  unfold writtenField marked
  split
  · exact List.mem_cons_of_mem _ (List.mem_append_left _ (mem_doubledMarks.mpr h))
  · exact h

theorem mem_writtenFields_of_mem {c : Point} {field : List Point} {fields : List (List Point)}
    (hfield : field ∈ fields) (h : c ∈ field) : c ∈ writtenFields fields := by
  induction fields with
  | nil => cases hfield
  | cons first rest ih =>
    cases rest with
    | nil =>
      rw [List.mem_singleton.mp hfield] at h
      exact mem_writtenField_of_mem h
    | cons second others =>
      rw [writtenFields_cons_cons, List.mem_append, List.mem_cons]
      rcases List.mem_cons.mp hfield with rfl | hrest
      · exact Or.inl (mem_writtenField_of_mem h)
      · exact Or.inr (Or.inr (ih hrest))

/-- What is neither a comma nor a mark stands in a line when it stands in one of the fields. -/
theorem mem_line_iff {c : Point} (hcomma : c ≠ .char ',') (hmark : c ≠ .char Text.doubleQuote)
    {record : List (List Point)} : c ∈ line record ↔ ∃ field ∈ record, c ∈ field := by
  constructor
  · exact fun h => ((mem_line h).resolve_left hcomma).resolve_left hmark
  · rintro ⟨field, hfield, hc⟩
    unfold line
    split
    · next honly =>
      rw [honly, List.mem_singleton] at hfield
      rw [hfield] at hc
      cases hc
    · exact mem_writtenFields_of_mem hfield hc

/-- Halves of surrogate pairs stand in the text of records where they stand in a field. -/
theorem half_mem_write {n : Fin 0x800} (records : List (List Text)) :
    .half n ∈ (write records).toList ↔
      ∃ record ∈ records, ∃ field ∈ record, .half n ∈ field.toList := by
  have hline (record : List Text) : .half n ∈ line (record.map Text.toList) ++ recordEnd ↔
      ∃ field ∈ record, .half n ∈ field.toList := by
    have hfields : .half n ∈ line (record.map Text.toList) ↔
        ∃ field ∈ record.map Text.toList, .half n ∈ field := mem_line_iff (by simp) (by simp)
    have hend : .half n ∉ recordEnd := by simp [recordEnd]
    rw [List.mem_append, or_iff_left hend, hfields]
    simp
  simp only [toList_write, lined, charsOf, List.flatMap_map, List.mem_flatMap, hline]

/-! ## What is read is what stands in the text -/

/-- What records hold, with a line feed at the end of each. -/
def contents (records : List (List (List Point))) : List Point :=
  records.flatMap fun record => record.flatten ++ [.char '\n']

namespace Reading

/-- What has been read so far. -/
def content (r : Reading) : List Point :=
  contents r.records ++ (r.draft.map Draft.record).toList.flatten.flatten

section Content

variable {p : Point → Bool} (r : Reading) (d : Draft) (c : Point)

theorem content_withDraft : (r.withDraft d).content = contents r.records ++ d.record.flatten := by
  rw [content, withDraft, Option.map_some, Option.toList_some, List.flatten_singleton]

theorem content_withRecord (record : List (List Point)) (returned : Bool) :
    (r.withRecord record returned).content =
      contents r.records ++ record.flatten ++ [.char '\n'] := by
  simp [content, withRecord, contents]

/-- What a character adds, or nothing where it only has a meaning; of the commas and marks nothing
is said. -/
theorem filter_content_outside (hcomma : p (.char ',') = false) (hreturn : c ≠ .char '\r') :
    (r.outside d c).returned = false ∧ (r.outside d c).content.filter p =
      (contents r.records ++ d.record.flatten ++ [c]).filter p := by
  rw [outside, if_neg hreturn]
  split
  · next hc =>
    refine ⟨rfl, ?_⟩
    rw [content_withDraft, hc]
    simp [Draft.next, Draft.record, hcomma]
  · split
    · next hc => exact ⟨rfl, by rw [content_withRecord, hc]⟩
    · refine ⟨rfl, ?_⟩
      rw [content_withDraft]
      simp [Draft.take, Draft.record]

theorem filter_content_within (hcomma : p (.char ',') = false)
    (hmark : p (.char Text.doubleQuote) = false) (hreturn : c ≠ .char '\r') :
    (r.within d c).returned = false ∧ (r.within d c).content.filter p =
      (contents r.records ++ d.record.flatten ++ [c]).filter p := by
  have houtside := filter_content_outside r d c hcomma hreturn
  have hmeaning : ∀ place, c = .char Text.doubleQuote →
      (r.withDraft ⟨d.finished, d.field, place⟩).content.filter p =
        (contents r.records ++ d.record.flatten ++ [c]).filter p := by
    intro place hc
    rw [content_withDraft, hc]
    simp [Draft.record, hmark]
  have htaken : (r.withDraft (d.take c .quoted)).content.filter p =
      (contents r.records ++ d.record.flatten ++ [c]).filter p := by
    rw [content_withDraft]
    simp [Draft.take, Draft.record]
  unfold within
  split
  · split
    · next hc => exact ⟨rfl, hmeaning .quoted hc⟩
    · exact houtside
  · exact houtside
  · split
    · next hc => exact ⟨rfl, hmeaning .closing hc⟩
    · exact ⟨rfl, htaken⟩
  · split
    · exact ⟨rfl, htaken⟩
    · exact houtside

/-- One step adds the character that it reads. -/
theorem filter_content_step (hcomma : p (.char ',') = false)
    (hmark : p (.char Text.doubleQuote) = false)
    (hreturn : c ≠ .char '\r') (hreturned : r.returned = false) :
    (r.step c).returned = false ∧
      (r.step c).content.filter p = (r.content ++ [c]).filter p := by
  obtain ⟨records, draft, returned⟩ := r
  subst hreturned
  cases draft with
  | some d =>
    obtain ⟨hlater, hcontent⟩ :=
      filter_content_within ⟨records, some d, false⟩ d c hcomma hmark hreturn
    refine ⟨hlater, hcontent.trans ?_⟩
    rw [content, Option.map_some, Option.toList_some, List.flatten_singleton]
  | none =>
    have hcontent : content ⟨records, none, false⟩ = contents records := by
      simp [content]
    have hstep : step ⟨records, none, false⟩ c = between ⟨records, none, false⟩ c := rfl
    rw [hcontent, hstep, between, if_neg hreturn, if_neg Bool.false_ne_true]
    split
    · next hc => exact ⟨rfl, by rw [content_withRecord, hc, List.flatten_nil, List.append_nil]⟩
    · obtain ⟨hlater, hcontent⟩ :=
        filter_content_within ⟨records, none, false⟩ .blank c hcomma hmark hreturn
      refine ⟨hlater, hcontent.trans ?_⟩
      simp [Draft.blank, Draft.record]

end Content

/-- A whole run adds the text that it reads. -/
theorem filter_content_foldl {p : Point → Bool} (hcomma : p (.char ',') = false)
    (hmark : p (.char Text.doubleQuote) = false) {text : List Point}
    (hreturn : Point.char '\r' ∉ text) {r : Reading}
    (hreturned : r.returned = false) :
    (text.foldl step r).content.filter p = (r.content ++ text).filter p := by
  induction text generalizing r with
  | nil => rw [List.append_nil, List.foldl_nil]
  | cons c rest ih =>
    rw [List.mem_cons, not_or] at hreturn
    obtain ⟨hlater, hcontent⟩ :=
      filter_content_step r c hcomma hmark (Ne.symm hreturn.1) hreturned
    rw [List.foldl_cons, ih hreturn.2 hlater, List.filter_append, hcontent, ← List.filter_append,
      List.append_assoc, List.singleton_append]

/-- At the end of the text a record that has begun gets its line feed. -/
theorem exists_contents_finish (r : Reading) :
    ∃ ending, (ending = [] ∨ ending = [.char '\n']) ∧ contents r.finish = r.content ++ ending := by
  obtain ⟨records, draft, returned⟩ := r
  cases draft with
  | none => exact ⟨[], Or.inl rfl, by simp [finish, content]⟩
  | some d => exact ⟨[.char '\n'], Or.inr rfl, by simp [finish, content, contents]⟩

end Reading

/-- Apart from commas and marks, the records of a text without carriage returns hold what the text
holds, and the last record gets a line feed when the text has none there. -/
theorem exists_contents_readChars {p : Point → Bool} (hcomma : p (.char ',') = false)
    (hmark : p (.char Text.doubleQuote) = false) {text : List Point}
    (hreturn : Point.char '\r' ∉ text) :
    ∃ ending, (ending = [] ∨ ending = [.char '\n']) ∧
      (contents (readChars text)).filter p = (text ++ ending).filter p := by
  obtain ⟨ending, hending, hcontents⟩ := exists_contents_finish (text.foldl step start)
  refine ⟨ending, hending, ?_⟩
  rw [readChars, hcontents, List.filter_append, filter_content_foldl hcomma hmark hreturn rfl,
    ← List.filter_append]
  rfl

/-- Behind the lines of records nothing is left open. -/
theorem filter_contents_lined {p : Point → Bool} (hcomma : p (.char ',') = false)
    (hmark : p (.char Text.doubleQuote) = false) {records : List (List (List Point))}
    (hreturn : Point.char '\r' ∉ lined [.char '\n'] records) :
    (contents records).filter p = (lined [.char '\n'] records).filter p := by
  have hcontent := filter_content_foldl hcomma hmark hreturn (r := start) rfl
  rw [start, foldl_step_lined (Or.inl rfl)] at hcontent
  simpa [content, contents] using hcontent

end ChartQuery.Csv
