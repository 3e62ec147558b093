/-
# Results as CSV

The CSV text of a result holds its headings and cells exactly: read as CSV it gives them back,
whatever they are. What a command prints is that text after it went over a screen, which fills in
pictographs, replaces tabs, drops some controls and breaks lines that are too wide. The printed page
gives the records back exactly when the screen has nothing to do (`PrintsExactly`): it cannot do
any of this without damage to a cell.
-/

import ChartQuery.Proofs.Command.Boundary
import ChartQuery.Proofs.Csv.Reader
import ChartQuery.Proofs.Terminal.Pictograph
import ChartQuery.Proofs.Terminal.Wrap

namespace ChartQuery.Command

open Terminal

variable {screen : Screen}

/-! ## The page of a result -/

/-- The records of a result whose rows are lists: the headings, then the texts of the cells. -/
def exported (r : ResultSet) (rows : List (List Value)) : List (List Text) :=
  r.headers.map headingOf :: rows.map fun row => row.map cellText

theorem mapM_rowTexts (rows : List (List Value)) :
    (rows.map Value.list).mapM rowTexts = .ok (rows.map fun row => row.map cellText) := by
  induction rows with
  | nil => rfl
  | cons row rest ih =>
    rw [List.map_cons, List.mapM_cons, ih]
    rfl

/-- The page that records make: their CSV text as the screen shows it. -/
def pageOf (screen : Screen) (records : List (List Text)) : Text :=
  shown screen.width (Text.ofList (pictured (Csv.write records).toList))

theorem resultText_csv {r : ResultSet} {rows : List (List Value)}
    (hrows : r.rows = rows.map .list) :
    resultText screen "csv" r = .ok (pageOf screen (exported r rows)) := by
  have hrecords : records r = .ok (exported r rows) := by
    rw [records, hrows, mapM_rowTexts]
    rfl
  rw [resultText, if_neg (by decide), if_pos rfl, csvText, hrecords]
  rfl

theorem resultPage_of_resultText {form page : Text} {r : ResultSet} (hfilled : r.isEmpty = false)
    (hwarnings : r.warnings = []) (hpage : resultText screen form r = .ok page) :
    resultPage screen form r = .printed page := by
  rw [resultPage, hfilled, if_neg Bool.false_ne_true, hpage, hwarnings, List.map_nil]
  show (Page.printed page).followedBy ⟨"", none⟩ = _
  unfold Page.followedBy
  split
  · rfl
  · next hprinted =>
    rw [String.append_empty, ← hprinted]

/-- The result that a command line gets for a chart, and the form in which it is to show it. -/
def executed? (world : World) (args : List Text) : Option (Text × ResultSet) :=
  match Invocation.ofArguments args with
  | .ok (.execute folder options) => do
    let settings ← (Settings.read world.environment (overrides options)).toOption
    let registry ← (Registry.ofFolder world.files folder).toOption
    let r ← (executionOf world options settings.baseUrl registry).result.toOption
    if settings.baseUrl.isEmpty then none else some (options.output, r)
  | _ => none

/-- What comes of such a command line is the page of the result. -/
theorem run_of_executed {world : World} {args : List Text} {form : Text} {r : ResultSet}
    (h : executed? world args = some (form, r)) :
    ∃ requests, run world args = .ofPage success (resultPage world.screen form r) requests := by
  unfold executed? at h
  split at h
  · next folder options hargs =>
    simp only [Option.bind_eq_bind, Option.bind_eq_some_iff] at h
    obtain ⟨settings, hsettings, registry, hregistry, found, hfound, hsome⟩ := h
    split at hsome
    · cases hsome
    · next hurl =>
      cases hsome
      have hresult := Compile.eq_ok_of_toOption hfound
      unfold executionOf at hresult
      rw [run, hargs]
      unfold perform
      dsimp only
      rw [execute, Compile.eq_ok_of_toOption hsettings]
      dsimp only
      rw [executeWith, if_neg hurl, withCharts, Compile.eq_ok_of_toOption hregistry]
      dsimp only
      rw [hresult]
      exact ⟨_, rfl⟩
  · cases h

/-! ## What the screen keeps -/

/-- Records whose CSV text the screen leaves as it is: no cell holds a tab or a control that is not
shown, no call of a pictograph is answered, and every line fits. -/
structure PrintsExactly (screen : Screen) (records : List (List Text)) : Prop where
  characters : ∀ record ∈ records, ∀ cell ∈ record, ∀ c ∈ cell.toList, IsShown c
  pictographs : pictured (Csv.write records).toList = (Csv.write records).toList
  lines : ∀ line ∈ Text.pieces (.char '\n') (visible (Csv.write records).toList),
    Fits screen.width line

theorem printsExactly_iff (records : List (List Text)) :
    PrintsExactly screen records ↔
      (records.all fun record => record.all fun cell => cell.toList.all fun c => IsShown c) = true ∧
        pictured (Csv.write records).toList = (Csv.write records).toList ∧
        ((Text.pieces (.char '\n') (visible (Csv.write records).toList)).all fun line =>
          Fits screen.width line) = true := by
  simp only [List.all_eq_true, decide_eq_true_eq]
  constructor
  · exact fun h => ⟨h.characters, h.pictographs, h.lines⟩
  · rintro ⟨hcharacters, hpictographs, hlines⟩
    exact ⟨hcharacters, hpictographs, hlines⟩

instance (records : List (List Text)) : Decidable (PrintsExactly screen records) :=
  decidable_of_iff' _ (printsExactly_iff records)

/-- The code points that count for the contents of records. -/
def isContent (c : Point) : Bool :=
  c != .char ',' && c != .char Text.doubleQuote

theorem isContent_of_isGap (c : Point) (h : c.meets Text.isGap = true) : isContent c = true := by
  have hcomma : Text.isGap ',' = false := by decide +kernel
  have hmark : Text.isGap Text.doubleQuote = false := by decide +kernel
  rw [isContent, Bool.and_eq_true, bne_iff_ne, bne_iff_ne]
  constructor <;> rintro rfl
  · cases hcomma.symm.trans h
  · cases hmark.symm.trans h

variable {records : List (List Text)}

/-- Every code point of a cell stands in the contents. -/
theorem mem_contents {record : List Text} (hrecord : record ∈ records) {cell : Text}
    (hcell : cell ∈ record) {c : Point} (hc : c ∈ cell.toList) :
    c ∈ Csv.contents (Csv.charsOf records) := by
  refine List.mem_flatMap.mpr ⟨record.map Text.toList, List.mem_map_of_mem hrecord, ?_⟩
  exact List.mem_append_left _ (List.mem_flatten_of_mem (List.mem_map_of_mem hcell) hc)

section Shown

variable (hcells : ∀ record ∈ records, ∀ cell ∈ record, ∀ c ∈ cell.toList, IsShown c)
include hcells

theorem isShown_of_mem_line {record : List (List Point)} (hrecord : record ∈ Csv.charsOf records)
    {c : Point} (hc : c ∈ Csv.line record) : IsShown c := by
  obtain ⟨cells, hmem, rfl⟩ := List.mem_map.mp hrecord
  rcases Csv.mem_line hc with rfl | rfl | ⟨field, hfield, hchar⟩
  · decide
  · decide
  · obtain ⟨cell, hcell, rfl⟩ := List.mem_map.mp hfield
    exact hcells cells hmem cell hcell c hchar

theorem isShown_of_mem_lined {c : Point} (hc : c ∈ Csv.lined [.char '\n'] (Csv.charsOf records)) :
    IsShown c := by
  obtain ⟨record, hrecord, hline⟩ := List.mem_flatMap.mp hc
  rcases List.mem_append.mp hline with hline | hfeed
  · exact isShown_of_mem_line hcells hrecord hline
  · rw [List.mem_singleton.mp hfeed]
    decide

/-- Of the text, only the carriage returns at the ends of the lines are not shown. -/
theorem visible_write :
    visible (Csv.write records).toList = Csv.lined [.char '\n'] (Csv.charsOf records) := by
  have hline : ∀ record ∈ Csv.charsOf records, visible (Csv.line record) = Csv.line record :=
    fun record hrecord => List.filter_eq_self.mpr fun c hc => by
      rw [(isShown_of_mem_line hcells hrecord hc).2, Bool.not_false]
  rw [Csv.toList_write, Csv.lined, Csv.lined, visible, List.filter_flatMap]
  refine List.flatMap_congr fun record hrecord => ?_
  rw [List.filter_append]
  exact congrArg (· ++ [.char '\n']) (hline record hrecord)

theorem tab_not_mem_visible : Point.char '\t' ∉ visible (Csv.write records).toList := by
  rw [visible_write hcells]
  exact fun hmem => (isShown_of_mem_lined hcells hmem).1 rfl

end Shown

/-- A page that the screen left as it was can be read. -/
theorem read_of_printsExactly (h : PrintsExactly screen records) :
    Csv.read (pageOf screen records) = records := by
  have hpage := toList_shown_of_fits (tab_not_mem_visible h.characters) h.lines
  rw [pageOf, h.pictographs, Text.ofList_toList, ← Text.ofList_toList (shown _ _), hpage,
    visible_write h.characters]
  exact Csv.read_ofList_lined (Or.inl rfl) records

/-! ## What a page tells from which the records are read -/

theorem return_not_mem_pageOf (screen : Screen) (records : List (List Text)) :
    Point.char '\r' ∉ (pageOf screen records).toList := fun hmem =>
  absurd (isShown_of_mem_shown screen.room _ hmem) (by decide)

/-- What stands in the cells came out of the screen. -/
theorem isShown_of_read (hread : Csv.read (pageOf screen records) = records) :
    ∀ record ∈ records, ∀ cell ∈ record, ∀ c ∈ cell.toList, IsShown c := by
  intro record hrecord cell hcell c hc
  obtain ⟨ending, hending, hcontents⟩ := Csv.exists_contents_readChars (p := isContent)
    (by decide) (by decide) (return_not_mem_pageOf screen records)
  rw [← Csv.charsOf_read, hread] at hcontents
  by_cases hcontent : isContent c = true
  · have hmem := List.mem_filter.mpr ⟨mem_contents hrecord hcell hc, hcontent⟩
    rw [hcontents, List.mem_filter, List.mem_append] at hmem
    rcases hmem.1 with hmem | hmem
    · exact isShown_of_mem_shown screen.room _ hmem
    · rcases hending with rfl | rfl
      · cases hmem
      · rw [List.mem_singleton.mp hmem]
        decide
  · have hmarks : c = .char ',' ∨ c = .char Text.doubleQuote := by
      simpa [isContent, or_iff_not_imp_left] using hcontent
    rcases hmarks with rfl | rfl <;> decide

/-- The page holds what the text holds, but for a last line feed that may be missing. -/
theorem exists_ending_of_read (hread : Csv.read (pageOf screen records) = records) :
    ∃ ending, (ending = [] ∨ ending = [Point.char '\n']) ∧
      (visible (Csv.write records).toList).filter isContent =
        ((pageOf screen records).toList ++ ending).filter isContent := by
  have hcells := isShown_of_read hread
  have hreturn : Point.char '\r' ∉ Csv.lined [.char '\n'] (Csv.charsOf records) := fun hmem =>
    absurd (isShown_of_mem_lined hcells hmem) (by decide)
  have hcontents : Csv.contents (Csv.charsOf records) =
      Csv.contents (Csv.readChars (pageOf screen records).toList) := by
    rw [← Csv.charsOf_read, hread]
  rw [visible_write hcells, ← Csv.filter_contents_lined (by decide) (by decide) hreturn, hcontents]
  exact Csv.exists_contents_readChars (by decide) (by decide) (return_not_mem_pageOf screen records)

theorem count_eq_of_filter_eq {a b : List Point} (h : a.filter isContent = b.filter isContent)
    {c : Point} (hc : isContent c = true) : a.count c = b.count c := by
  rw [← List.count_filter hc, h, List.count_filter hc]

theorem count_colon_visible (text : List Point) :
    (visible text).count (.char ':') = text.count (.char ':') :=
  List.count_filter (by decide)

/-- A call that is answered would lose colons, and nothing brings them back. -/
theorem pictured_of_read (hread : Csv.read (pageOf screen records) = records) :
    pictured (Csv.write records).toList = (Csv.write records).toList := by
  obtain ⟨ending, hending, hsame⟩ := exists_ending_of_read hread
  have hnone : ending.count (.char ':') = 0 := by rcases hending with rfl | rfl <;> decide
  have hcolons := count_eq_of_filter_eq hsame (c := .char ':') (by decide)
  have hfewer : (pageOf screen records).toList.count (.char ':') ≤
      (visible (pictured (Csv.write records).toList)).count (.char ':') :=
    count_shown_le screen.room _ (by decide) (by decide)
  rw [List.count_append, hnone, count_colon_visible] at hcolons
  rw [count_colon_visible] at hfewer
  exact pictured_eq_self_of_count (by omega)

/-- A line that is broken would bring a line feed, and nothing takes it back. -/
theorem fits_of_read (hread : Csv.read (pageOf screen records) = records) :
    ∀ line ∈ Text.pieces (.char '\n') (visible (Csv.write records).toList),
      Fits screen.width line := by
  have hcells := isShown_of_read hread
  have hpage : pageOf screen records = shown screen.width (Csv.write records) := by
    rw [pageOf, pictured_of_read hread, Text.ofList_toList]
  obtain ⟨ending, hending, hsame⟩ := exists_ending_of_read hread
  have hfeeds := count_eq_of_filter_eq hsame (c := .char '\n') (by decide)
  have hmore := count_feed_le_shown screen.room (Csv.write records)
  rw [hpage] at hsame hfeeds
  rw [List.count_append] at hfeeds
  have hnone : ending = [] := by
    rcases hending with rfl | rfl
    · rfl
    · rw [List.count_singleton_self] at hfeeds
      omega
  rw [hnone, List.append_nil] at hsame
  exact fits_of_shown screen.room _ (tab_not_mem_visible hcells) isContent_of_isGap (by omega)
    hsame.symm

theorem printsExactly_of_read (hread : Csv.read (pageOf screen records) = records) :
    PrintsExactly screen records :=
  ⟨isShown_of_read hread, pictured_of_read hread, fits_of_read hread⟩

/-! ## What a command prints -/

/-- A page has a form in UTF-8 when all its cells have one. -/
theorem isWhole_pageOf (screen : Screen) (records : List (List Text)) :
    (pageOf screen records).isWhole = true ↔
      ∀ record ∈ records, ∀ cell ∈ record, cell.isWhole = true := by
  rw [pageOf, isWhole_shown screen.room]
  simp only [Text.isWhole_iff_half_not_mem, half_mem_pictured,
    Csv.half_mem_write, not_exists, not_and]
  exact ⟨fun h record hrecord cell hcell n => h n record hrecord cell hcell,
    fun h n record hrecord cell hcell => h record hrecord cell hcell n⟩

/-- A result that is not empty, whose rows are lists and that comes without warnings always has a
page as CSV. A command that is to show the result so prints this page, unless a cell holds half of a
surrogate pair: then it breaks down and prints nothing. The CSV text behind the page reads back as
the headings and, row by row, the texts of the cells. The page itself does so exactly when the
screen leaves the text as it is. -/
theorem resultPage_csv_reads_back_iff (screen : Screen) (r : ResultSet) (rows : List (List Value))
    (hfilled : r.isEmpty = false) (hwarnings : r.warnings = []) (hrows : r.rows = rows.map .list) :
    ∃ page, resultPage screen "csv" r = .printed page ∧
      (page.isWhole = true ↔
        ∀ record ∈ exported r rows, ∀ cell ∈ record, cell.isWhole = true) ∧
      (∀ world args, world.screen = screen → executed? world args = some (("csv" : Text), r) →
        if page.isWhole then
          (run world args).breakdown = none ∧ (run world args).exit = success ∧
            (run world args).output = page
        else
          (run world args).breakdown ≠ none ∧ (run world args).exit = failed ∧
            (run world args).output = "") ∧
      Csv.read (Csv.write (exported r rows)) = exported r rows ∧
      (Csv.read page = exported r rows ↔ PrintsExactly screen (exported r rows)) := by
  have hpage : resultPage screen "csv" r = .printed (pageOf screen (exported r rows)) :=
    resultPage_of_resultText hfilled hwarnings (resultText_csv hrows)
  refine ⟨_, hpage, isWhole_pageOf screen _, fun world args hscreen hargs => ?_,
    Csv.read_write (exported r rows), printsExactly_of_read, read_of_printsExactly⟩
  subst hscreen
  obtain ⟨requests, hrun⟩ := run_of_executed hargs
  rw [hrun, hpage]
  split
  · next hwhole =>
    obtain ⟨s, hs⟩ := Text.isWhole_iff.mp hwhole
    rw [hs, Page.printed, Text.string_ofString]
    exact ⟨rfl, rfl, rfl⟩
  · next hbroken =>
    rw [Bool.not_eq_true, ← Text.exists_string_eq_error_iff] at hbroken
    obtain ⟨halves, hhalves⟩ := hbroken
    rw [Page.printed, hhalves]
    exact ⟨Option.some_ne_none _, rfl, rfl⟩

/-- Commas, marks and line breaks in labels and cells come through, and so does an empty row. -/
theorem resultPage_csv_reads_back_iff_marked :
    let header : Header := ⟨some "id", none, some "Revenue, net", none, none, some true, []⟩
    let r : ResultSet := ⟨true, [header],
      [.list [.text "say \"hi\""], .list [.text "two\nlines"], .list []], [], false⟩
    let screen : Screen := .ofWidth 80
    ∃ page, resultPage screen "csv" r = .printed page ∧ page.isWhole = true ∧
      Csv.read page =
        [[("Revenue, net (PoP)" : Text)], [("say \"hi\"" : Text)], [("two\nlines" : Text)],
          []] := by
  intro header r screen
  obtain ⟨page, hpage, hwhole, -, -, hiff⟩ := resultPage_csv_reads_back_iff screen r
    [[.text "say \"hi\""], [.text "two\nlines"], []] rfl rfl rfl
  have hrecords : exported r [[.text "say \"hi\""], [.text "two\nlines"], []] =
      [[("Revenue, net (PoP)" : Text)], [("say \"hi\"" : Text)], [("two\nlines" : Text)], []] := by
    decide +kernel
  rw [← hrecords]
  refine ⟨page, hpage, hwhole.mpr ?_, hiff.mpr (by decide +kernel)⟩
  have hcells : ((exported r [[.text "say \"hi\""], [.text "two\nlines"], []]).all fun record =>
      record.all Text.isWhole) = true := by decide +kernel
  simpa only [List.all_eq_true] using hcells

/-- A folder with one chart, and a server that answers with a result of one column. -/
def worldSending (values : String) : World :=
  let chart := "buckets: \x7bmeasures: [measure: \x7bobjectUri: /obj/7, type: metric\x7d]\x7d"
  let server : Server := fun request => .response ⟨200,
    if request.method = .post then
      "\x7b\"executionResult\": \x7b\"headers\": [\x7b\"id\": \"only\"\x7d], " ++
        "\"tabularDataResult\": \"/result\"\x7d\x7d"
    else "\x7b\"tabularDataResult\": \x7b\"values\": " ++ values ++ "\x7d\x7d"⟩
  ⟨[], ⟨[⟨⟨false, ["charts", "sales.yaml"]⟩, .file (chart.toList.map fun c => .ofNat c.toNat)⟩]⟩,
    server, .ofWidth 80⟩

/-- A command line that executes the chart and shows the result as CSV. -/
def exportArguments : List Text :=
  ["execute", "sales", "--dir", "charts", "--project", "p1", "--base-url",
    "https://secure.example.com", "--output", "csv"]

/-- The cells of rows that are lists. -/
def listed? : List Value → Option (List (List Value))
  | [] => some []
  | .list cells :: rest => (listed? rest).map (cells :: ·)
  | _ :: _ => none

theorem eq_map_of_listed? {values : List Value} {rows : List (List Value)}
    (h : listed? values = some rows) : values = rows.map .list := by
  induction values generalizing rows with
  | nil =>
    cases h
    rfl
  | cons value rest ih =>
    cases value with
    | list cells =>
      obtain ⟨others, hothers, rfl⟩ := Option.map_eq_some_iff.mp h
      rw [List.map_cons, ← ih hothers]
    | _ => cases h

/-- A tab in a cell comes out as blanks, so that another cell is read from what was printed. -/
theorem run_changes_tab :
    let world := worldSending "[[\"a\\tb\"]]"
    ∃ r rows, executed? world exportArguments = some (("csv" : Text), r) ∧
      r.isEmpty = false ∧ r.warnings = [] ∧ r.rows = rows.map .list ∧
      exported r rows = [[("only" : Text)], [("a\tb" : Text)]] ∧
      Csv.read (run world exportArguments).output =
        [[("only" : Text)], [("a       b" : Text)]] := by
  intro world
  have hcheck : ((executed? world exportArguments).bind fun found =>
      (listed? found.2.rows).map fun rows =>
        (found.1, !found.2.isEmpty && found.2.warnings.isEmpty, exported found.2 rows)) =
      some (("csv" : Text), true, [[("only" : Text)], [("a\tb" : Text)]]) := by
    decide +kernel
  simp only [Option.bind_eq_some_iff, Option.map_eq_some_iff, Prod.mk.injEq, Bool.and_eq_true,
    Bool.not_eq_true', List.isEmpty_iff] at hcheck
  obtain ⟨⟨form, r⟩, hfound, rows, hrows, hform, ⟨hfilled, hwarnings⟩, hrecords⟩ := hcheck
  dsimp only at hform
  subst hform
  exact ⟨r, rows, hfound, hfilled, hwarnings, eq_map_of_listed? hrows, hrecords, by decide +kernel⟩

end ChartQuery.Command
