/-
# What a command prints

Messages, the list of charts, a compiled query and the rows of a result, as texts for a screen of
some width. Printing can break down where a value has no printed form, or where a text has none in
UTF-8; such a breakdown is a value of its own, because no message reports it. What was printed
before stays on the screen.
-/

import ChartQuery.Csv.Writer
import ChartQuery.Library.Registry
import ChartQuery.Terminal.Markup
import ChartQuery.Terminal.Table

namespace ChartQuery.Command

open Terminal

/-- Why a command breaks down without a message. -/
inductive Breakdown where
  | markup (fault : Markup.Fault)
  | unwritable (reason : Json.Unwritable)
  | unencodable (halves : Unencodable)
  | unnamed
  | notIterable (v : Value)
  deriving Repr

/-- What has been printed, and why printing broke down, if it did. -/
structure Page where
  text : String
  breakdown : Option Breakdown
  deriving Repr

namespace Page

/-- Nothing is printed before the breakdown. -/
def broken (b : Breakdown) : Page := ⟨"", some b⟩

/-- A text that is printed at once, which needs a form in UTF-8. -/
def printed (text : Text) : Page :=
  match text.string with
  | .ok s => ⟨s, none⟩
  | .error halves => broken (.unencodable halves)

/-- A text that is printed once it has been made. -/
def ofText : Except Breakdown Text → Page
  | .ok text => printed text
  | .error b => broken b

/-- One page after another, unless the first breaks down. -/
def followedBy (first second : Page) : Page :=
  match first.breakdown with
  | some _ => first
  | none => ⟨first.text ++ second.text, second.breakdown⟩

/-- Pages one after another, up to the first that breaks down. -/
def sequence (pages : List Page) : Page :=
  pages.foldr followedBy ⟨"", none⟩

end Page

/-- The words that marked-up text shows. -/
def wordsOf (screen : Screen) (markup : Text) : Except Breakdown Text :=
  match Markup.rendered screen markup with
  | .ok text => .ok text
  | .error fault => .error (.markup fault)

/-- A line or several of marked-up text. -/
def said (screen : Screen) (markup : Text) : Page :=
  .ofText do pure (shown screen.width (← wordsOf screen markup) ++ "\n")

/-- A message in a colour: fixed words and words that are shown as they are. -/
def message (screen : Screen) (colour opening : String) (words : Text) : Page :=
  said screen (Markup.styled colour (opening ++ Markup.escaped words))

/-- The row of a chart in the list of charts. The kind of a chart may be marked up. -/
def summaryRow (screen : Screen) (s : Summary) : Except Breakdown (List Text) :=
  match s.name with
  | none => .error .unnamed
  | some name => do
    let shownName ← wordsOf screen (Markup.escaped name)
    let kind ← wordsOf screen (match s.kind with
      | some kind => if kind.isEmpty then "-" else kind
      | none => "-")
    pure [shownName, kind, toString s.measures, toString s.categories, toString s.filters]

/-- The columns of the list of charts. -/
def summaryColumns : List Column := [
  ⟨"Name", .left⟩, ⟨"Type", .left⟩, ⟨"Measures", .right⟩, ⟨"Categories", .right⟩,
  ⟨"Filters", .right⟩]

/-- The table of charts. -/
def listText (screen : Screen) (summaries : List Summary) : Except Breakdown Text := do
  let rows ← summaries.mapM (summaryRow screen)
  pure (Table.text screen.width ⟨"Visualizations", summaryColumns, rows⟩)

/-- The list of charts. -/
def listPage (screen : Screen) (summaries : List Summary) : Page :=
  if summaries.isEmpty then said screen (Markup.styled "yellow" "No visualizations defined")
  else .ofText (listText screen summaries)

/-- A value as JSON. -/
def jsonOf (layout : Json.Layout) (v : Value) : Except Breakdown Text :=
  match Json.write layout v with
  | .ok text => .ok text
  | .error reason => .error (.unwritable reason)

/-- A compiled query. -/
def queryPage (screen : Screen) (c : Configuration) : Page :=
  .ofText do pure (shown screen.width (← jsonOf .listing c.toPayload) ++ "\n")

/-- The heading of a column: the first of its names that is not empty, and a mark for the previous
period. -/
def headingOf (h : Header) : Text :=
  let named := [h.title, h.id, h.uri].reduceOption.filter fun name => !name.isEmpty
  named.headD "?" ++ (if h.isPrevious == some true then " (PoP)" else "")

/-- The text of a cell. An object is shown by its name, else by its id. -/
def cellText (v : Value) : Text :=
  match v with
  | .object fields =>
    (((Value.field? "name" fields).or (Value.field? "id" fields)).getD (.text "")).display
  | _ => v.display

/-- The texts of a row. -/
def rowTexts (row : Value) : Except Breakdown (List Text) :=
  match row.items? with
  | some items => .ok (items.map cellText)
  | none => .error (.notIterable row)

/-- The records of a result: the headings, then the rows. -/
def records (r : ResultSet) : Except Breakdown (List (List Text)) := do
  let rows ← r.rows.mapM rowTexts
  pure (r.headers.map headingOf :: rows)

/-- A result as CSV. Only pictographs are filled in, brackets have no meaning. -/
def csvText (screen : Screen) (r : ResultSet) : Except Breakdown Text := do
  let text := Csv.write (← records r)
  pure (shown screen.width (Text.ofList (pictured text.toList)))

/-- A result as JSON, which is never broken into lines of the screen's width. -/
def jsonText (r : ResultSet) : Except Breakdown Text := do
  pure ((← jsonOf .report r.toValue) ++ "\n")

/-- The table of a result. -/
def resultTable (screen : Screen) (r : ResultSet) : Except Breakdown Table := do
  let headings ← r.headers.mapM fun h => wordsOf screen (Markup.escaped (headingOf h))
  let rows ← r.rows.mapM fun row => do
    (← rowTexts row).mapM fun text => wordsOf screen (Markup.escaped text)
  pure ⟨"Execution Results (" ++ toString r.rows.length ++ " rows)",
    headings.map fun heading => ⟨heading, .left⟩, rows⟩

/-- A result as a table. -/
def tableText (screen : Screen) (r : ResultSet) : Except Breakdown Text := do
  pure ((← resultTable screen r).text screen.width)

/-- A result in the form of some name; every unknown name stands for the table. -/
def resultText (screen : Screen) (form : Text) (r : ResultSet) : Except Breakdown Text :=
  if form = "json" then jsonText r
  else if form = "csv" then csvText screen r
  else tableText screen r

/-- A result with its warnings. -/
def resultPage (screen : Screen) (form : Text) (r : ResultSet) : Page :=
  if r.isEmpty then said screen (Markup.styled "yellow" "Result is empty")
  else
    .sequence (.ofText (resultText screen form r) :: r.warnings.map fun warning =>
      message screen "yellow" "Warning: " warning.display)

end ChartQuery.Command
