/-
# Running a command

What comes of a command line: the status with which the program ends, what it prints, and the
requests that it sends. Everything that can go wrong while charts are loaded, compiled or executed
is reported and ends the program with status 1. Status 2 says that the command line itself is wrong.
-/

import ChartQuery.Command.Invocation
import ChartQuery.Command.Page
import ChartQuery.Settings

namespace ChartQuery.Command

open Terminal

/-- What a command leaves behind. -/
structure Outcome where
  exit : Nat
  output : String
  breakdown : Option Breakdown
  requests : List Request
  deriving Repr

/-- The world around a command: variables, files, a server and a screen. -/
structure World where
  environment : Environment
  files : FileTree
  server : Replies
  screen : Screen

/-- The status of success. -/
def success : Nat := 0

/-- The status of a reported failure, and of a breakdown. -/
def failed : Nat := 1

/-- The status of a wrong command line. -/
def misused : Nat := 2

/-- The outcome of a page. Whatever was printed before a breakdown stays on the screen. -/
def Outcome.ofPage (exit : Nat) (page : Page) (requests : List Request) : Outcome :=
  ⟨if page.breakdown.isSome then failed else exit, page.text, page.breakdown, requests⟩

/-- The outcome of a failure that is reported. -/
def Outcome.refused (world : World) (opening : String) (words : Text)
    (requests : List Request) : Outcome :=
  .ofPage failed (message world.screen "red" opening words) requests

/-- What the words for failed loading begin with. -/
def loadingOpening : String := "Error loading visualizations: "

/-- What is done with the charts of a folder, or the report that they do not load. -/
def withCharts (world : World) (folder : Path) (act : Registry → Outcome) : Outcome :=
  match Registry.ofFolder world.files folder with
  | .error e => .refused world loadingOpening e.message []
  | .ok registry => act registry

/-- What is done with the charts of a folder under the settings of the environment. -/
def withLibrary (world : World) (folder : Path) (act : Registry → Outcome) : Outcome :=
  match Settings.read world.environment [] with
  | .error r => .refused world loadingOpening r.message []
  | .ok _ => withCharts world folder act

/-- List charts. -/
def list (world : World) (folder : Path) : Outcome :=
  withLibrary world folder fun registry =>
    .ofPage success (listPage world.screen registry.summaries) []

/-- Compile a chart. -/
def compile (world : World) (folder : Path) (chart : Text) (removeDateItems : Bool) : Outcome :=
  withLibrary world folder fun registry =>
    match registry.compile (some chart) ⟨removeDateItems⟩ with
    | .error e => .refused world "Compilation error: " e.message []
    | .ok c => .ofPage success (queryPage world.screen c) []

/-- The report on charts that do not compile. -/
def complaintsPage (screen : Screen) (complaints : List Text) : Page :=
  .sequence (said screen (Markup.styled "red" "Validation failed:") ::
    complaints.map fun complaint => said screen ("  - " ++ Markup.escaped complaint))

/-- Validate charts. -/
def validate (world : World) (folder : Path) : Outcome :=
  withLibrary world folder fun registry =>
    match registry.complaints with
    | [] =>
      .ofPage success
        (said world.screen (Markup.styled "green"
          ("Validated " ++ toString registry.names.length ++ " visualizations successfully!"))) []
    | complaints => .ofPage failed (complaintsPage world.screen complaints) []

/-- The settings that the command line overrides. -/
def overrides (options : ExecuteOptions) : Fields :=
  (match options.baseUrl with
    | some url => [(.text "base_url", .text url)]
    | none => []) ++
  (match options.timeout with
    | some seconds => [(.text "timeout", .float seconds)]
    | none => [])

/-- Execute a chart under settings. -/
def executeWith (world : World) (folder : Path) (options : ExecuteOptions) (settings : Settings) :
    Outcome :=
  if settings.baseUrl.isEmpty then
    .ofPage failed
      (said world.screen (Markup.styled "red"
        "No execution service url: use --base-url or VIZFORGE_BASE_URL")) []
  else
    withCharts world folder fun registry =>
      let execution := registry.execute world.server settings.baseUrl (some options.chart)
        options.project options.extended
      match execution.result with
      | .error e => .refused world "Execution error: " e.message execution.requests
      | .ok result =>
        .ofPage success (resultPage world.screen options.output result) execution.requests

/-- Execute a chart. -/
def execute (world : World) (folder : Path) (options : ExecuteOptions) : Outcome :=
  match Settings.read world.environment (overrides options) with
  | .error r => .refused world "Invalid settings: " r.message []
  | .ok settings => executeWith world folder options settings

/-- Run what a command line asks for. -/
def perform (world : World) (invocation : Invocation) : Outcome :=
  match invocation with
  | .help => ⟨success, "", none, []⟩
  | .list folder => list world folder
  | .compile folder chart removeDateItems => compile world folder chart removeDateItems
  | .validate folder => validate world folder
  | .execute folder options => execute world folder options

/-- Run a command line. -/
def run (world : World) (args : List Text) : Outcome :=
  match Invocation.ofArguments args with
  | .error _ => ⟨misused, "", none, []⟩
  | .ok invocation => perform world invocation

end ChartQuery.Command
