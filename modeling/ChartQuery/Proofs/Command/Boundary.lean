/-
# How commands end

A command ends with success, or with the status of a failure after it reported what went wrong,
unless a page that it prints breaks down: pages are made behind the point up to which failures are
caught. `Presentable` says for each command which values its pages can print: those of a report as
well, whose words may hold half of a surrogate pair, which has no form in UTF-8. The command breaks
down on all others (`run_breaks_down_iff`), whatever the folder, the environment, the server and the
screen are.
-/

import ChartQuery.Command.Run
import ChartQuery.Proofs.Command.Page
import ChartQuery.Proofs.Query.Payload

namespace ChartQuery.Command

open Terminal

variable {world : World} {folder : Path} {once presentable : Prop} {outcome : Outcome}

/-! ## Reports -/

/-- What the words for the failures of a command begin with. -/
def openings : List String :=
  [loadingOpening, "Compilation error: ", "Execution error: ", "Invalid settings: "]

/-- What a command prints before it ends with the status of a failure: the words for the failure,
that it is not told where the server is, or which charts do not compile. -/
inductive IsReport (screen : Screen) (output : String) : Prop
  | failure {opening : String} {words : Text} (hopening : opening ∈ openings)
      (hprinted : message screen "red" opening words = ⟨output, none⟩)
  | nowhere
      (hprinted : said screen (Markup.styled "red"
        "No execution service url: use --base-url or VIZFORGE_BASE_URL") = ⟨output, none⟩)
  | complaints {complaints : List Text} (hsome : complaints ≠ [])
      (hprinted : complaintsPage screen complaints = ⟨output, none⟩)

/-- How a command ends: in success or with a report when everything can be printed, and else with
a breakdown, which leaves nothing on the screen if the command prints one page only. -/
inductive Ends (screen : Screen) (once presentable : Prop) : Outcome → Prop
  | succeeded {output : String} {requests : List Request} (h : presentable) :
      Ends screen once presentable ⟨success, output, none, requests⟩
  | reported {output : String} {requests : List Request} (h : presentable)
      (hreport : IsReport screen output) :
      Ends screen once presentable ⟨failed, output, none, requests⟩
  | brokeDown {output : String} {b : Breakdown} {requests : List Request} (h : ¬ presentable)
      (hnothing : once → output = "") :
      Ends screen once presentable ⟨failed, output, some b, requests⟩

namespace Ends

variable {screen : Screen} {page : Page}

theorem congr {other : Prop} (h : Ends screen once presentable outcome)
    (hiff : presentable ↔ other) : Ends screen once other outcome := by
  rwa [← propext hiff]

/-- A page that can be printed in some cases only. -/
theorem ofPage (h : page.breakdown = none ↔ presentable)
    (hnothing : once → page.breakdown ≠ none → page.text = "") (requests : List Request) :
    Ends screen once presentable (Outcome.ofPage success page requests) := by
  obtain ⟨text, breakdown⟩ := page
  cases breakdown with
  | none => exact .succeeded (h.mp rfl)
  | some b =>
    refine .brokeDown (fun hpresentable => ?_) fun honce => hnothing honce nofun
    cases h.mpr hpresentable

/-- A page that reports what went wrong, if it can be printed. -/
theorem ofReport (h : page.breakdown = none ↔ presentable)
    (hnothing : once → page.breakdown ≠ none → page.text = "")
    (hreport : ∀ output, page = ⟨output, none⟩ → IsReport screen output)
    (requests : List Request) :
    Ends screen once presentable (Outcome.ofPage failed page requests) := by
  obtain ⟨text, breakdown⟩ := page
  cases breakdown with
  | none => exact .reported (h.mp rfl) (hreport text rfl)
  | some b =>
    refine .brokeDown (fun hpresentable => ?_) fun honce => hnothing honce nofun
    cases h.mpr hpresentable

/-- A failure is reported when the words for it consist of characters. -/
theorem refused {opening : String} (hopening : opening ∈ openings) (words : Text)
    (requests : List Request) :
    Ends world.screen once (words.isWhole = true)
      (Outcome.refused world opening words requests) := by
  have hplain : ∀ text ∈ openings, Markup.isPlain (text : Text).toList = true :=
    List.all_eq_true.mp (by decide)
  exact .ofReport (breakdown_message Markup.isStyle_red (hplain opening hopening) words)
    (fun _ hbroken => Page.text_ofText hbroken)
    (fun _ hprinted => .failure hopening hprinted) requests

end Ends

/-- A step can be presented: the words for its failure consist of characters, or what it gives can
be presented. -/
def Reportable {ε α : Type} (words : ε → Text) (step : Except ε α) (next : α → Prop) : Prop :=
  match step with
  | .error e => (words e).isWhole = true
  | .ok a => next a

theorem Reportable.of_ok {ε α : Type} {words : ε → Text} {step : Except ε α} {next : α → Prop}
    {a : α} (h : step = .ok a) (hnext : next a) : Reportable words step next := by
  subst h
  exact hnext

/-! ## Charts of a folder -/

/-- The charts of a folder can be presented, or the failure to load them. -/
def World.CanPresent (world : World) (folder : Path) (presentable : Registry → Prop) : Prop :=
  Reportable LoadFailure.message (Registry.ofFolder world.files folder) presentable

theorem ends_withCharts {act : Registry → Outcome} {presentable : Registry → Prop}
    (h : ∀ registry, Ends world.screen once (presentable registry) (act registry)) :
    Ends world.screen once (world.CanPresent folder presentable)
      (withCharts world folder act) := by
  unfold withCharts World.CanPresent
  cases Registry.ofFolder world.files folder with
  | error e => exact .refused (by decide) e.message []
  | ok registry => exact h registry

/-- The same, or the environment has no settings, which can always be reported. -/
def World.CanPresentLibrary (world : World) (folder : Path) (presentable : Registry → Prop) :
    Prop :=
  (Settings.read world.environment []).isOk = true → world.CanPresent folder presentable

theorem ends_withLibrary {act : Registry → Outcome} {presentable : Registry → Prop}
    (h : ∀ registry, Ends world.screen once (presentable registry) (act registry)) :
    Ends world.screen once (world.CanPresentLibrary folder presentable)
      (withLibrary world folder act) := by
  unfold withLibrary World.CanPresentLibrary
  cases Settings.read world.environment [] with
  | error r =>
    have hends : Ends world.screen once _ (.refused world loadingOpening r.message []) :=
      .refused (by decide) r.message []
    exact hends.congr (iff_of_true (Text.isWhole_ofString _) nofun)
  | ok settings => exact (ends_withCharts h).congr ⟨fun hall _ => hall, fun hall => hall rfl⟩

/-! ## The commands -/

theorem text_listPage {screen : Screen} {summaries : List Summary}
    (h : (listPage screen summaries).breakdown ≠ none) : (listPage screen summaries).text = "" := by
  by_cases hempty : summaries.isEmpty = true
  · rw [listPage, if_pos hempty] at h ⊢
    exact Page.text_ofText h
  · rw [listPage, if_neg hempty] at h ⊢
    exact Page.text_ofText h

theorem ends_list (world : World) (folder : Path) :
    Ends world.screen True
      (world.CanPresentLibrary folder fun registry =>
        CanBeListed world.screen registry.summaries)
      (list world folder) :=
  ends_withLibrary fun registry =>
    .ofPage (breakdown_listPage registry.summaries) (fun _ => text_listPage) []

/-- A query can be printed: no place of a measure has too many digits, and its restrictions can be
printed, because it has none or the bounds of its ranges can be written. -/
def QueryIsPrintable (registry : Registry) (chart : Text) (options : CompileOptions)
    (c : Configuration) : Prop :=
  (∀ m ∈ c.mappings, Numeral.isWritable m.measureIndex = true) ∧ (c.columns = [] ∨
    ∀ v, registry.get? (some chart) = some v → WhereClause.BoundsSatisfy (Json.Writable .listing)
      (Compile.shown v.buckets options).filters)

theorem queryIsPrintable_iff {registry : Registry} {chart : Text} {options : CompileOptions}
    {c : Configuration} (h : registry.compile (some chart) options = .ok c) :
    QueryIsPrintable registry chart options c ↔ Json.Writable .listing c.toPayload := by
  obtain ⟨v, hget, hchart⟩ := Registry.compile_eq_ok_iff.mp h
  rw [Compile.payload_writable_iff hchart, QueryIsPrintable, hget]
  simp

theorem ends_compile (world : World) (folder : Path) (chart : Text) (removeDateItems : Bool) :
    Ends world.screen True
      (world.CanPresentLibrary folder fun registry =>
        Reportable ChartFailure.message (registry.compile (some chart) ⟨removeDateItems⟩)
          (QueryIsPrintable registry chart ⟨removeDateItems⟩))
      (compile world folder chart removeDateItems) := by
  refine ends_withLibrary fun registry => ?_
  unfold Reportable
  cases hcompile : registry.compile (some chart) ⟨removeDateItems⟩ with
  | error e => exact .refused (by decide) e.message []
  | ok c =>
    exact .ofPage ((breakdown_queryPage c).trans (queryIsPrintable_iff hcompile).symm)
      (fun _ => Page.text_ofText) []

/-- The words for a number of charts are plain. -/
theorem isPlain_count (n : Nat) :
    Markup.isPlain
      ("Validated " ++ toString n ++ " visualizations successfully!" : Text).toList = true := by
  have hdigits : Markup.isPlain (toString n : Text).toList = true := by
    rw [Text.toList_ofString, Nat.toString_eq_repr, Nat.toList_repr]
    refine List.all_eq_true.mpr fun p hp => ?_
    obtain ⟨c, hc, rfl⟩ := List.mem_map.mp hp
    have hdigit : c.isDigit = true := Nat.isDigit_of_mem_toDigits (by decide) (by decide) hc
    rw [Bool.and_eq_true, bne_iff_ne, bne_iff_ne]
    constructor <;> rintro ⟨⟩ <;> exact absurd hdigit (by decide)
  have happend : ∀ a b : Text, Markup.isPlain (a ++ b).toList =
      (Markup.isPlain a.toList && Markup.isPlain b.toList) := by
    intro a b
    rw [Text.toList_append, Markup.isPlain, List.all_append]
    rfl
  rw [happend, happend, hdigits]
  decide

theorem breakdown_complaintsPage (screen : Screen) (complaints : List Text) :
    (complaintsPage screen complaints).breakdown = none ↔
      ∀ complaint ∈ complaints, complaint.isWhole = true := by
  have hcomplaint (complaint : Text) :
      (said screen ("  - " ++ Markup.escaped complaint)).breakdown = none ↔
        complaint.isWhole = true :=
    breakdown_said (Markup.shows_escaped (by decide) complaint)
  rw [complaintsPage, Page.breakdown_sequence, List.forall_mem_cons, List.forall_mem_map]
  simp only [hcomplaint]
  exact and_iff_right (breakdown_notice Markup.isStyle_red (by decide))

/-- All complaints are printed, up to the first that cannot be. -/
theorem ends_validate (world : World) (folder : Path) :
    Ends world.screen False
      (world.CanPresentLibrary folder fun registry =>
        ∀ complaint ∈ registry.complaints, complaint.isWhole = true)
      (validate world folder) := by
  refine ends_withLibrary fun registry => ?_
  cases registry.complaints with
  | nil =>
    have hcount : (said world.screen _).breakdown = none ↔ _ := breakdown_said
      (Markup.shows_notice Markup.isStyle_green (isPlain_count registry.names.length))
    exact .ofPage (iff_of_true (hcount.mpr (by simp)) nofun) False.elim []
  | cons first rest =>
    exact .ofReport (breakdown_complaintsPage world.screen (first :: rest)) False.elim
      (fun _ hprinted => .complaints (List.cons_ne_nil first rest) hprinted) []

/-- Whatever a server sends, a result in the library holds JSON values only. -/
theorem holdsJson_of_registry {registry : Registry} {server : Replies} {base : Text}
    {name : Option Text} {project : Text} {extended : Bool} {result : ResultSet}
    (h : (registry.execute server base name project extended).result = .ok result) :
    result.HoldsJson := by
  unfold Registry.execute at h
  split at h
  · cases h
  · split at h
    · cases h
    · next v _ url _ =>
      dsimp only at h
      split at h
      · next found hfound =>
        cases h
        exact Client.holdsJson_of_executeChart hfound
      · cases h

/-- The execution that the options ask for, at a server with a base url. -/
def executionOf (world : World) (options : ExecuteOptions) (base : Text) (registry : Registry) :
    Execution :=
  registry.execute world.server base (some options.chart) options.project options.extended

/-- What an execution under settings leads to can be presented. Without the base url of a server
nothing is executed. -/
def World.CanExecute (world : World) (folder : Path) (options : ExecuteOptions)
    (settings : Settings) : Prop :=
  settings.baseUrl ≠ "" → world.CanPresent folder fun registry =>
    Reportable ChartFailure.message (executionOf world options settings.baseUrl registry).result
      fun result => result.isEmpty = true ∨ IsPrintable world.screen options.output result

theorem ends_executeWith (world : World) (folder : Path) (options : ExecuteOptions)
    (settings : Settings) :
    Ends world.screen False (world.CanExecute folder options settings)
      (executeWith world folder options settings) := by
  unfold executeWith World.CanExecute
  split
  · next hnowhere =>
    have hempty := (Text.isEmpty_iff _).mp hnowhere
    exact .ofReport (iff_of_true (breakdown_notice Markup.isStyle_red (by decide))
      fun hsome => absurd hempty hsome) False.elim (fun _ hprinted => .nowhere hprinted) []
  · next hsomewhere =>
    have hsome : settings.baseUrl ≠ "" := fun h => hsomewhere ((Text.isEmpty_iff _).mpr h)
    rw [forall_prop_of_true hsome]
    refine ends_withCharts fun registry => ?_
    unfold executionOf Reportable
    dsimp only
    generalize hexecution : registry.execute world.server settings.baseUrl (some options.chart)
      options.project options.extended = execution
    cases hresult : execution.result with
    | error e => exact .refused (by decide) e.message _
    | ok result =>
      have hjson : result.HoldsJson := holdsJson_of_registry (hexecution ▸ hresult)
      exact .ofPage (breakdown_resultPage options.output hjson) False.elim _

theorem ends_execute (world : World) (folder : Path) (options : ExecuteOptions) :
    Ends world.screen False
      (∀ settings, Settings.read world.environment (overrides options) = .ok settings →
        world.CanExecute folder options settings)
      (execute world folder options) := by
  unfold execute
  cases Settings.read world.environment (overrides options) with
  | error r =>
    have hends : Ends world.screen False _ (.refused world "Invalid settings: " r.message []) :=
      .refused (by decide) r.message []
    exact hends.congr (iff_of_true (Text.isWhole_ofString _) nofun)
  | ok settings => exact (ends_executeWith world folder options settings).congr (by simp)

/-- What a command prints can be printed. Loading, compiling and executing may fail, which is
reported, in words that have to consist of characters. -/
def Presentable (world : World) : Invocation → Prop
  | .help => True
  | .list folder =>
    world.CanPresentLibrary folder fun registry => CanBeListed world.screen registry.summaries
  | .compile folder chart removeDateItems =>
    world.CanPresentLibrary folder fun registry =>
      Reportable ChartFailure.message (registry.compile (some chart) ⟨removeDateItems⟩)
        (QueryIsPrintable registry chart ⟨removeDateItems⟩)
  | .validate folder =>
    world.CanPresentLibrary folder fun registry =>
      ∀ complaint ∈ registry.complaints, complaint.isWhole = true
  | .execute folder options =>
    ∀ settings, Settings.read world.environment (overrides options) = .ok settings →
      world.CanExecute folder options settings

/-- The command prints one page only, whatever comes of it. -/
def Invocation.PrintsOnce : Invocation → Prop
  | .validate _ => False
  | .execute _ _ => False
  | _ => True

theorem ends_perform (world : World) (invocation : Invocation) :
    Ends world.screen invocation.PrintsOnce (Presentable world invocation)
      (perform world invocation) := by
  cases invocation with
  | help => exact .succeeded trivial
  | list folder => exact ends_list world folder
  | compile folder chart removeDateItems => exact ends_compile world folder chart removeDateItems
  | validate folder => exact ends_validate world folder
  | execute folder options => exact ends_execute world folder options

/-- A folder with one chart, a server that answers every request with success, with the url of a
result or with a result whose only row is a number, and a screen of eighty cells. -/
def worldOf (chart : String) : World :=
  let server : Server := fun request => .response ⟨200,
    if request.method = .post then
      "\x7b\"executionResult\": \x7b\"tabularDataResult\": \"/result\"\x7d\x7d"
    else "\x7b\"tabularDataResult\": \x7b\"values\": [1]\x7d\x7d"⟩
  ⟨[], ⟨[⟨⟨false, ["charts", "sales.yaml"]⟩, .file (chart.toList.map fun c => .ofNat c.toNat)⟩]⟩,
    server, .ofWidth 80⟩

end ChartQuery.Command
