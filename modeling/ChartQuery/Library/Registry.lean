/-
# The library of charts

Charts by name in the order in which they were added. Loading adds charts one by one and stops at
the first failure; the charts added until then stay (`Loaded`). A name is never given to two charts.
-/

import ChartQuery.Execution.Client
import ChartQuery.Library.Load

namespace ChartQuery

/-- Charts by name. -/
structure Registry where
  entries : List (Option Text × Visualization)
  deriving Repr, Inhabited

/-- What loading leaves behind: the library, and the failure at which it stopped. -/
structure Loaded where
  registry : Registry
  failure : Option LoadFailure
  deriving Repr

/-- What a list shows of a chart. -/
structure Summary where
  name : Option Text
  kind : Option Text
  measures : Nat
  categories : Nat
  filters : Nat
  deriving DecidableEq, Repr

/-- Why a chart of the library gives no query or no result. -/
inductive ChartFailure where
  | unknown (name : Option Text)
  | compile (failure : CompileFailure)
  | execution (failure : ExecutionFailure)
  deriving Repr

/-- The words for a name that no chart has. -/
def unknownWords (name : Option Text) : Text :=
  "Unknown visualization: " ++ shownName name

/-- The words for a failure. A missing name is reported in quotation marks. -/
def ChartFailure.message : ChartFailure → Text
  | .unknown name => Text.quoted (unknownWords name)
  | .compile failure => failure.message
  | .execution failure => failure.message

/-- An execution: the requests that were sent and what came of it. -/
structure Execution where
  requests : List Request
  result : Except ChartFailure ResultSet

namespace Registry

/-- A library without charts. -/
def empty : Registry := ⟨[]⟩

/-- The names of the charts in order. -/
def names (r : Registry) : List (Option Text) :=
  r.entries.map (·.1)

/-- The chart of a name. -/
def get? (r : Registry) (name : Option Text) : Option Visualization :=
  (r.entries.find? (·.1 == name)).map (·.2)

/-- The chart of a name, or the failure that there is none. -/
def get (r : Registry) (name : Option Text) : Except ChartFailure Visualization :=
  match r.get? name with
  | some v => .ok v
  | none => .error (.unknown name)

/-- The library with one more chart under its own name. -/
def add (r : Registry) (v : Visualization) : Except LoadFailure Registry :=
  if r.names.contains v.name then .error (.duplicate v.name)
  else .ok ⟨r.entries ++ [(v.name, v)]⟩

/-- Add charts one after another up to the first failure. -/
def addEach (r : Registry) : List (Except LoadFailure Visualization) → Loaded
  | [] => ⟨r, none⟩
  | .error e :: _ => ⟨r, some e⟩
  | .ok v :: rest =>
    match r.add v with
    | .error e => ⟨r, some e⟩
    | .ok next => addEach next rest

/-- Add the charts of files. -/
def addSources (r : Registry) (sources : List Source) : Loaded :=
  r.addEach (sources.flatMap Source.charts)

/-- Add the charts of all files below a folder. -/
def addFolder (r : Registry) (tree : FileTree) (path : Path) : Loaded :=
  match tree.sourcesIn path with
  | .error e => ⟨r, some e⟩
  | .ok sources => r.addSources sources

/-- The library of a folder. -/
def ofFolder (tree : FileTree) (path : Path) : Except LoadFailure Registry :=
  let loaded := empty.addFolder tree path
  match loaded.failure with
  | some e => .error e
  | none => .ok loaded.registry

/-- What a list shows of all charts. -/
def summaries (r : Registry) : List Summary :=
  r.entries.map fun (name, v) =>
    ⟨name, v.kind, v.buckets.measures.length, v.buckets.categories.length,
      v.buckets.filters.length⟩

/-- The query for the chart of a name. -/
def compile (r : Registry) (name : Option Text) (options : CompileOptions) :
    Except ChartFailure Configuration :=
  match r.get name with
  | .error e => .error e
  | .ok v =>
    match Compile.chart v options with
    | .error e => .error (.compile e)
    | .ok c => .ok c

/-- The reports on all charts that do not compile. -/
def complaints (r : Registry) : List Text :=
  r.entries.filterMap fun (name, v) =>
    match Compile.chart v .standard with
    | .ok _ => none
    | .error e => some ("Visualization '" ++ shownName name ++ "': " ++ e.message)

/-- Execute the chart of a name against a server with a base url. -/
def execute (r : Registry) (server : Replies) (base : Text) (name : Option Text)
    (project : Text) (extended : Bool) : Execution :=
  match r.get name with
  | .error e => ⟨[], .error e⟩
  | .ok v =>
    match baseUrl base with
    | .error e => ⟨[], .error (.execution e)⟩
    | .ok url =>
      let x := (Client.executeChart server url project v extended).run
      ⟨x.requests,
        match x.result with
        | .ok result => .ok result
        | .error e => .error (.execution e)⟩

end Registry

end ChartQuery
