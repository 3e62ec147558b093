/-
# Executing a query

Two round trips give a result: a request that starts the execution and is answered with headers and
the url of the result, then one request for that url. Status 204 there means that the result is
empty. Before a chart is compiled, the formats of those measures are looked up that will have
generated metrics; all lookups are sent, in the order of the measures.
-/

import ChartQuery.Execution.Result
import ChartQuery.Execution.Server
import ChartQuery.Query.Compile

namespace ChartQuery.Client

/-- The path under which executions of a project are started. -/
def executionsPath (project : Text) : Text :=
  "/gdc/internal/projects/" ++ project ++ "/experimental/executions"

/-- The key of the result, in its plain or in its extended form. -/
def resultKey (extended : Bool) : Text :=
  if extended then "extendedTabularDataResult" else "tabularDataResult"

/-- The status of an empty result. -/
def emptyStatus : Nat := 204

/-- The parts of a payload that belong to a request, behind the columns. -/
def requestKeys : List Text := ["filters", "where", "orderBy", "definitions"]

/-- The field of an object. -/
def fieldOf? (key : Text) : Value → Option Value
  | .object fields => Value.field? key fields
  | _ => none

/-- The body that starts the execution of columns under a configuration. -/
def executionRequest (columns : List Text) (c : Configuration) : Value :=
  let parts := requestKeys.filterMap fun key => (fieldOf? key c.toPayload).map fun v => (key, v)
  .ofFields [("execution", .ofFields (("columns", .list (columns.map .text)) :: parts))]

/-- The value under a key of something that has to be an object with that key. -/
def require (key : Text) (v : Value) : Except ExecutionFailure Value :=
  match v with
  | .object fields =>
    match Value.field? key fields with
    | some found => .ok found
    | none => .error (.missingKey key)
  | _ => .error (.notAnObject v)

/-- The value under a key of something that has to be an object, or what to take instead. -/
def lookUp (key : Text) (fallback : Value) (v : Value) : Except ExecutionFailure Value :=
  match v with
  | .object fields => .ok ((Value.field? key fields).getD fallback)
  | _ => .error (.withoutFields v)

/-- The value, or an empty object in the place of an absent one. -/
def orEmpty (v : Value) : Value :=
  if v.isTruthy then v else .object []

/-- The items that something gives one after another. -/
def itemsOf (v : Value) : Except ExecutionFailure (List Value) :=
  match v.items? with
  | some xs => .ok xs
  | none => .error (.notIterable v)

/-- All headers that a server sent. -/
def readHeaders : List Value → Except ExecutionFailure (List Header)
  | [] => .ok []
  | v :: rest =>
    match (readHeader v).toExcept "Header" with
    | .error r => .error (.rejected r)
    | .ok h =>
      match readHeaders rest with
      | .error e => .error e
      | .ok others => .ok (h :: others)

/-- The headers and the url of the result that the answer to a started execution holds. -/
def startedExecution (mappings : List MetricMapping) (extended : Bool) (answer : Value) :
    Except ExecutionFailure (List Header × Value) := do
  let execution ← require "executionResult" answer
  let sent ← lookUp "headers" (.list []) execution
  let headers ← readHeaders (← itemsOf sent)
  let url ← require (resultKey extended) execution
  pure (Header.annotate mappings headers, url)

/-- Ask for the url that a server handed out. -/
def poll (server : Replies) (base : Url) (url : Value) : Dialogue Response :=
  match url with
  | .text s => server.get base s
  | other => .fail (.urlNotText other)

/-- A result from the rows and warnings that a server sent. -/
def resultOf (headers : List Header) (rows warnings : Value) : Except ExecutionFailure ResultSet :=
  let built : Schema.Reading ResultSet :=
    (fun rs ws => ⟨true, headers, rs, ws, false⟩)
      <$> ((Schema.readList Schema.readAny rows).below (.key "raw_data"))
      <*> ((Schema.readList Schema.readAny warnings).below (.key "warnings"))
  match built.toExcept "ExecutionResult" with
  | .error r => .error (.rejected r)
  | .ok result => .ok result

/-- The result that a response holds. -/
def fetchedResult (headers : List Header) (extended : Bool) (r : Response) :
    Except ExecutionFailure ResultSet :=
  if r.status = emptyStatus then .ok ⟨true, headers, [], [], true⟩
  else do
    let body ← r.value
    let result ← lookUp (resultKey extended) (.object []) (orEmpty body)
    let rows ← lookUp "values" (.list []) result
    let warnings ← lookUp "warnings" (.list []) result
    resultOf headers rows warnings

/-- Fetch the result of an execution from where the response to its start says. -/
def fetch (server : Replies) (base : Url) (mappings : List MetricMapping) (extended : Bool)
    (started : Response) : Dialogue ResultSet := do
  let answer ← Dialogue.ofExcept started.value
  let (headers, url) ← Dialogue.ofExcept (startedExecution mappings extended answer)
  let fetched ← poll server base url
  Dialogue.ofExcept (fetchedResult headers extended fetched)

/-- Execute columns under a configuration. -/
def execute (server : Replies) (base : Url) (project : Text) (columns : List Text)
    (c : Configuration) (extended : Bool) : Dialogue ResultSet := do
  let started ← server.post base (executionsPath project) (executionRequest columns c)
  fetch server base c.mappings extended started

/-- The format of a measure is looked up: it will have generated metrics. -/
def needsFormat (m : Measure) : Bool :=
  m.showsPrevious || !m.filters.isEmpty

/-- The format that an object of the project states, whatever it is. -/
def statedFormat (object : Value) : Except ExecutionFailure Value := do
  let metric ← lookUp "metric" .null (orEmpty object)
  let content ← lookUp "content" (.object []) (orEmpty metric)
  lookUp "format" .null content

/-- A stated format, which need not be text. -/
def formatOf (v : Value) : NumberFormat :=
  match v with
  | .text s => .text s
  | other => .foreign other

/-- The measure with the format that its object states, if it states one. -/
def withStatedFormat (m : Measure) (stated : Value) : Measure :=
  if stated.isTruthy then { m with format := some (formatOf stated) } else m

/-- The measure with the format that the response to its lookup states. -/
def resolvedBy (m : Measure) (r : Response) : Except ExecutionFailure Measure := do
  let object ← r.value
  let stated ← statedFormat object
  pure (withStatedFormat m stated)

/-- Look up the format of a measure, if it needs one. -/
def resolveFormat (server : Replies) (base : Url) (m : Measure) : Dialogue Measure :=
  if needsFormat m then do
    let r ← server.get base m.objectUri
    Dialogue.ofExcept (resolvedBy m r)
  else .done m

/-- Look up the formats of all measures that need one. -/
def resolveFormats (server : Replies) (base : Url) (v : Visualization) :
    Dialogue Visualization := do
  let measures ← Dialogue.together (v.buckets.measures.map (resolveFormat server base))
  pure (v.withMeasures measures)

/-- Compile a chart. -/
def compile (v : Visualization) : Except ExecutionFailure Configuration :=
  match Compile.chart v .standard with
  | .error e => .error (.compile e)
  | .ok c => .ok c

/-- Look up the formats of a chart's measures, compile it and execute the query. -/
def executeChart (server : Replies) (base : Url) (project : Text) (v : Visualization)
    (extended : Bool) : Dialogue ResultSet := do
  let resolved ← resolveFormats server base v
  let c ← Dialogue.ofExcept (compile resolved)
  execute server base project c.columns c extended

end ChartQuery.Client
