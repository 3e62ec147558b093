/-
# The requests of an execution

Executing a chart sends its requests in three phases, whatever the server replies and however often
it changes its mind: the lookups of formats, all of them; one request that starts the execution; one
request for the result. `ExecutesChart`, `Executes` and `Fetches` say when a phase takes place and
what it sends, in terms of the replies, and `executeChart_runs` that there is no other way. A
request whose url cannot be formed is never sent, nor is a body that has no JSON text or one that
has no form in UTF-8. Nothing is claimed about what the rows of a result mean, nor about how long an
exchange takes.
-/

import Mathlib.Data.List.Forall2
import ChartQuery.Proofs.Execution.Dialogue
import ChartQuery.Proofs.Query.Payload

namespace ChartQuery.Client

variable {server : Replies} {base : Url} {sent : Nat} {m m' : Measure}

/-! ## Lookups -/

/-- The request that looks up the format of a measure, if the measure needs one and its url can be
formed. -/
def lookup? (base : Url) (m : Measure) : Option Request :=
  if needsFormat m then (requestUrl base m.objectUri).toOption.map fun url => ⟨.get, url, none⟩
  else none

/-- The lookups for measures, in order. -/
def lookups (base : Url) (measures : List Measure) : List Request :=
  measures.filterMap (lookup? base)

/-- What a measure becomes: itself when it needs no format, or with the format that the object
states with which its lookup is answered. -/
inductive Resolved (server : Replies) (base : Url) (sent : Nat) (m : Measure) : Measure → Prop
  | unneeded (hplain : needsFormat m = false) : Resolved server base sent m m
  | found {url : Url} {r : Response} {object stated : Value} (hneeded : needsFormat m = true)
      (hurl : requestUrl base m.objectUri = .ok url)
      (hreply : (server sent ⟨.get, url, none⟩).reply = .response r) (hsuccess : r.isSuccess = true)
      (hobject : r.value = .ok object) (hstated : statedFormat object = .ok stated) :
      Resolved server base sent m (withStatedFormat m stated)

/-- What measures become one by one; a lookup is numbered by the lookups that were sent before. -/
inductive AllResolved (server : Replies) (base : Url) : Nat → List Measure → List Measure → Prop
  | nil (sent : Nat) : AllResolved server base sent [] []
  | cons {sent : Nat} {m m' : Measure} {measures resolved : List Measure}
      (hfirst : Resolved server base sent m m')
      (hrest : AllResolved server base (sent + (lookup? base m).toList.length) measures resolved) :
      AllResolved server base sent (m :: measures) (m' :: resolved)

theorem resolvedBy_eq_ok_iff {r : Response} :
    resolvedBy m r = .ok m' ↔
      ∃ object stated, r.value = .ok object ∧ statedFormat object = .ok stated ∧
        m' = withStatedFormat m stated := by
  simp only [resolvedBy, ExecutionFailure.bind_eq_ok_iff]
  constructor
  · rintro ⟨object, hobject, stated, hstated, hmade⟩
    cases hmade
    exact ⟨object, stated, hobject, hstated, rfl⟩
  · rintro ⟨object, stated, hobject, hstated, rfl⟩
    exact ⟨object, hobject, stated, hstated, rfl⟩

/-- A lookup that is needed resolves the measure when it was sent and answered with success. -/
theorem resolved_iff_of_needed (hneeded : needsFormat m = true) :
    Resolved server base sent m m' ↔
      ∃ url r, requestUrl base m.objectUri = .ok url ∧
        (server sent ⟨.get, url, none⟩).reply.accepted ⟨.get, url, none⟩ = .ok r ∧
        resolvedBy m r = .ok m' := by
  simp only [Reply.accepted_eq_ok_iff, resolvedBy_eq_ok_iff]
  constructor
  · rintro (hplain | ⟨-, hurl, hreply, hsuccess, hobject, hstated⟩)
    · rw [hneeded] at hplain
      cases hplain
    · exact ⟨_, _, hurl, ⟨hreply, hsuccess⟩, _, _, hobject, hstated, rfl⟩
  · rintro ⟨url, r, hurl, ⟨hreply, hsuccess⟩, object, stated, hobject, hstated, rfl⟩
    exact .found hneeded hurl hreply hsuccess hobject hstated

/-! What looking up the format of one measure does, in the three cases that there are. -/

theorem resolveFormat_of_plain (server : Replies) (base : Url) (sent : Nat)
    (hplain : needsFormat m = false) :
    (resolveFormat server base m).after sent = ⟨[], .ok m, 0⟩ := by
  rw [resolveFormat, if_neg (by simp [hplain])]
  rfl

theorem resolveFormat_of_error (server : Replies) (sent : Nat) {e : ExecutionFailure}
    (hneeded : needsFormat m = true) (hurl : requestUrl base m.objectUri = .error e) :
    (resolveFormat server base m).after sent = ⟨[], .error e, 0⟩ := by
  have hget : (server.get base m.objectUri).after sent = ⟨[], .error e, 0⟩ :=
    Replies.get_of_error server sent hurl
  rw [resolveFormat, if_pos hneeded, Dialogue.bind_of_error (by rw [hget]), hget]

theorem resolveFormat_of_ok (server : Replies) (sent : Nat) {url : Url}
    (hneeded : needsFormat m = true) (hurl : requestUrl base m.objectUri = .ok url) :
    (resolveFormat server base m).after sent =
      ⟨[⟨.get, url, none⟩],
        (server sent ⟨.get, url, none⟩).reply.accepted ⟨.get, url, none⟩ >>= resolvedBy m,
        (server sent ⟨.get, url, none⟩).delay⟩ := by
  rw [resolveFormat, if_pos hneeded, Replies.get_of_ok server sent hurl]

/-- One lookup: it is sent when it can be, and it gives the measure that the reply resolves. -/
theorem resolveFormat_run (server : Replies) (base : Url) (m : Measure) (sent : Nat) :
    ((resolveFormat server base m).after sent).requests = (lookup? base m).toList ∧
      ∀ m', ((resolveFormat server base m).after sent).result = .ok m' ↔
        Resolved server base sent m m' := by
  rw [lookup?]
  cases hneeded : needsFormat m with
  | false =>
    rw [resolveFormat_of_plain server base sent hneeded]
    refine ⟨rfl, fun m' => ?_⟩
    constructor
    · intro h
      cases h
      exact .unneeded hneeded
    · rintro (hplain | ⟨hneeds, -⟩)
      · rfl
      · cases hneeded.symm.trans hneeds
  | true =>
    simp only [resolved_iff_of_needed hneeded]
    cases hurl : requestUrl base m.objectUri with
    | error e =>
      rw [resolveFormat_of_error server sent hneeded hurl]
      exact ⟨rfl, by simp⟩
    | ok url =>
      rw [resolveFormat_of_ok server sent hneeded hurl]
      refine ⟨rfl, fun m' => ?_⟩
      rw [ExecutionFailure.bind_eq_ok_iff]
      simp

theorem lookups_cons (base : Url) (m : Measure) (rest : List Measure) :
    lookups base (m :: rest) = (lookup? base m).toList ++ lookups base rest := by
  cases hlookup : lookup? base m <;> simp [lookups, hlookup]

/-- All lookups: each is sent, whatever comes of the others, and only together they give anything.
-/
theorem together_run (server : Replies) (base : Url) (measures : List Measure) (sent : Nat) :
    ((Dialogue.together (measures.map (resolveFormat server base))).after sent).requests =
        lookups base measures ∧
      ∀ resolved,
        ((Dialogue.together (measures.map (resolveFormat server base))).after sent).result =
          .ok resolved ↔ AllResolved server base sent measures resolved := by
  -- the replies to later lookups depend on how many were sent before them
  induction measures generalizing sent with
  | nil =>
    refine ⟨rfl, fun resolved => ?_⟩
    show Except.ok [] = Except.ok resolved ↔ _
    constructor
    · rintro h
      cases h
      exact .nil sent
    · rintro ⟨⟩
      rfl
  | cons m rest ih =>
    obtain ⟨hrequests, hresult⟩ := resolveFormat_run server base m sent
    obtain ⟨hothers, hrest⟩ := ih (sent + (lookup? base m).toList.length)
    rw [List.map_cons, Dialogue.after_together_cons, hrequests]
    refine ⟨?_, fun resolved => ?_⟩
    · rw [Exchange.requests_beside, hrequests, hothers, lookups_cons]
    · simp only [Exchange.beside_result_eq_ok_iff, hresult, hrest]
      constructor
      · rintro ⟨m', others, hfirst, hothers, rfl⟩
        exact .cons hfirst hothers
      · rintro (- | ⟨hfirst, hothers⟩)
        exact ⟨_, _, hfirst, hothers, rfl⟩

/-- Looking up the formats of a chart is looking up those of its measures. -/
theorem resolveFormats_after (server : Replies) (base : Url) (v : Visualization) (sent : Nat) :
    (resolveFormats server base v).after sent =
      ⟨lookups base v.buckets.measures,
        ((Dialogue.together (v.buckets.measures.map (resolveFormat server base))).after
          sent).result.map v.withMeasures,
        ((Dialogue.together (v.buckets.measures.map (resolveFormat server base))).after
          sent).ended⟩ := by
  rw [← (together_run server base v.buckets.measures sent).1]
  exact Dialogue.bind_done v.withMeasures

theorem resolveFormats_run (server : Replies) (base : Url) (v : Visualization) (sent : Nat) :
    ((resolveFormats server base v).after sent).requests = lookups base v.buckets.measures ∧
      ∀ v', ((resolveFormats server base v).after sent).result = .ok v' ↔
        ∃ resolved, AllResolved server base sent v.buckets.measures resolved ∧
          v' = v.withMeasures resolved := by
  rw [resolveFormats_after]
  refine ⟨rfl, fun v' => ?_⟩
  simp only [ExecutionFailure.map_eq_ok_iff, (together_run server base _ sent).2]

/-! ## The start and the result -/

/-- The request that starts the execution of a query can be sent. -/
structure Startable (base : Url) (project : Text) (c : Configuration) (post : Request) :
    Prop where
  method : post.method = .post
  url : requestUrl base (executionsPath project) = .ok post.url
  body : post.body = some (.ofFields [("execution", .ofFields [
    ("columns", .list (c.columns.map .text)), ("where", .object c.restrictions),
    ("orderBy", .list (c.orderBy.map OrderEntry.toValue)),
    ("definitions", .list (c.definitions.map fun d => Definition.wrapped d.toPayload))])])
  writable : ∀ body ∈ post.body, Json.Writable .compact body
  whole : ∀ body ∈ post.body, body.isWhole = true

/-- An answer hands out a result at a place: under its one key there is an object with headers that
can be read, if it has any, and with the place under the key of the result. -/
inductive HandsOut (mappings : List MetricMapping) (extended : Bool) :
    Value → List Header → Value → Prop
  | intro {fields execution : Fields} {items : List Value} {headers : List Header} {place : Value}
      (hexecution : Value.field? "executionResult" fields = some (.object execution))
      (hitems : ((Value.field? "headers" execution).getD (.list [])).items? = some items)
      (hheaders : List.Forall₂ (fun v h => readHeader v = .accepted h) items headers)
      (hplace : Value.field? (resultKey extended) execution = some place) :
      HandsOut mappings extended (.object fields) (Header.annotate mappings headers) place

theorem require_eq_ok_iff {key : Text} {v found : Value} :
    require key v = .ok found ↔
      ∃ fields, v = .object fields ∧ Value.field? key fields = some found := by
  cases v with
  | object fields =>
    rw [require]
    cases hfield : Value.field? key fields with
    | none => simp [hfield]
    | some other => simp [hfield]
  | _ => simp [require]

theorem lookUp_eq_ok_iff {key : Text} {fallback v found : Value} :
    lookUp key fallback v = .ok found ↔
      ∃ fields, v = .object fields ∧ (Value.field? key fields).getD fallback = found := by
  cases v <;> simp [lookUp]

theorem itemsOf_eq_ok_iff {v : Value} {items : List Value} :
    itemsOf v = .ok items ↔ v.items? = some items := by
  rw [itemsOf]
  cases v.items? <;> simp

theorem readHeaders_eq_ok_iff (items : List Value) (headers : List Header) :
    readHeaders items = .ok headers ↔
      List.Forall₂ (fun v h => readHeader v = .accepted h) items headers := by
  induction items generalizing headers with
  | nil =>
    rw [readHeaders, Except.ok.injEq, List.forall₂_nil_left_iff]
    exact eq_comm
  | cons v rest ih =>
    rw [readHeaders]
    cases hread : readHeader v with
    | rejected issues => simp [Schema.Reading.toExcept, List.forall₂_cons_left_iff, hread]
    | accepted h =>
      cases hrest : readHeaders rest with
      | error e =>
        simp [Schema.Reading.toExcept, List.forall₂_cons_left_iff, hread, ← ih, hrest]
      | ok others =>
        simp [Schema.Reading.toExcept, List.forall₂_cons_left_iff, hread, ← ih, hrest, eq_comm]

theorem startedExecution_eq_ok_iff {mappings : List MetricMapping} {extended : Bool}
    {answer place : Value} {headers : List Header} :
    startedExecution mappings extended answer = .ok (headers, place) ↔
      HandsOut mappings extended answer headers place := by
  simp only [startedExecution, ExecutionFailure.bind_eq_ok_iff, require_eq_ok_iff, lookUp_eq_ok_iff,
    itemsOf_eq_ok_iff, readHeaders_eq_ok_iff]
  constructor
  · rintro ⟨_, ⟨fields, rfl, hexecution⟩, _, ⟨execution, rfl, rfl⟩, items, hitems, read, hheaders,
      found, ⟨_, heq, hplace⟩, hpair⟩
    cases heq
    cases hpair
    exact .intro hexecution hitems hheaders hplace
  · rintro ⟨hexecution, hitems, hheaders, hplace⟩
    exact ⟨_, ⟨_, rfl, hexecution⟩, _, ⟨_, rfl, rfl⟩, _, hitems, _, hheaders, _,
      ⟨_, rfl, hplace⟩, rfl⟩

/-- The response to a started execution leads to a request for the result: it hands out a text from
which a url can be formed. -/
inductive LeadsTo (base : Url) (mappings : List MetricMapping) (extended : Bool) (r : Response) :
    List Header → Request → Prop
  | intro {answer : Value} {headers : List Header} {text : Text} {url : Url}
      (hanswer : r.value = .ok answer)
      (hplace : HandsOut mappings extended answer headers (.text text))
      (hurl : requestUrl base text = .ok url) :
      LeadsTo base mappings extended r headers ⟨.get, url, none⟩

/-- The result that is fetched by a request, with the headers that were handed out before. -/
def Fetched (server : Replies) (sent : Nat) (extended : Bool) (headers : List Header)
    (request : Request) (result : ResultSet) : Prop :=
  ∃ r, (server sent request).reply = .response r ∧ r.isSuccess = true ∧
    fetchedResult headers extended r = .ok result

/-- Nothing is asked for at a place that is no text or from which no url can be formed. -/
theorem poll_of_unreachable (server : Replies) {place : Value} (sent : Nat)
    (h : ¬ ∃ text url, place = .text text ∧ requestUrl base text = .ok url) :
    ∃ e, (poll server base place).after sent = ⟨[], .error e, 0⟩ := by
  cases place with
  | text text =>
    cases hurl : requestUrl base text with
    | error e => exact ⟨e, Replies.get_of_error server sent hurl⟩
    | ok url => exact absurd ⟨text, url, rfl, hurl⟩ h
  | _ => exact ⟨_, rfl⟩

/-- What fetching a result does: nothing is sent when the response leads nowhere; else one request,
and the result is what its reply holds, if it holds one. -/
inductive Fetches (server : Replies) (base : Url) (mappings : List MetricMapping) (extended : Bool)
    (r : Response) (sent : Nat) : Exchange ResultSet → Prop
  | nowhere (e : ExecutionFailure) {time : Nat}
      (hnowhere : ∀ headers request, ¬ LeadsTo base mappings extended r headers request) :
      Fetches server base mappings extended r sent ⟨[], .error e, time⟩
  | found {headers : List Header} {request : Request} {result : Except ExecutionFailure ResultSet}
      {time : Nat} (hleads : LeadsTo base mappings extended r headers request)
      (hresult : ∀ set, result = .ok set ↔ Fetched server sent extended headers request set) :
      Fetches server base mappings extended r sent ⟨[request], result, time⟩

theorem fetch_run (server : Replies) (base : Url) (mappings : List MetricMapping) (extended : Bool)
    (r : Response) (sent : Nat) :
    Fetches server base mappings extended r sent
      ((fetch server base mappings extended r).after sent) := by
  unfold fetch
  cases hvalue : r.value with
  | error e =>
    refine .nowhere e ?_
    rintro headers request ⟨hanswer, -, -⟩
    cases hvalue.symm.trans hanswer
  | ok answer =>
    rw [Dialogue.ofExcept_ok_bind]
    cases hstarted : startedExecution mappings extended answer with
    | error e =>
      refine .nowhere e ?_
      rintro headers request ⟨hanswer, hplace, -⟩
      cases hvalue.symm.trans hanswer
      cases hstarted.symm.trans (startedExecution_eq_ok_iff.mpr hplace)
    | ok found =>
      obtain ⟨headers, place⟩ := found
      rw [Dialogue.ofExcept_ok_bind]
      dsimp only
      by_cases hreachable : ∃ text url, place = .text text ∧ requestUrl base text = .ok url
      · obtain ⟨text, url, rfl, hurl⟩ := hreachable
        rw [poll, Replies.get_of_ok server sent hurl]
        refine .found (.intro hvalue (startedExecution_eq_ok_iff.mp hstarted) hurl) fun set => ?_
        rw [ExecutionFailure.bind_eq_ok_iff]
        simp only [Reply.accepted_eq_ok_iff, Fetched, and_assoc]
      · obtain ⟨e, hpoll⟩ := poll_of_unreachable server sent hreachable
        rw [Dialogue.bind_of_error (by rw [hpoll]), hpoll]
        refine .nowhere e ?_
        rintro headers' request ⟨hanswer, hplace, hurl⟩
        cases hvalue.symm.trans hanswer
        cases hstarted.symm.trans (startedExecution_eq_ok_iff.mpr hplace)
        exact hreachable ⟨_, _, rfl, hurl⟩

/-- What executing a query does: nothing is sent when the request that starts it cannot be; else
this request, and when it is answered with success the result is fetched. -/
inductive Executes (server : Replies) (base : Url) (project : Text) (extended : Bool)
    (c : Configuration) (sent : Nat) : Exchange ResultSet → Prop
  | notStarted (e : ExecutionFailure) {time : Nat}
      (hunsendable : ∀ post, ¬ Startable base project c post) :
      Executes server base project extended c sent ⟨[], .error e, time⟩
  | refused {post : Request} (e : ExecutionFailure) {time : Nat}
      (hpost : Startable base project c post)
      (hrefused : ∀ r, (server sent post).reply = .response r → r.isSuccess = false) :
      Executes server base project extended c sent ⟨[post], .error e, time⟩
  | started {post : Request} {r : Response} {others : Exchange ResultSet} {time : Nat}
      (hpost : Startable base project c post) (hreply : (server sent post).reply = .response r)
      (hsuccess : r.isSuccess = true)
      (hothers : Fetches server base c.mappings extended r (sent + 1) others) :
      Executes server base project extended c sent ⟨post :: others.requests, others.result, time⟩

theorem startable_iff {project : Text} {c : Configuration} (hc : c.contextFilters = none)
    (post : Request) :
    Startable base project c post ↔
      ∃ url, requestUrl base (executionsPath project) = .ok url ∧
        (∃ text, sentText (executionRequest c.columns c) = .ok text) ∧
        post = ⟨.post, url, some (executionRequest c.columns c)⟩ := by
  obtain ⟨method, url, body⟩ := post
  rw [exists_sentText_iff, executionRequest_eq hc]
  constructor
  · rintro ⟨rfl, hurl, rfl, hwritable, hwhole⟩
    exact ⟨url, hurl, ⟨hwritable _ rfl, hwhole _ rfl⟩, rfl⟩
  · rintro ⟨other, hurl, ⟨hwritable, hwhole⟩, hpost⟩
    cases hpost
    refine ⟨rfl, hurl, rfl, fun body hbody => ?_, fun body hbody => ?_⟩ <;> cases hbody
    · exact hwritable
    · exact hwhole

/-- A query without filters of its context is executed in this way. -/
theorem execute_run (server : Replies) (base : Url) (project : Text) (extended : Bool)
    {c : Configuration} (hc : c.contextFilters = none) (sent : Nat) :
    Executes server base project extended c sent
      ((execute server base project c.columns c extended).after sent) := by
  unfold execute
  by_cases hsendable : ∃ url written, requestUrl base (executionsPath project) = .ok url ∧
      sentText (executionRequest c.columns c) = .ok written
  · obtain ⟨url, written, hurl, hwritten⟩ := hsendable
    have hsent := Replies.post_of_ok server sent hurl hwritten
    set post : Request := ⟨.post, url, some (executionRequest c.columns c)⟩
    have hpost : Startable base project c post :=
      (startable_iff hc post).mpr ⟨url, hurl, ⟨written, hwritten⟩, rfl⟩
    cases haccepted : (server sent post).reply.accepted post with
    | error e =>
      rw [Dialogue.bind_of_error (by rw [hsent, haccepted]), hsent]
      refine .refused e hpost fun r hreply => ?_
      rw [hreply] at haccepted
      exact Bool.eq_false_iff.mpr fun hsuccess =>
        nomatch haccepted.symm.trans (Reply.accepted_eq_ok_iff.mpr ⟨rfl, hsuccess⟩)
    | ok r =>
      obtain ⟨hreply, hsuccess⟩ := Reply.accepted_eq_ok_iff.mp haccepted
      rw [Dialogue.bind_of_ok (by rw [hsent, haccepted]), hsent]
      exact .started hpost hreply hsuccess
        (fetch_run server base c.mappings extended r (sent + 1))
  · have hunsent : ∃ e, (server.post base (executionsPath project)
        (executionRequest c.columns c)).after sent = ⟨[], .error e, 0⟩ :=
      Replies.post_of_error server sent fun url written hurl hwritten =>
        hsendable ⟨url, written, hurl, hwritten⟩
    obtain ⟨e, hunsent⟩ := hunsent
    rw [Dialogue.bind_of_error (by rw [hunsent]), hunsent]
    refine .notStarted e fun post hpost => ?_
    obtain ⟨url, hurl, ⟨written, hwritten⟩, -⟩ := (startable_iff hc post).mp hpost
    exact hsendable ⟨url, written, hurl, hwritten⟩

/-! ## The whole exchange -/

/-- The query of a chart with the formats that its lookups are answered with, when all of them are
and the chart can be compiled. -/
def Prepares (server : Replies) (base : Url) (v : Visualization) (c : Configuration) : Prop :=
  ∃ resolved, AllResolved server base 0 v.buckets.measures resolved ∧
    Compile.chart (v.withMeasures resolved) .standard = .ok c

/-- What executing a chart does: all lookups are sent, and only these when they do not lead to a
query; else the query is executed behind them. -/
inductive ExecutesChart (server : Replies) (base : Url) (project : Text) (v : Visualization)
    (extended : Bool) : Exchange ResultSet → Prop
  | notPrepared (e : ExecutionFailure) {time : Nat} (hnone : ∀ c, ¬ Prepares server base v c) :
      ExecutesChart server base project v extended
        ⟨lookups base v.buckets.measures, .error e, time⟩
  | prepared {c : Configuration} {others : Exchange ResultSet} {time : Nat}
      (hc : Prepares server base v c)
      (hothers : Executes server base project extended c (lookups base v.buckets.measures).length
        others) :
      ExecutesChart server base project v extended
        ⟨lookups base v.buckets.measures ++ others.requests, others.result, time⟩

theorem prepares_iff {v : Visualization} {c : Configuration} :
    Prepares server base v c ↔
      ∃ v', ((resolveFormats server base v).after 0).result = .ok v' ∧
        Compile.chart v' .standard = .ok c := by
  simp only [(resolveFormats_run server base v 0).2]
  constructor
  · rintro ⟨resolved, hall, hc⟩
    exact ⟨_, ⟨resolved, hall, rfl⟩, hc⟩
  · rintro ⟨_, ⟨resolved, hall, rfl⟩, hc⟩
    exact ⟨resolved, hall, hc⟩

/-- Whatever the replies are, executing a chart sends all lookups first, then starts at most one
execution and fetches at most one result, each exactly when what came before allows it. -/
theorem executeChart_runs (server : Replies) (base : Url) (project : Text) (v : Visualization)
    (extended : Bool) :
    ExecutesChart server base project v extended
      (executeChart server base project v extended).run := by
  have hlookups := (resolveFormats_run server base v 0).1
  rw [Dialogue.run]
  unfold executeChart
  cases hformats : ((resolveFormats server base v).after 0).result with
  | error e =>
    rw [Dialogue.bind_of_error hformats, hlookups]
    refine .notPrepared e fun c hc => ?_
    obtain ⟨v', hv', -⟩ := prepares_iff.mp hc
    cases hformats.symm.trans hv'
  | ok v' =>
    rw [Dialogue.bind_of_ok hformats, hlookups, Nat.zero_add]
    cases hchart : Compile.chart v' .standard with
    | error reason =>
      have hcompile : compile v' = .error (.compile reason) := by
        rw [compile, hchart]
      rw [hcompile, Dialogue.ofExcept_error_bind, List.append_nil]
      refine .notPrepared _ fun c hc => ?_
      obtain ⟨_, hv', hchart'⟩ := prepares_iff.mp hc
      cases hformats.symm.trans hv'
      cases hchart.symm.trans hchart'
    | ok c =>
      have hcompile : compile v' = .ok c := by
        rw [compile, hchart]
      rw [hcompile, Dialogue.ofExcept_ok_bind]
      exact .prepared (prepares_iff.mpr ⟨v', hformats, hchart⟩)
        (execute_run server base project extended (Compile.restrictions_eq hchart).1 _)

/-- A measure whose uri holds a character that no url may hold is not looked up, though it needs a
format: nothing is sent at all. -/
theorem executeChart_asks_nothing :
    let m : Measure :=
      ⟨"/gdc/md/p1/obj/5\x01", "metric", none, some "Revenue", none, none, true, false, []⟩
    let v : Visualization := ⟨none, some "table", ⟨[m], [], []⟩⟩
    let server : Server := fun _ => .response ⟨404, "null"⟩
    readVisualization (.ofFields [("type", .text "table"), ("buckets", .ofFields [("measures",
        .list [.ofFields [("measure", .ofFields [("objectUri", .text m.objectUri),
          ("type", .text m.kind), ("title", .text "Revenue"), ("showPoP", .bool true)])]])])]) =
        .accepted v ∧
      ∃ base, baseUrl "https://secure.example.com" = .ok base ∧ needsFormat m = true ∧
        (executeChart server base "p1" v false).run.requests = [] := by
  intro m v server
  let base : Url := ⟨"https", "secure.example.com", "", none, none⟩
  have hbase : baseUrl "https://secure.example.com" = .ok base :=
    Compile.eq_ok_of_toOption (by decide +kernel)
  have hsilent : (executeChart server base "p1" v false).run.requests.isEmpty = true := by
    decide +kernel
  exact ⟨rfl, base, hbase, by decide, List.isEmpty_iff.mp hsilent⟩

end ChartQuery.Client
