/-
# Talking to a server

A dialogue is a computation that sends requests and goes on with the replies; an exchange is what it
did, the requests that it sent, in order, what came of it, and when. Every request is sent once, and
a dialogue stops at its first failure; the requests sent until then stay part of the exchange.
Replies take their time, which decides which of several dialogues side by side fails first.
-/

import ChartQuery.Execution.Failure
import ChartQuery.Execution.Url
import ChartQuery.Json.Reader

namespace ChartQuery

/-- The ways to ask. -/
inductive Method where
  | get
  | post
  deriving DecidableEq, Repr, Inhabited

/-- The word for a method. -/
def Method.word : Method → String
  | .get => "GET"
  | .post => "POST"

/-- A request as it is sent. -/
structure Request where
  method : Method
  url : Url
  body : Option Value
  deriving Repr, Inhabited

/-- A response with its status and its body as text. -/
structure Response where
  status : Nat
  body : String
  deriving DecidableEq, Repr, Inhabited

/-- What comes back: a response, or the reason why there is none. -/
inductive Reply where
  | response (r : Response)
  | unreached (kind : String) (words : Text)
  deriving DecidableEq, Repr

/-- A reply with the time that passes until it is there. -/
structure Answer where
  reply : Reply
  delay : Nat
  deriving DecidableEq, Repr

/-- A server that answers equal requests alike, and all of them at once. -/
abbrev Server := Request → Reply

/-- The answers that requests get, by how many requests were sent before: the same request may be
answered in one way now and in another way later. -/
abbrev Replies := Nat → Request → Answer

instance : Coe Server Replies := ⟨fun server _ request => ⟨server request, 0⟩⟩

/-- What a computation did: the requests that it sent, in order, what came of it, and how long after
its start. -/
structure Exchange (α : Type) where
  requests : List Request
  result : Except ExecutionFailure α
  ended : Nat

/-- Two computations that start together. Both of them take place. Of two failures the one counts
that comes first in time, and of two that come at once that of the first computation. -/
def Exchange.beside {α : Type} (first : Exchange α) (others : Exchange (List α)) :
    Exchange (List α) :=
  let requests := first.requests ++ others.requests
  match first.result, others.result with
  | .ok a, .ok rest => ⟨requests, .ok (a :: rest), max first.ended others.ended⟩
  | .error e, .ok _ => ⟨requests, .error e, first.ended⟩
  | .ok _, .error e => ⟨requests, .error e, others.ended⟩
  | .error e, .error e' =>
    if first.ended ≤ others.ended then ⟨requests, .error e, first.ended⟩
    else ⟨requests, .error e', others.ended⟩

/-- A computation that sends requests. -/
structure Dialogue (α : Type) where
  /-- What it does after so many requests were sent. -/
  after : Nat → Exchange α

namespace Dialogue

variable {α β : Type}

/-- What a dialogue does when nothing was sent before it. -/
def run (d : Dialogue α) : Exchange α := d.after 0

instance : Coe (Dialogue α) (Exchange α) := ⟨run⟩

/-- What is known without asking. -/
def ofExcept (r : Except ExecutionFailure α) : Dialogue α := ⟨fun _ => ⟨[], r, 0⟩⟩

/-- A result without any request. -/
def done (a : α) : Dialogue α := ofExcept (.ok a)

/-- A failure without any request. -/
def fail (e : ExecutionFailure) : Dialogue α := ofExcept (.error e)

/-- One dialogue after another; the second takes place only when the first gave something. -/
def bind (d : Dialogue α) (next : α → Dialogue β) : Dialogue β where
  after sent :=
    let first := d.after sent
    match first.result with
    | .error e => ⟨first.requests, .error e, first.ended⟩
    | .ok a =>
      let second := (next a).after (sent + first.requests.length)
      ⟨first.requests ++ second.requests, second.result, first.ended + second.ended⟩

instance : Monad Dialogue where
  pure := done
  bind := bind

/-- Several dialogues side by side, none of which sends more than one request: they start in order
and all of them take place, whatever comes of them. The failure that comes first in time counts. -/
def together : List (Dialogue α) → Dialogue (List α)
  | [] => done []
  | d :: ds =>
    { after := fun sent =>
        let first := d.after sent
        first.beside ((together ds).after (sent + first.requests.length)) }

end Dialogue

/-- The response means success. -/
def Response.isSuccess (r : Response) : Bool :=
  decide (200 ≤ r.status ∧ r.status < 300)

/-- The body of a response as a value. -/
def Response.value (r : Response) : Except ExecutionFailure Value :=
  match Json.read r.body with
  | .ok v => .ok v
  | .error refusal =>
    match refusal.fault with
    | .oversizedNumber digits => .error (.oversizedNumber digits)
    | _ => .error (.notJson refusal.words)

/-- What a reply means to whoever sent the request. Every response but one of success is a
failure. -/
def Reply.accepted (request : Request) : Reply → Except ExecutionFailure Response
  | .unreached kind words => .error (.unreached kind words)
  | .response r => if r.isSuccess then .ok r else .error (.refused r.status request.url.text)

/-- Send a request. -/
def Replies.send (server : Replies) (request : Request) : Dialogue Response where
  after sent :=
    let answer := server sent request
    ⟨[request], answer.reply.accepted request, answer.delay⟩

/-- The base url of a server. -/
def baseUrl (text : Text) : Except ExecutionFailure Url :=
  match Url.readBase text with
  | .ok u => .ok u
  | .error e => .error (.badUrl e)

/-- The url of a request to a server with a base url. -/
def requestUrl (base : Url) (text : Text) : Except ExecutionFailure Url :=
  match base.resolve text with
  | .ok u => .ok u
  | .error e => .error (.badUrl e)

/-- Ask for what stands under a url. -/
def Replies.get (server : Replies) (base : Url) (text : Text) : Dialogue Response :=
  match requestUrl base text with
  | .error e => .fail e
  | .ok url => server.send ⟨.get, url, none⟩

/-- The JSON text of a value as it is sent; it has to have a form in UTF-8. -/
def sentText (body : Value) : Except ExecutionFailure String :=
  match Json.write .compact body with
  | .error reason => .error (.unsendable reason)
  | .ok text =>
    match text.string with
    | .error halves => .error (.unencodable halves)
    | .ok s => .ok s

/-- Send a value to a url; it has to have a JSON text that can be sent. -/
def Replies.post (server : Replies) (base : Url) (text : Text) (body : Value) :
    Dialogue Response :=
  match requestUrl base text with
  | .error e => .fail e
  | .ok url =>
    match sentText body with
    | .error e => .fail e
    | .ok _ => server.send ⟨.post, url, some body⟩

end ChartQuery
