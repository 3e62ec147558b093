/-
# Laws of dialogues

What one dialogue after another does is what the first did, and then what the second does when so
many requests were sent before it. Dialogues side by side send what each of them sends, and give
something when all of them do. A single request is sent when its url can be formed, and its body
written, and is accepted when it was answered with success.
-/

import ChartQuery.Execution.Server

namespace ChartQuery

theorem ExecutionFailure.bind_eq_ok_iff {α β : Type} {x : Except ExecutionFailure α}
    {next : α → Except ExecutionFailure β} {b : β} :
    (x >>= next) = .ok b ↔ ∃ a, x = .ok a ∧ next a = .ok b := by
  cases x with
  | error e => simp [bind, Except.bind]
  | ok a => simp [bind, Except.bind]

theorem ExecutionFailure.bind_eq_error_iff {α β : Type} {x : Except ExecutionFailure α}
    {next : α → Except ExecutionFailure β} {e : ExecutionFailure} :
    (x >>= next) = .error e ↔ x = .error e ∨ ∃ a, x = .ok a ∧ next a = .error e := by
  cases x with
  | error e => simp [bind, Except.bind]
  | ok a => simp [bind, Except.bind]

theorem ExecutionFailure.map_eq_ok_iff {α β : Type} {x : Except ExecutionFailure α} {f : α → β}
    {b : β} : x.map f = .ok b ↔ ∃ a, x = .ok a ∧ b = f a := by
  cases x <;> simp [Except.map, eq_comm]

theorem ExecutionFailure.map_eq_error_iff {α β : Type} {x : Except ExecutionFailure α} {f : α → β}
    {e : ExecutionFailure} : x.map f = .error e ↔ x = .error e := by
  cases x <;> simp [Except.map]

namespace Exchange

variable {α : Type} (first : Exchange α) (others : Exchange (List α))

@[simp]
theorem requests_beside : (first.beside others).requests = first.requests ++ others.requests := by
  unfold beside
  cases first.result <;> cases others.result
  case error.error e e' =>
    dsimp only
    split <;> rfl
  all_goals rfl

/-- Two computations that start together give something when both do. -/
theorem beside_result_eq_ok_iff {all : List α} :
    (first.beside others).result = .ok all ↔
      ∃ a rest, first.result = .ok a ∧ others.result = .ok rest ∧ all = a :: rest := by
  unfold beside
  cases first.result <;> cases others.result
  case error.error e e' =>
    dsimp only
    split <;> simp
  all_goals simp [eq_comm]

/-- Two computations that start together fail as the first does, unless the others fail earlier, and
as the others do when they fail and the first does not fail earlier or at the same time. -/
theorem beside_fails_iff {e : ExecutionFailure} {time : Nat} :
    (first.beside others).result = .error e ∧ (first.beside others).ended = time ↔
      (first.result = .error e ∧ first.ended = time ∧
          ∀ e', others.result = .error e' → time ≤ others.ended) ∨
        others.result = .error e ∧ others.ended = time ∧
          ∀ e', first.result = .error e' → time < first.ended := by
  unfold beside
  cases first.result <;> cases others.result
  case error.error e₁ e₂ =>
    dsimp only
    split <;> simp <;> grind
  all_goals simp

end Exchange

namespace Dialogue

variable {α β : Type} {d : Dialogue α} {next : α → Dialogue β} {sent : Nat}

theorem bind_of_error {e : ExecutionFailure} (h : (d.after sent).result = .error e) :
    (d >>= next).after sent = ⟨(d.after sent).requests, .error e, (d.after sent).ended⟩ := by
  show (d.bind next).after sent = _
  simp only [bind, h]

theorem bind_of_ok {a : α} (h : (d.after sent).result = .ok a) :
    (d >>= next).after sent =
      ⟨(d.after sent).requests ++ ((next a).after (sent + (d.after sent).requests.length)).requests,
        ((next a).after (sent + (d.after sent).requests.length)).result,
        (d.after sent).ended +
          ((next a).after (sent + (d.after sent).requests.length)).ended⟩ := by
  show (d.bind next).after sent = _
  simp only [bind, h]

/-- What two dialogues give is what the second gives after the first. -/
theorem bind_result_eq_ok_iff {b : β} :
    ((d >>= next).after sent).result = .ok b ↔
      ∃ a, (d.after sent).result = .ok a ∧
        ((next a).after (sent + (d.after sent).requests.length)).result = .ok b := by
  cases hfirst : (d.after sent).result with
  | error e => simp [bind_of_error hfirst]
  | ok a => simp [bind_of_ok hfirst]

/-- Doing something with what a dialogue gives sends nothing more and takes no time. -/
theorem bind_done (f : α → β) :
    (d >>= fun a => done (f a)).after sent =
      ⟨(d.after sent).requests, (d.after sent).result.map f, (d.after sent).ended⟩ := by
  cases hfirst : (d.after sent).result with
  | error e => rw [bind_of_error hfirst, Except.map]
  | ok a =>
    rw [bind_of_ok hfirst, Except.map]
    exact congrArg (Exchange.mk · _ _) (List.append_nil _)

variable {ds : List (Dialogue α)}

/-- Of several dialogues the first takes place, and then the others, whatever came of it. -/
theorem after_together_cons :
    (together (d :: ds)).after sent = (d.after sent).beside
      ((together ds).after (sent + (d.after sent).requests.length)) :=
  rfl

/-- What is known goes on without a request. -/
theorem ofExcept_ok_bind (a : α) :
    (ofExcept (.ok a) >>= next).after sent = (next a).after sent := by
  rw [bind_of_ok (d := ofExcept (.ok a)) rfl]
  exact congrArg (Exchange.mk _ _) (Nat.zero_add _)

theorem ofExcept_error_bind (e : ExecutionFailure) :
    ((ofExcept (.error e) : Dialogue α) >>= next).after sent = ⟨[], .error e, 0⟩ :=
  rfl

end Dialogue

theorem Reply.accepted_eq_ok_iff {request : Request} {reply : Reply} {r : Response} :
    reply.accepted request = .ok r ↔ reply = .response r ∧ r.isSuccess = true := by
  cases reply with
  | unreached kind words => simp [accepted]
  | response other =>
    rw [accepted]
    split
    · next hsuccess =>
      constructor
      · intro h
        cases h
        exact ⟨rfl, hsuccess⟩
      · rintro ⟨h, -⟩
        cases h
        rfl
    · next hrefused =>
      constructor
      · intro h
        cases h
      · rintro ⟨h, hsuccess⟩
        cases h
        exact absurd hsuccess hrefused

theorem Reply.accepted_eq_error_iff {request : Request} {reply : Reply} {e : ExecutionFailure} :
    reply.accepted request = .error e ↔
      (∃ kind words, reply = .unreached kind words ∧ e = .unreached kind words) ∨
        ∃ r, reply = .response r ∧ r.isSuccess = false ∧
          e = .refused r.status request.url.text := by
  constructor
  · intro h
    cases reply with
    | unreached kind words =>
      cases h
      exact .inl ⟨kind, words, rfl, rfl⟩
    | response r =>
      rw [accepted] at h
      split at h
      · cases h
      · next hrefused =>
        cases h
        exact .inr ⟨r, rfl, by simpa using hrefused, rfl⟩
  · rintro (⟨kind, words, rfl, rfl⟩ | ⟨r, rfl, hrefused, rfl⟩)
    · rfl
    · simp [accepted, hrefused]

namespace Replies

variable (server : Replies) {base : Url} {text : Text} (sent : Nat)

theorem get_of_error {e : ExecutionFailure} (h : requestUrl base text = .error e) :
    (server.get base text).after sent = ⟨[], .error e, 0⟩ := by
  rw [get, h]
  rfl

/-- What is made of the response to a request that is sent. -/
theorem get_of_ok {α : Type} {url : Url} (h : requestUrl base text = .ok url)
    (make : Response → Except ExecutionFailure α) :
    (server.get base text >>= fun r => Dialogue.ofExcept (make r)).after sent =
      ⟨[⟨.get, url, none⟩],
        (server sent ⟨.get, url, none⟩).reply.accepted ⟨.get, url, none⟩ >>= make,
        (server sent ⟨.get, url, none⟩).delay⟩ := by
  have hget : (server.get base text).after sent =
      ⟨[⟨.get, url, none⟩], (server sent ⟨.get, url, none⟩).reply.accepted ⟨.get, url, none⟩,
        (server sent ⟨.get, url, none⟩).delay⟩ := by
    rw [get, h]
    rfl
  cases haccepted : (server sent ⟨.get, url, none⟩).reply.accepted ⟨.get, url, none⟩ with
  | error e =>
    rw [Dialogue.bind_of_error (by rw [hget, haccepted]), hget]
    rfl
  | ok r =>
    rw [Dialogue.bind_of_ok (by rw [hget, haccepted]), hget]
    rfl

theorem post_of_ok {url : Url} {body : Value} {written : String}
    (hurl : requestUrl base text = .ok url) (hbody : sentText body = .ok written) :
    (server.post base text body).after sent =
      ⟨[⟨.post, url, some body⟩],
        (server sent ⟨.post, url, some body⟩).reply.accepted ⟨.post, url, some body⟩,
        (server sent ⟨.post, url, some body⟩).delay⟩ := by
  simp only [post, hurl, hbody]
  rfl

/-- Nothing is posted to a url that cannot be formed, nor a body that cannot be written. -/
theorem post_of_error {body : Value}
    (h : ∀ url written, requestUrl base text = .ok url → sentText body ≠ .ok written) :
    ∃ e, (server.post base text body).after sent = ⟨[], .error e, 0⟩ := by
  rw [post]
  cases hurl : requestUrl base text with
  | error e => exact ⟨e, rfl⟩
  | ok url =>
    cases hbody : sentText body with
    | error e => exact ⟨e, rfl⟩
    | ok written => exact absurd hbody (h url written hurl)

end Replies

end ChartQuery
