/-
# What lookups change

Looking up the formats of a chart gives the same chart with other formats, or the failure of the
lookup that fails first. `Reformatted` says which formats these are in terms of the replies, and
`LookupFails` why a lookup fails; `resolveFormats_reformats` shows that there is no third way. A
lookup is answered by the reply to its own request, numbered by the lookups that were sent before,
so measures of one object may get different formats. All lookups start together, and each ends when
its reply is there (`lookupTime`): the first that fails is the first in time, and only of lookups
that end at one time the first in the order of the measures (`FirstFails`).
-/

import ChartQuery.Proofs.Execution.Protocol

namespace ChartQuery.Client

variable {server : Replies} {base : Url} {sent number : Nat} {m m' : Measure} {object layer : Value}

/-! ## What an object states -/

/-- The value has fields to look into. -/
def HasFields (v : Value) : Prop :=
  ∃ fields, v = .object fields

/-- What an object of the project holds as its format: the field `format` of the field `content` of
the field `metric`. -/
def formatUnder? (object : Value) : Option Value :=
  ((fieldOf? "metric" object).bind (fieldOf? "content")).bind (fieldOf? "format")

/-- The layer of an object that has no fields though one of them is looked for. An absent object or
metric, or an empty one, counts as having none of the fields; content that is there must have
fields. -/
inductive LacksFields (object : Value) : Value → Prop
  | object (htruthy : object.isTruthy = true) (hflat : ¬ HasFields object) :
      LacksFields object object
  | metric {metric : Value} (hmetric : fieldOf? "metric" object = some metric)
      (htruthy : metric.isTruthy = true) (hflat : ¬ HasFields metric) : LacksFields object metric
  | content {metric content : Value} (hmetric : fieldOf? "metric" object = some metric)
      (hcontent : fieldOf? "content" metric = some content) (hflat : ¬ HasFields content) :
      LacksFields object content

theorem hasFields_of_fieldOf? {key : Text} {v found : Value} (h : fieldOf? key v = some found) :
    HasFields v := by
  cases v with
  | object fields => exact ⟨fields, rfl⟩
  | _ => cases h

theorem lookUp_of_hasFields (key : Text) (fallback : Value) {v : Value} (h : HasFields v) :
    lookUp key fallback v = .ok ((fieldOf? key v).getD fallback) := by
  obtain ⟨fields, rfl⟩ := h
  rfl

theorem lookUp_of_flat (key : Text) (fallback : Value) {v : Value} (h : ¬ HasFields v) :
    lookUp key fallback v = .error (.withoutFields v) := by
  cases v with
  | object fields => exact absurd ⟨fields, rfl⟩ h
  | _ => rfl

/-- An absent or empty value is looked into like an object without fields. -/
theorem lookUp_orEmpty (key : Text) (fallback : Value) {v : Value}
    (h : v.isTruthy = true → HasFields v) :
    lookUp key fallback (orEmpty v) = .ok ((fieldOf? key v).getD fallback) := by
  by_cases htruthy : v.isTruthy = true
  · rw [orEmpty, if_pos htruthy, lookUp_of_hasFields key fallback (h htruthy)]
  · rw [orEmpty, if_neg htruthy]
    cases v with
    | object fields =>
      have hempty : fields = [] := by simpa [Value.isTruthy] using htruthy
      rw [hempty]
      rfl
    | _ => rfl

theorem statedFormat_of_lacksFields (h : LacksFields object layer) :
    statedFormat object = .error (.withoutFields layer) := by
  cases h with
  | object htruthy hflat =>
    rw [statedFormat, orEmpty, if_pos htruthy, lookUp_of_flat _ _ hflat]
    rfl
  | metric hmetric htruthy hflat =>
    rw [statedFormat, lookUp_orEmpty _ _ fun _ => hasFields_of_fieldOf? hmetric, hmetric]
    show lookUp "content" _ (orEmpty layer) >>= _ = _
    rw [orEmpty, if_pos htruthy, lookUp_of_flat _ _ hflat]
    rfl
  | @content metric _ hmetric hcontent hflat =>
    rw [statedFormat, lookUp_orEmpty _ _ fun _ => hasFields_of_fieldOf? hmetric, hmetric]
    show lookUp "content" _ (orEmpty metric) >>= _ = _
    rw [lookUp_orEmpty _ _ fun _ => hasFields_of_fieldOf? hcontent, hcontent]
    exact lookUp_of_flat _ _ hflat

theorem statedFormat_of_forall_not_lacksFields (h : ∀ layer, ¬ LacksFields object layer) :
    statedFormat object = .ok ((formatUnder? object).getD .null) := by
  have hobject (htruthy : object.isTruthy = true) : HasFields object :=
    by_contra fun hflat => h object (.object htruthy hflat)
  rw [statedFormat, lookUp_orEmpty _ _ hobject]
  unfold formatUnder?
  cases hmetric : fieldOf? "metric" object with
  | none => rfl
  | some metric =>
    have hfields (htruthy : metric.isTruthy = true) : HasFields metric :=
      by_contra fun hflat => h metric (.metric hmetric htruthy hflat)
    show lookUp "content" _ (orEmpty metric) >>= _ = _
    rw [lookUp_orEmpty _ _ hfields, Option.bind_some]
    cases hcontent : fieldOf? "content" metric with
    | none => rfl
    | some content =>
      have hcontentFields : HasFields content :=
        by_contra fun hflat => h content (.content hmetric hcontent hflat)
      exact lookUp_of_hasFields _ _ hcontentFields

/-- A format is stated by an object of which every layer that is looked into has fields. -/
theorem statedFormat_eq_ok_iff {stated : Value} :
    statedFormat object = .ok stated ↔
      (∀ layer, ¬ LacksFields object layer) ∧ stated = (formatUnder? object).getD .null := by
  by_cases h : ∃ layer, LacksFields object layer
  · obtain ⟨layer, hlayer⟩ := h
    rw [statedFormat_of_lacksFields hlayer]
    constructor
    · intro h
      cases h
    · exact fun hshaped => absurd hlayer (hshaped.1 layer)
  · have hshaped : ∀ layer, ¬ LacksFields object layer := not_exists.mp h
    rw [statedFormat_of_forall_not_lacksFields hshaped, Except.ok.injEq]
    exact ⟨fun hstated => ⟨hshaped, hstated.symm⟩, fun hstated => hstated.2.symm⟩

theorem statedFormat_eq_error_iff {e : ExecutionFailure} :
    statedFormat object = .error e ↔
      ∃ layer, LacksFields object layer ∧ e = .withoutFields layer := by
  constructor
  · intro herror
    by_contra hnone
    have hshaped (layer : Value) : ¬ LacksFields object layer := fun hlayer =>
      hnone ⟨layer, hlayer, by simpa [herror] using statedFormat_of_lacksFields hlayer⟩
    cases herror.symm.trans (statedFormat_of_forall_not_lacksFields hshaped)
  · rintro ⟨layer, hlayer, rfl⟩
    exact statedFormat_of_lacksFields hlayer

/-- The format of a measure after its object was looked up: what the object holds as its format, if
that is there and not empty, else the one that the measure had. -/
def formatAfter (m : Measure) (object : Value) : Option NumberFormat :=
  (((formatUnder? object).filter Value.isTruthy).map formatOf).or m.format

theorem withStatedFormat_eq (m : Measure) (object : Value) :
    withStatedFormat m ((formatUnder? object).getD .null) =
      { m with format := formatAfter m object } := by
  unfold withStatedFormat formatAfter
  cases formatUnder? object with
  | none => rfl
  | some stated => cases htruthy : stated.isTruthy <;> simp [Option.filter, htruthy]

/-! ## One lookup -/

theorem needsFormat_iff (m : Measure) :
    needsFormat m = true ↔ m.showsPrevious = true ∨ m.filters ≠ [] := by
  simp [needsFormat]

theorem needsFormat_eq_false_iff (m : Measure) :
    needsFormat m = false ↔ m.showsPrevious = false ∧ m.filters = [] := by
  simp [needsFormat]

/-- The request for the object of a measure is answered with success, and the response holds the
object. -/
def LookedUp (server : Replies) (base : Url) (number : Nat) (m : Measure) (object : Value) : Prop :=
  ∃ url r, requestUrl base m.objectUri = .ok url ∧
    (server number ⟨.get, url, none⟩).reply = .response r ∧
    r.isSuccess = true ∧ r.value = .ok object

/-- When the lookup of a measure ends, counted from the start of all lookups: when its reply is
there, and at once when nothing is sent. -/
def lookupTime (server : Replies) (base : Url) (number : Nat) (m : Measure) : Nat :=
  match lookup? base m with
  | some request => (server number request).delay
  | none => 0

/-- What a measure becomes: itself when it shows no previous period and has no filters, else a
measure that differs at most in its format, which is taken from the object that was looked up. -/
inductive Reformats (server : Replies) (base : Url) (number : Nat) (m : Measure) : Measure → Prop
  | plain (hprevious : m.showsPrevious = false) (hfilters : m.filters = []) :
      Reformats server base number m m
  | lookedUp {object : Value} (hneeded : m.showsPrevious = true ∨ m.filters ≠ [])
      (hobject : LookedUp server base number m object)
      (hshaped : ∀ layer, ¬ LacksFields object layer) :
      Reformats server base number m { m with format := formatAfter m object }

/-- Why a lookup gives no format: its url cannot be formed, the server is not reached or refuses,
the response is not JSON, or a layer of the object has no fields. -/
inductive NoFormatFound (server : Replies) (base : Url) (number : Nat) (m : Measure) :
    ExecutionFailure → Prop
  | unaddressed {e : ExecutionFailure} (hurl : requestUrl base m.objectUri = .error e) :
      NoFormatFound server base number m e
  | unreached {url : Url} {kind : String} {words : Text}
      (hurl : requestUrl base m.objectUri = .ok url)
      (hreply : (server number ⟨.get, url, none⟩).reply = .unreached kind words) :
      NoFormatFound server base number m (.unreached kind words)
  | refused {url : Url} {r : Response} (hurl : requestUrl base m.objectUri = .ok url)
      (hreply : (server number ⟨.get, url, none⟩).reply = .response r)
      (hstatus : r.isSuccess = false) :
      NoFormatFound server base number m (.refused r.status url.text)
  | notJson {url : Url} {r : Response} {e : ExecutionFailure}
      (hurl : requestUrl base m.objectUri = .ok url)
      (hreply : (server number ⟨.get, url, none⟩).reply = .response r)
      (hstatus : r.isSuccess = true) (hvalue : r.value = .error e) :
      NoFormatFound server base number m e
  | lacksFields {object layer : Value} (hobject : LookedUp server base number m object)
      (hlayer : LacksFields object layer) :
      NoFormatFound server base number m (.withoutFields layer)

/-- The measure needs a format, and its lookup gives none. -/
def LookupFails (server : Replies) (base : Url) (number : Nat) (m : Measure)
    (e : ExecutionFailure) : Prop :=
  (m.showsPrevious = true ∨ m.filters ≠ []) ∧ NoFormatFound server base number m e

theorem resolved_iff_reformats :
    Resolved server base number m m' ↔ Reformats server base number m m' := by
  constructor
  · rintro (hplain | ⟨hneeded, hurl, hreply, hsuccess, hobject, hstated⟩)
    · obtain ⟨hprevious, hfilters⟩ := (needsFormat_eq_false_iff m).mp hplain
      exact .plain hprevious hfilters
    · obtain ⟨hshaped, rfl⟩ := statedFormat_eq_ok_iff.mp hstated
      rw [withStatedFormat_eq]
      exact .lookedUp ((needsFormat_iff m).mp hneeded) ⟨_, _, hurl, hreply, hsuccess, hobject⟩
        hshaped
  · rintro (⟨hprevious, hfilters⟩ | ⟨hneeded, ⟨url, r, hurl, hreply, hsuccess, hobject⟩, hshaped⟩)
    · exact .unneeded ((needsFormat_eq_false_iff m).mpr ⟨hprevious, hfilters⟩)
    · rw [← withStatedFormat_eq]
      exact .found ((needsFormat_iff m).mpr hneeded) hurl hreply hsuccess hobject
        (statedFormat_of_forall_not_lacksFields hshaped)

theorem resolvedBy_eq_error_iff {r : Response} {e : ExecutionFailure} :
    resolvedBy m r = .error e ↔
      r.value = .error e ∨ ∃ object layer, r.value = .ok object ∧ LacksFields object layer ∧
        e = .withoutFields layer := by
  simp only [resolvedBy, ExecutionFailure.bind_eq_error_iff, statedFormat_eq_error_iff]
  constructor
  · rintro (hvalue | ⟨object, hobject, ⟨layer, hlayer, he⟩ | ⟨stated, -, hmade⟩⟩)
    · exact .inl hvalue
    · exact .inr ⟨object, layer, hobject, hlayer, he⟩
    · cases hmade
  · rintro (hvalue | ⟨object, layer, hobject, hlayer, he⟩)
    · exact .inl hvalue
    · exact .inr ⟨object, hobject, .inl ⟨layer, hlayer, he⟩⟩

theorem noFormatFound_iff {e : ExecutionFailure} :
    NoFormatFound server base number m e ↔
      requestUrl base m.objectUri = .error e ∨ ∃ url, requestUrl base m.objectUri = .ok url ∧
        (((server number ⟨.get, url, none⟩).reply.accepted ⟨.get, url, none⟩ = .error e) ∨
          ∃ r, (server number ⟨.get, url, none⟩).reply.accepted ⟨.get, url, none⟩ = .ok r ∧
            resolvedBy m r = .error e) := by
  simp only [Reply.accepted_eq_error_iff, Reply.accepted_eq_ok_iff, resolvedBy_eq_error_iff]
  constructor
  · rintro (hurl | ⟨hurl, hreply⟩ | ⟨hurl, hreply, hstatus⟩ | ⟨hurl, hreply, hstatus, hvalue⟩ |
      ⟨⟨url, r, hurl, hreply, hstatus, hobject⟩, hlayer⟩)
    · exact .inl hurl
    · exact .inr ⟨_, hurl, .inl (.inl ⟨_, _, hreply, rfl⟩)⟩
    · exact .inr ⟨_, hurl, .inl (.inr ⟨_, hreply, hstatus, rfl⟩)⟩
    · exact .inr ⟨_, hurl, .inr ⟨_, ⟨hreply, hstatus⟩, .inl hvalue⟩⟩
    · exact .inr ⟨_, hurl, .inr ⟨_, ⟨hreply, hstatus⟩, .inr ⟨_, _, hobject, hlayer, rfl⟩⟩⟩
  · rintro (hurl | ⟨url, hurl, (⟨kind, words, hreply, rfl⟩ | ⟨r, hreply, hstatus, rfl⟩) |
      ⟨r, ⟨hreply, hstatus⟩, hvalue | ⟨object, layer, hobject, hlayer, rfl⟩⟩⟩)
    · exact .unaddressed hurl
    · exact .unreached hurl hreply
    · exact .refused hurl hreply hstatus
    · exact .notJson hurl hreply hstatus hvalue
    · exact .lacksFields ⟨url, r, hurl, hreply, hstatus, hobject⟩ hlayer

theorem resolveFormat_eq_error_iff {e : ExecutionFailure} :
    ((resolveFormat server base m).after sent).result = .error e ↔
      LookupFails server base sent m e := by
  rw [LookupFails, ← needsFormat_iff, noFormatFound_iff]
  cases hneeded : needsFormat m with
  | false =>
    rw [resolveFormat_of_plain server base sent hneeded]
    simp
  | true =>
    cases hurl : requestUrl base m.objectUri with
    | error reason =>
      rw [resolveFormat_of_error server sent hneeded hurl]
      simp
    | ok url =>
      rw [resolveFormat_of_ok server sent hneeded hurl, ExecutionFailure.bind_eq_error_iff]
      simp

/-- A lookup that does not fail gives a measure. -/
theorem exists_resolveFormat_iff :
    (∃ m', ((resolveFormat server base m).after sent).result = .ok m') ↔
      ∀ e, ¬ LookupFails server base sent m e := by
  simp only [← resolveFormat_eq_error_iff]
  cases ((resolveFormat server base m).after sent).result <;> simp

/-- A lookup takes as long as its reply. -/
theorem resolveFormat_ended :
    ((resolveFormat server base m).after sent).ended = lookupTime server base sent m := by
  rw [lookupTime, lookup?]
  cases hneeded : needsFormat m with
  | false =>
    rw [resolveFormat_of_plain server base sent hneeded]
    rfl
  | true =>
    cases hurl : requestUrl base m.objectUri with
    | error e =>
      rw [resolveFormat_of_error server sent hneeded hurl]
      rfl
    | ok url =>
      rw [resolveFormat_of_ok server sent hneeded hurl]
      rfl

/-! ## All lookups -/

/-- The number of lookups that are sent before that of the measure at a position. -/
def lookupsBefore (base : Url) (measures : List Measure) (position : Nat) : Nat :=
  (lookups base (measures.take position)).length

@[simp]
theorem lookupsBefore_zero (base : Url) (measures : List Measure) :
    lookupsBefore base measures 0 = 0 :=
  rfl

theorem lookupsBefore_succ (base : Url) (m : Measure) (rest : List Measure) (position : Nat) :
    lookupsBefore base (m :: rest) (position + 1) =
      (lookup? base m).toList.length + lookupsBefore base rest position := by
  rw [lookupsBefore, List.take_succ_cons, lookups_cons, List.length_append]
  rfl

/-- The lookup of a measure is sent behind those of the measures before it. -/
theorem getElem?_lookups {measures : List Measure} {position : Nat} {request : Request}
    (hm : measures[position]? = some m) (hrequest : lookup? base m = some request) :
    (lookups base measures)[lookupsBefore base measures position]? = some request := by
  induction measures generalizing position with
  | nil => simp at hm
  | cons first rest ih =>
    rw [lookups_cons]
    cases position with
    | zero =>
      obtain rfl : first = m := by simpa using hm
      simp [hrequest]
    | succ position =>
      rw [lookupsBefore_succ, List.getElem?_append_right (Nat.le_add_right _ _),
        Nat.add_sub_cancel_left]
      exact ih (by simpa using hm)

/-- Measures are resolved one by one, each by the reply to its own lookup. -/
theorem allResolved_iff {measures resolved : List Measure} :
    AllResolved server base sent measures resolved ↔
      resolved.length = measures.length ∧ ∀ i m m', measures[i]? = some m → resolved[i]? = some m' →
        Reformats server base (sent + lookupsBefore base measures i) m m' := by
  induction measures generalizing sent resolved with
  | nil =>
    constructor
    · rintro ⟨⟩
      simp
    · rintro ⟨hlength, -⟩
      obtain rfl : resolved = [] := by simpa using hlength
      exact .nil sent
  | cons m rest ih =>
    constructor
    · rintro (- | ⟨hfirst, hrest⟩)
      obtain ⟨hlength, heach⟩ := ih.mp hrest
      refine ⟨by simp [hlength], fun i found found' hfound hfound' => ?_⟩
      cases i with
      | zero =>
        cases hfound
        cases hfound'
        exact resolved_iff_reformats.mp hfirst
      | succ i =>
        rw [lookupsBefore_succ, ← Nat.add_assoc]
        exact heach i found found' hfound hfound'
    · rintro ⟨hlength, heach⟩
      cases resolved with
      | nil => simp at hlength
      | cons m' others =>
        refine .cons (resolved_iff_reformats.mpr (heach 0 m m' rfl rfl)) (ih.mpr ⟨?_, ?_⟩)
        · simpa using hlength
        · intro i found found' hfound hfound'
          have hfollowing := heach (i + 1) found found' hfound hfound'
          rwa [lookupsBefore_succ, ← Nat.add_assoc] at hfollowing

/-- The lookup of the measure at a position fails, and no other lookup fails earlier, or at the same
time and before it in order. -/
def FailsFirst (server : Replies) (base : Url) (sent : Nat) (measures : List Measure)
    (position : Nat) (e : ExecutionFailure) (time : Nat) : Prop :=
  ∃ m, measures[position]? = some m ∧
    LookupFails server base (sent + lookupsBefore base measures position) m e ∧
    lookupTime server base (sent + lookupsBefore base measures position) m = time ∧
    ∀ j m' e', measures[j]? = some m' →
      LookupFails server base (sent + lookupsBefore base measures j) m' e' →
      time < lookupTime server base (sent + lookupsBefore base measures j) m' ∨
        time = lookupTime server base (sent + lookupsBefore base measures j) m' ∧ position ≤ j

/-- The failure of the first lookup that fails: the first in time, and of several that fail at one
time the first in the order of the measures. -/
def FirstFails (server : Replies) (base : Url) (sent : Nat) (measures : List Measure)
    (e : ExecutionFailure) : Prop :=
  ∃ position time, FailsFirst server base sent measures position e time

/-- No lookup fails when all measures are resolved. -/
theorem not_lookupFails_of_allResolved {measures resolved : List Measure} {position : Nat}
    (h : AllResolved server base sent measures resolved) (hm : measures[position]? = some m)
    (e : ExecutionFailure) :
    ¬ LookupFails server base (sent + lookupsBefore base measures position) m e := by
  obtain ⟨hlength, heach⟩ := allResolved_iff.mp h
  obtain ⟨hlt, -⟩ := List.getElem?_eq_some_iff.mp hm
  have hresolved := heach position m _ hm (List.getElem?_eq_getElem (hlength ▸ hlt))
  have hrun := (resolveFormat_run server base m (sent + lookupsBefore base measures position)).2
  exact exists_resolveFormat_iff.mp
    ⟨_, (hrun _).mpr (resolved_iff_reformats.mpr hresolved)⟩ e

/-- The first of several lookups fails first when it fails and the others do not fail before it. -/
theorem failsFirst_zero {rest : List Measure} {e : ExecutionFailure}
    (hfails : LookupFails server base sent m e)
    (hrest : ∀ j m' e', rest[j]? = some m' →
      LookupFails server base
        (sent + (lookup? base m).toList.length + lookupsBefore base rest j) m' e' →
      lookupTime server base sent m ≤ lookupTime server base
        (sent + (lookup? base m).toList.length + lookupsBefore base rest j) m') :
    FailsFirst server base sent (m :: rest) 0 e (lookupTime server base sent m) := by
  refine ⟨m, rfl, hfails, rfl, fun j m' e' hm' hfails' => ?_⟩
  cases j with
  | zero =>
    cases hm'
    exact .inr ⟨rfl, Nat.le_refl 0⟩
  | succ j =>
    rw [lookupsBefore_succ, ← Nat.add_assoc] at hfails' ⊢
    have hlater := hrest j m' e' hm' hfails'
    rcases Nat.lt_or_eq_of_le hlater with hlt | heq
    · exact .inl hlt
    · exact .inr ⟨heq, Nat.zero_le _⟩

/-- Of the others one fails first when it does so among them and the first fails later, if it
fails. -/
theorem FailsFirst.cons {rest : List Measure} {position time : Nat} {e : ExecutionFailure}
    (h : FailsFirst server base (sent + (lookup? base m).toList.length) rest position e time)
    (hlater : ∀ e', LookupFails server base sent m e' → time < lookupTime server base sent m) :
    FailsFirst server base sent (m :: rest) (position + 1) e time := by
  obtain ⟨found, hfound, hfails, htime, hfirst⟩ := h
  refine ⟨found, hfound, ?_, ?_, fun j m' e' hm' hfails' => ?_⟩
  · rwa [lookupsBefore_succ, ← Nat.add_assoc]
  · rwa [lookupsBefore_succ, ← Nat.add_assoc]
  · cases j with
    | zero =>
      cases hm'
      exact .inl (hlater e' hfails')
    | succ j =>
      rw [lookupsBefore_succ, ← Nat.add_assoc] at hfails' ⊢
      rcases hfirst j m' e' hm' hfails' with hlt | ⟨heq, hle⟩
      · exact .inl hlt
      · exact .inr ⟨heq, Nat.succ_le_succ hle⟩

/-- The lookup that fails first is one, and so is its failure. -/
theorem FirstFails.unique {measures : List Measure} {e e' : ExecutionFailure}
    (h : FirstFails server base sent measures e) (h' : FirstFails server base sent measures e') :
    e = e' := by
  obtain ⟨i, t, m, hm, hfails, rfl, hfirst⟩ := h
  obtain ⟨j, t', m', hm', hfails', rfl, hfirst'⟩ := h'
  have hij : i = j := by
    have h₁ := hfirst j m' e' hm' hfails'
    have h₂ := hfirst' i m e hm hfails
    omega
  subst hij
  cases hm.symm.trans hm'
  have hresult := resolveFormat_eq_error_iff.mpr hfails
  exact Except.error.inj (hresult.symm.trans (resolveFormat_eq_error_iff.mpr hfails'))

/-- When several lookups fail together, the failure is that of the first lookup that fails, at the
time when it does. -/
theorem together_fails {measures : List Measure} {e : ExecutionFailure}
    (h : ((Dialogue.together (measures.map (resolveFormat server base))).after sent).result =
      .error e) :
    ∃ position, FailsFirst server base sent measures position e
      ((Dialogue.together (measures.map (resolveFormat server base))).after sent).ended := by
  -- the replies to later lookups depend on how many were sent before them
  induction measures generalizing sent e with
  | nil => cases h
  | cons m rest ih =>
    rw [List.map_cons, Dialogue.after_together_cons,
      (resolveFormat_run server base m sent).1] at h ⊢
    set others := (Dialogue.together (rest.map (resolveFormat server base))).after
      (sent + (lookup? base m).toList.length) with hothers
    obtain ⟨hfirst, htime, hlater⟩ | ⟨hfails, htime, hlater⟩ :=
      (Exchange.beside_fails_iff _ _).mp ⟨h, rfl⟩
    · rw [← htime, resolveFormat_ended] at hlater ⊢
      have hzero := resolveFormat_eq_error_iff.mp hfirst
      refine ⟨0, failsFirst_zero hzero fun j m' e' hm' hfails' => ?_⟩
      cases hresult : others.result with
      | error e'' =>
        obtain ⟨position, -, -, -, -, hbefore⟩ := ih hresult
        have hj := hbefore j m' e' hm' hfails'
        have hle := hlater e'' hresult
        rw [← hothers] at hj
        omega
      | ok resolved =>
        have hall := ((together_run server base rest _).2 resolved).mp hresult
        exact absurd hfails' (not_lookupFails_of_allResolved hall hm' e')
    · rw [← htime]
      obtain ⟨position, hposition⟩ := ih hfails
      refine ⟨position + 1, hposition.cons fun e' hfails' => ?_⟩
      rw [htime, ← resolveFormat_ended]
      exact hlater e' (resolveFormat_eq_error_iff.mpr hfails')

/-- Several lookups together fail with the failure of the first lookup that fails. -/
theorem together_eq_error_iff (server : Replies) (base : Url) (measures : List Measure) (sent : Nat)
    (e : ExecutionFailure) :
    ((Dialogue.together (measures.map (resolveFormat server base))).after sent).result = .error e ↔
      FirstFails server base sent measures e := by
  constructor
  · intro h
    obtain ⟨position, hfirst⟩ := together_fails h
    exact ⟨position, _, hfirst⟩
  · intro h
    cases hresult :
        ((Dialogue.together (measures.map (resolveFormat server base))).after sent).result with
    | error e' =>
      obtain ⟨position, hfirst⟩ := together_fails hresult
      rw [h.unique ⟨position, _, hfirst⟩]
    | ok resolved =>
      obtain ⟨position, time, m, hm, hfails, -⟩ := h
      have hall := ((together_run server base measures sent).2 resolved).mp hresult
      exact absurd hfails (not_lookupFails_of_allResolved hall hm e)

/-! ## Charts -/

/-- The second chart is the first with other formats: those that the lookups of its measures give.
-/
structure Reformatted (server : Replies) (base : Url) (v v' : Visualization) : Prop where
  name : v'.name = v.name
  kind : v'.kind = v.kind
  categories : v'.buckets.categories = v.buckets.categories
  filters : v'.buckets.filters = v.buckets.filters
  length : v'.buckets.measures.length = v.buckets.measures.length
  measures : ∀ i m m', v.buckets.measures[i]? = some m → v'.buckets.measures[i]? = some m' →
    Reformats server base (lookupsBefore base v.buckets.measures i) m m'

theorem reformatted_iff {v v' : Visualization} :
    Reformatted server base v v' ↔
      ∃ resolved, AllResolved server base 0 v.buckets.measures resolved ∧
        v' = v.withMeasures resolved := by
  simp only [allResolved_iff, Nat.zero_add]
  constructor
  · rintro ⟨hname, hkind, hcategories, hfilters, hlength, hmeasures⟩
    refine ⟨v'.buckets.measures, ⟨hlength, hmeasures⟩, ?_⟩
    obtain ⟨name, kind, measures, categories, filters⟩ := v'
    simp_all [Visualization.withMeasures]
  · rintro ⟨resolved, ⟨hlength, hmeasures⟩, rfl⟩
    exact ⟨rfl, rfl, rfl, rfl, hlength, hmeasures⟩

theorem resolveFormats_eq_error_iff (server : Replies) (base : Url) (v : Visualization)
    (e : ExecutionFailure) :
    (resolveFormats server base v).run.result = .error e ↔
      FirstFails server base 0 v.buckets.measures e := by
  rw [← together_eq_error_iff, Dialogue.run, resolveFormats_after,
    ExecutionFailure.map_eq_error_iff]

/-- Looking up formats gives the chart with the formats that the replies state, or the failure of
the lookup that fails first in time, of several at one time first in the order of the measures. The
reply that counts for a measure is the one to its own lookup, which is numbered by its place among
the requests. -/
theorem resolveFormats_reformats (server : Replies) (base : Url) (v : Visualization) :
    (∀ v', (resolveFormats server base v).run.result = .ok v' ↔ Reformatted server base v v') ∧
      (∀ e, (resolveFormats server base v).run.result = .error e ↔
        FirstFails server base 0 v.buckets.measures e) ∧
      ∀ i m request, v.buckets.measures[i]? = some m → lookup? base m = some request →
        (resolveFormats server base v).run.requests[lookupsBefore base v.buckets.measures i]? =
          some request := by
  obtain ⟨hrequests, hresult⟩ := resolveFormats_run server base v 0
  refine ⟨fun v' => ?_, resolveFormats_eq_error_iff server base v, ?_⟩
  · exact (hresult v').trans reformatted_iff.symm
  · intro i m request hm hrequest
    rw [Dialogue.run, hrequests]
    exact getElem?_lookups hm hrequest

/-- When all replies are there at once, the failure is that of the first measure in order whose
lookup fails. -/
theorem resolveFormats_fails_in_order (base : Url) (v : Visualization)
    (hatOnce : ∀ number request, (server number request).delay = 0) (e : ExecutionFailure) :
    (resolveFormats server base v).run.result = .error e ↔
      ∃ i m, v.buckets.measures[i]? = some m ∧
        LookupFails server base (lookupsBefore base v.buckets.measures i) m e ∧
        ∀ j m' e', v.buckets.measures[j]? = some m' →
          LookupFails server base (lookupsBefore base v.buckets.measures j) m' e' → i ≤ j := by
  have htime (number : Nat) (m : Measure) : lookupTime server base number m = 0 := by
    rw [lookupTime]
    split
    · exact hatOnce _ _
    · rfl
  rw [resolveFormats_eq_error_iff]
  simp only [FirstFails, FailsFirst, htime, Nat.zero_add]
  constructor
  · rintro ⟨i, _, m, hm, hfails, rfl, hfirst⟩
    refine ⟨i, m, hm, hfails, fun j m' e' hm' hfails' => ?_⟩
    simpa using hfirst j m' e' hm' hfails'
  · rintro ⟨i, m, hm, hfails, hfirst⟩
    exact ⟨i, 0, m, hm, hfails, rfl, fun j m' e' hm' hfails' =>
      .inr ⟨rfl, hfirst j m' e' hm' hfails'⟩⟩

/-- Two charts whose failure is not that of the first measure that is refused. In the first chart
the server refuses the lookup of the first measure after a while, and the lookup of the second fails
at once, because no url can be formed. In the second chart the object of the first measure is found
and states no format, yet its lookup fails, because its content is null, and the refusal of the
second measure does not count. -/
theorem resolveFormats_fails_out_of_order :
    let first : Measure :=
      ⟨"/gdc/md/p1/obj/5", "metric", none, some "Revenue", none, none, true, false, []⟩
    let second : Measure :=
      ⟨"/gdc/md/p1/obj/6\x01", "metric", none, some "Orders", none, none, true, false, []⟩
    let third : Measure :=
      ⟨"/gdc/md/p1/obj/6", "metric", none, some "Orders", none, none, true, false, []⟩
    let chart (measures : List Measure) : Visualization := ⟨none, some "table", ⟨measures, [], []⟩⟩
    let slow : Replies := fun _ _ => ⟨.response ⟨500, "null"⟩, 1⟩
    let flat : Replies := fun number _ =>
      ⟨.response (if number = 0 then ⟨200, "\x7b\"metric\": \x7b\"content\": null\x7d\x7d"⟩
        else ⟨500, "null"⟩), 0⟩
    ∃ base, baseUrl "https://secure.example.com" = .ok base ∧
      (∃ url, LookupFails slow base 0 first (.refused 500 url)) ∧
      (∃ fault, (resolveFormats slow base (chart [first, second])).run.result =
        .error (.badUrl fault)) ∧
      (∃ object, LookedUp flat base 0 first object ∧ formatUnder? object = none) ∧
      (∃ url, LookupFails flat base 1 third (.refused 500 url)) ∧
      ∃ layer, (resolveFormats flat base (chart [first, third])).run.result =
        .error (.withoutFields layer) := by
  intro first second third chart slow flat
  let base : Url := ⟨"https", "secure.example.com", "", none, none⟩
  let place (path : String) : Url := ⟨"https", "secure.example.com", path, none, none⟩
  have hfirst : requestUrl base first.objectUri = .ok (place "/gdc/md/p1/obj/5") :=
    Compile.eq_ok_of_toOption (by decide +kernel)
  have hthird : requestUrl base third.objectUri = .ok (place "/gdc/md/p1/obj/6") :=
    Compile.eq_ok_of_toOption (by decide +kernel)
  have hsecond : (base.resolve second.objectUri).toOption = none := by decide +kernel
  let found : Response := ⟨200, "\x7b\"metric\": \x7b\"content\": null\x7d\x7d"⟩
  have hbody : (found.value.toOption.bind fun object =>
      (fieldOf? "metric" object).bind fun metric => (fieldOf? "content" metric).map fun content =>
        ((formatUnder? object).isNone, content.items?.isNone)) = some (true, true) := by
    decide +kernel
  simp only [Option.bind_eq_some_iff, Option.map_eq_some_iff, Prod.mk.injEq] at hbody
  obtain ⟨object, hread, metric, hmetric, content, hcontent, hunstated, hflat⟩ := hbody
  have hobject : LookedUp flat base 0 first object :=
    ⟨_, found, hfirst, rfl, rfl, Compile.eq_ok_of_toOption hread⟩
  refine ⟨base, Compile.eq_ok_of_toOption (by decide +kernel),
    ⟨_, .inl rfl, .refused (r := ⟨500, "null"⟩) hfirst rfl rfl⟩, ?_,
    ⟨object, hobject, Option.isNone_iff_eq_none.mp hunstated⟩,
    ⟨_, .inl rfl, .refused (r := ⟨500, "null"⟩) hthird rfl rfl⟩, content, ?_⟩
  · cases hfault : base.resolve second.objectUri with
    | ok url => simp [hfault, Except.toOption] at hsecond
    | error fault =>
      have hbad : requestUrl base second.objectUri = .error (.badUrl fault) := by
        rw [requestUrl, hfault]
      have hnothing : lookup? base second = none := by
        rw [lookup?, hbad]
        rfl
      refine ⟨fault, (resolveFormats_eq_error_iff slow base _ _).mpr ⟨1, 0, second, rfl,
        ⟨.inl rfl, .unaddressed hbad⟩, by rw [lookupTime, hnothing], fun j m e hm _ => ?_⟩⟩
      cases j with
      | zero =>
        cases hm
        exact .inl (by decide +kernel)
      | succ j =>
        cases j with
        | zero =>
          cases hm
          exact .inr ⟨by rw [lookupTime, hnothing], Nat.le_refl 1⟩
        | succ j => cases hm
  · refine (resolveFormats_fails_in_order base _ (fun _ _ => rfl) _).mpr
      ⟨0, first, rfl, ⟨.inl rfl, ?_⟩, fun j _ _ _ _ => Nat.zero_le j⟩
    refine .lacksFields hobject (.content hmetric hcontent ?_)
    rintro ⟨fields, rfl⟩
    cases hflat

end ChartQuery.Client
