/-
# Results are made of what JSON can express

A result holds what a server sent: the headers with all that stood in them, the rows and the
warnings. All of it was read from JSON, so it can be written as JSON whatever the server sent. What
the server did not send are the numbers of measures, which are counted here (`writable_iff`).
-/

import ChartQuery.Proofs.Execution.Protocol
import ChartQuery.Proofs.Json.Decoded
import ChartQuery.Proofs.Schema.Reading

namespace ChartQuery

/-! ## Parts of JSON values -/

namespace Value

variable {v found : Value} {fields : Fields}

/-- JSON can express the value, and it has a text in which all numbers may stand. -/
def IsExpressible (v : Value) : Prop :=
  v.IsJson ∧ Json.Writable .report v

theorem hereditary_isExpressible : Hereditary IsText IsExpressible where
  null := ⟨hereditary_isJson.null, (hereditary_writable _).null⟩
  bool b := ⟨hereditary_isJson.bool b, (hereditary_writable _).bool b⟩
  int n hshort := ⟨hereditary_isJson.int n hshort, (hereditary_writable _).int n hshort⟩
  text s := ⟨hereditary_isJson.text s, (hereditary_writable _).text s⟩
  key := hereditary_isJson.key
  list xs := by
    rw [IsExpressible, isJson_list, Json.writable_list]
    exact ⟨fun h x hx => ⟨h.1 x hx, h.2 x hx⟩,
      fun h => ⟨fun x hx => (h x hx).1, fun x hx => (h x hx).2⟩⟩
  object fs := by
    rw [IsExpressible, isJson_object, Json.writable_object]
    constructor
    · exact fun h entry hentry =>
        ⟨(h.1 entry hentry).1, (h.1 entry hentry).2, (h.2 entry hentry).2⟩
    · refine fun h => ⟨fun entry hentry => ⟨(h entry hentry).1, (h entry hentry).2.1⟩,
        fun entry hentry => ⟨?_, (h entry hentry).2.2⟩⟩
      obtain ⟨key, hkey⟩ := (h entry hentry).1
      rw [hkey]
      rfl

theorem isExpressible_noItems : (list []).IsExpressible :=
  (hereditary_isExpressible.list []).mpr nofun

theorem isExpressible_noFields : (object []).IsExpressible :=
  (hereditary_isExpressible.object []).mpr nofun

/-- What is read from JSON is expressible. -/
theorem isExpressible_read {text : String} (h : Json.read text = .ok v) : v.IsExpressible :=
  ⟨Json.of_read hereditary_isJson (fun _ => trivial) h,
    Json.of_read (hereditary_writable .report) (fun _ => ⟨_, rfl⟩) h⟩

theorem isExpressible_field? {key : Text} (h : (object fields).IsExpressible)
    (hfound : field? key fields = some found) : found.IsExpressible := by
  rw [hereditary_isExpressible.object] at h
  induction fields with
  | nil => cases hfound
  | cons entry rest ih =>
    obtain ⟨hentry, hrest⟩ := List.forall_mem_cons.mp h
    obtain ⟨⟨k, hk⟩, hvalue⟩ := hentry
    obtain ⟨_, value⟩ := entry
    subst hk
    rw [field?] at hfound
    split at hfound
    · cases hfound
      exact hvalue
    · exact ih hrest hfound

theorem isExpressible_getD_field? (key : Text) {fallback : Value}
    (h : (object fields).IsExpressible) (hfallback : fallback.IsExpressible) :
    ((field? key fields).getD fallback).IsExpressible := by
  cases hfound : field? key fields with
  | none => exact hfallback
  | some found => exact isExpressible_field? h hfound

/-- The keys and values of whatever has fields. -/
theorem isExpressible_of_mem_fields {entry : Value × Value} (h : v.IsExpressible)
    (hentry : entry ∈ v.fields) : (∃ key, entry.1 = .text key) ∧ entry.2.IsExpressible := by
  cases v with
  | object fields => exact (hereditary_isExpressible.object fields).mp h entry hentry
  | cyclic place copy => exact h.1.elim
  | _ => cases hentry

theorem isExpressible_items? {items : List Value} (h : v.IsExpressible)
    (hitems : v.items? = some items) : ∀ x ∈ items, x.IsExpressible := by
  cases v with
  | list xs =>
    cases hitems
    exact (hereditary_isExpressible.list _).mp h
  | object fields =>
    cases hitems
    intro x hx
    obtain ⟨entry, hentry, rfl⟩ := List.mem_map.mp hx
    obtain ⟨⟨key, hkey⟩, -⟩ := (hereditary_isExpressible.object fields).mp h entry hentry
    rw [hkey]
    exact hereditary_isExpressible.text key
  | text s =>
    cases hitems
    intro x hx
    obtain ⟨c, -, rfl⟩ := List.mem_map.mp hx
    exact hereditary_isExpressible.text _
  | set xs => exact h.1.elim
  | bytes bs => exact h.1.elim
  | cyclic place copy => exact h.1.elim
  | _ => cases hitems

end Value

/-! ## Headers -/

namespace Header

/-- Everything that stood in a header and is not understood can be written as JSON. -/
def OthersAreExpressible (h : Header) : Prop :=
  (Value.object h.others).IsExpressible

theorem othersAreExpressible_of_readHeader {v : Value} {h : Header} (hv : v.IsExpressible)
    (hread : readHeader v = .accepted h) : h.OthersAreExpressible := by
  obtain ⟨-, -, hbuilt⟩ := Schema.readRecord_eq_accepted hread
  split at hbuilt
  · cases hbuilt
  obtain ⟨_, others, h₅, hothers, rfl⟩ := Schema.Reading.seq_eq_accepted hbuilt
  obtain ⟨_, isPrevious, h₄, -, rfl⟩ := Schema.Reading.seq_eq_accepted h₅
  obtain ⟨_, measureIndex, h₃, -, rfl⟩ := Schema.Reading.seq_eq_accepted h₄
  obtain ⟨_, kind, h₂, -, rfl⟩ := Schema.Reading.seq_eq_accepted h₃
  obtain ⟨_, title, h₁, -, rfl⟩ := Schema.Reading.seq_eq_accepted h₂
  obtain ⟨_, uri, h₀, -, rfl⟩ := Schema.Reading.seq_eq_accepted h₁
  obtain ⟨id, -, rfl⟩ := Schema.Reading.map_eq_accepted h₀
  cases hothers
  refine (Value.hereditary_isExpressible.object _).mpr fun entry hentry => ?_
  exact Value.isExpressible_of_mem_fields hv (List.mem_of_mem_filter hentry)

theorem othersAreExpressible_of_forall₂ {items : List Value} {headers : List Header}
    (hitems : ∀ x ∈ items, x.IsExpressible)
    (h : List.Forall₂ (fun v header => readHeader v = .accepted header) items headers) :
    ∀ header ∈ headers, header.OthersAreExpressible := by
  induction h with
  | nil => nofun
  | cons hread _ ih =>
    obtain ⟨hitem, hrest⟩ := List.forall_mem_cons.mp hitems
    exact List.forall_mem_cons.mpr ⟨othersAreExpressible_of_readHeader hitem hread, ih hrest⟩

theorem othersAreExpressible_claimFirst {m : MetricMapping} {headers : List Header}
    (h : ∀ header ∈ headers, header.OthersAreExpressible) :
    ∀ header ∈ claimFirst m headers, header.OthersAreExpressible := by
  induction headers with
  | nil => exact h
  | cons first others ih =>
    obtain ⟨hfirst, hothers⟩ := List.forall_mem_cons.mp h
    rw [claimFirst]
    split
    · exact List.forall_mem_cons.mpr ⟨hfirst, hothers⟩
    · exact List.forall_mem_cons.mpr ⟨hfirst, ih hothers⟩

/-- Annotating a header touches nothing that is not understood. -/
theorem othersAreExpressible_annotate {mappings : List MetricMapping} {headers : List Header}
    (h : ∀ header ∈ headers, header.OthersAreExpressible) :
    ∀ header ∈ annotate mappings headers, header.OthersAreExpressible := by
  induction mappings generalizing headers with
  | nil => exact h
  | cons m rest ih => exact ih (othersAreExpressible_claimFirst h)

/-- A header can be written unless the number of its measure has too many digits. -/
theorem writable_toValue_iff {h : Header} (hothers : h.OthersAreExpressible) :
    Json.Writable .report h.toValue ↔ ∀ n ∈ h.measureIndex, Numeral.isWritable n = true := by
  have hwritable := Value.hereditary_writable .report
  have hindex : Json.Writable .report (Value.ofOption .int h.measureIndex) ↔
      ∀ n ∈ h.measureIndex, Numeral.isWritable n = true := by
    cases h.measureIndex with
    | none => exact iff_of_true hwritable.null nofun
    | some n => simp [Value.ofOption, Json.writable_int_iff]
  have hprevious : Json.Writable .report (Value.ofBool? h.isPrevious) := by
    cases h.isPrevious with
    | none => exact hwritable.null
    | some b => exact hwritable.bool b
  have hrest := (Json.writable_object h.others).mp hothers.2
  rw [toValue, Json.writable_object]
  simp only [List.forall_mem_append, List.forall_mem_map, List.forall_mem_cons,
    hwritable.ofText?, hwritable.key, hindex, hprevious, true_and]
  exact (and_iff_left hrest).trans (and_iff_left nofun)

end Header

/-! ## Results -/

/-- Everything that a server put into the result can be written as JSON. -/
structure ResultSet.HoldsJson (r : ResultSet) : Prop where
  headers : ∀ header ∈ r.headers, header.OthersAreExpressible
  rows : ∀ row ∈ r.rows, row.IsExpressible
  warnings : ∀ warning ∈ r.warnings, warning.IsExpressible

/-- So only the numbers of measures can keep the result from being written. -/
theorem ResultSet.HoldsJson.writable_iff {r : ResultSet} (h : r.HoldsJson) :
    Json.Writable .report r.toValue ↔
      ∀ header ∈ r.headers, ∀ n ∈ header.measureIndex, Numeral.isWritable n = true := by
  have hwritable := Value.hereditary_writable .report
  have hrows : Json.Writable .report (.list r.rows) :=
    (Json.writable_list _).mpr fun row hrow => (h.rows row hrow).2
  have hwarnings : Json.Writable .report (.list r.warnings) :=
    (Json.writable_list _).mpr fun warning hwarning => (h.warnings warning hwarning).2
  rw [toValue, hwritable.ofFields]
  simp only [List.forall_mem_cons, hwritable.bool, hwritable.listOf, hrows, hwarnings, true_and]
  exact (and_iff_left nofun).trans
    (forall₂_congr fun header hheader => Header.writable_toValue_iff (h.headers header hheader))

namespace Client

theorem isExpressible_response {r : Response} {v : Value} (h : r.value = .ok v) :
    v.IsExpressible := by
  unfold Response.value at h
  split at h
  · next found hread =>
    cases h
    exact Value.isExpressible_read hread
  · split at h <;> cases h

theorem isExpressible_lookUp {key : Text} {fallback v found : Value} (hv : v.IsExpressible)
    (h : lookUp key fallback v = .ok found) (hfallback : fallback.IsExpressible) :
    found.IsExpressible := by
  obtain ⟨fields, rfl, rfl⟩ := lookUp_eq_ok_iff.mp h
  exact Value.isExpressible_getD_field? key hv hfallback

theorem isExpressible_orEmpty {v : Value} (h : v.IsExpressible) : (orEmpty v).IsExpressible := by
  unfold orEmpty
  split
  · exact h
  · exact Value.isExpressible_noFields

/-- The headers that an answer hands out. -/
theorem othersAreExpressible_of_handsOut {mappings : List MetricMapping} {extended : Bool}
    {answer place : Value} {headers : List Header} (hanswer : answer.IsExpressible)
    (h : HandsOut mappings extended answer headers place) :
    ∀ header ∈ headers, header.OthersAreExpressible := by
  obtain ⟨hexecution, hitems, hheaders, -⟩ := h
  have hsent := Value.isExpressible_getD_field? "headers"
    (Value.isExpressible_field? hanswer hexecution) Value.isExpressible_noItems
  exact Header.othersAreExpressible_annotate
    (Header.othersAreExpressible_of_forall₂ (Value.isExpressible_items? hsent hitems) hheaders)

theorem isExpressible_of_readAny {v : Value} {results : List Value} (hv : v.IsExpressible)
    (h : Schema.readList Schema.readAny v = .accepted results) :
    ∀ x ∈ results, x.IsExpressible := by
  obtain ⟨items, hitems, hall⟩ := Schema.readList_eq_accepted h
  intro x hx
  obtain ⟨_, hitem, hread⟩ := hall x hx
  cases hread
  exact Value.isExpressible_items? hv hitems x hitem

theorem holdsJson_of_resultOf {headers : List Header} {rows warnings : Value} {result : ResultSet}
    (hheaders : ∀ header ∈ headers, header.OthersAreExpressible) (hrows : rows.IsExpressible)
    (hwarnings : warnings.IsExpressible) (h : resultOf headers rows warnings = .ok result) :
    result.HoldsJson := by
  unfold resultOf at h
  dsimp only at h
  split at h
  · cases h
  · next built hbuilt =>
    cases h
    unfold Schema.Reading.toExcept at hbuilt
    split at hbuilt
    · next accepted haccepted =>
      cases hbuilt
      obtain ⟨_, ws, hbuild, hws, rfl⟩ := Schema.Reading.seq_eq_accepted haccepted
      obtain ⟨rs, hrs, rfl⟩ := Schema.Reading.map_eq_accepted hbuild
      exact ⟨hheaders, isExpressible_of_readAny hrows (Schema.Reading.below_eq_accepted hrs),
        isExpressible_of_readAny hwarnings (Schema.Reading.below_eq_accepted hws)⟩
    · cases hbuilt

/-- The result that a response holds. -/
theorem holdsJson_of_fetchedResult {headers : List Header} {extended : Bool} {r : Response}
    {result : ResultSet} (hheaders : ∀ header ∈ headers, header.OthersAreExpressible)
    (h : fetchedResult headers extended r = .ok result) : result.HoldsJson := by
  unfold fetchedResult at h
  split at h
  · cases h
    exact ⟨hheaders, nofun, nofun⟩
  · simp only [ExecutionFailure.bind_eq_ok_iff] at h
    obtain ⟨body, hbody, found, hfound, rows, hrows, warnings, hwarnings, hresult⟩ := h
    have hfoundJson : found.IsExpressible :=
      isExpressible_lookUp (isExpressible_orEmpty (isExpressible_response hbody)) hfound
        Value.isExpressible_noFields
    exact holdsJson_of_resultOf hheaders
      (isExpressible_lookUp hfoundJson hrows Value.isExpressible_noItems)
      (isExpressible_lookUp hfoundJson hwarnings Value.isExpressible_noItems) hresult

theorem holdsJson_of_fetch {server : Replies} {base : Url} {mappings : List MetricMapping}
    {extended : Bool} {started : Response} {sent : Nat} {result : ResultSet}
    (h : ((fetch server base mappings extended started).after sent).result = .ok result) :
    result.HoldsJson := by
  have hfetches := fetch_run server base mappings extended started sent
  generalize (fetch server base mappings extended started).after sent = exchange at h hfetches
  cases hfetches with
  | nowhere e => cases h
  | found hleads hresult =>
    obtain ⟨hanswer, hplace, -⟩ := hleads
    obtain ⟨r, -, -, hfetched⟩ := (hresult result).mp h
    exact holdsJson_of_fetchedResult
      (othersAreExpressible_of_handsOut (isExpressible_response hanswer) hplace) hfetched

/-- Whatever a server sends, the result of a chart holds JSON values only. -/
theorem holdsJson_of_executeChart {server : Replies} {base : Url} {project : Text}
    {v : Visualization} {extended : Bool} {result : ResultSet}
    (h : (executeChart server base project v extended).run.result = .ok result) :
    result.HoldsJson := by
  rw [Dialogue.run, executeChart] at h
  obtain ⟨resolved, -, hcompiled⟩ := Dialogue.bind_result_eq_ok_iff.mp h
  obtain ⟨c, -, hexecuted⟩ := Dialogue.bind_result_eq_ok_iff.mp hcompiled
  rw [execute] at hexecuted
  obtain ⟨started, -, hfetched⟩ := Dialogue.bind_result_eq_ok_iff.mp hexecuted
  exact holdsJson_of_fetch hfetched

end Client

end ChartQuery
