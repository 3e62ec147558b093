/-
# How a library grows

Loading a folder adds charts one by one until it stops. Whatever stops it, what it has done is told
by the charts that it added: they stand at the head of what the folder gives, each has a name that
was free, and they are put behind the charts that were there (`Adds`). So a library that began empty
never gives a name away twice and never gives another chart for a name, however many loadings there
were and however they ended (`after_grows`).

Nothing is claimed here about which charts a folder gives; it is any list of charts and failures.
-/

import ChartQuery.Library.Registry

namespace ChartQuery

/-- What a folder gives, one after another: the charts of its files, or the failure that there are
no files to read. -/
def FileTree.charts (tree : FileTree) (folder : Path) : List (Except LoadFailure Visualization) :=
  match tree.sourcesIn folder with
  | .error e => [.error e]
  | .ok sources => sources.flatMap Source.charts

/-- A folder that is loaded, among the files that are there at the time. -/
structure Loading where
  tree : FileTree
  folder : Path

namespace Registry

/-- The library with charts behind its own, each under its own name. -/
def extendedBy (r : Registry) (charts : List Visualization) : Registry :=
  ⟨r.entries ++ charts.map fun v => (v.name, v)⟩

/-- The charts can be added: their names are free, and no two of them are the same. -/
structure Accepts (r : Registry) (charts : List Visualization) : Prop where
  free : ∀ v ∈ charts, v.name ∉ r.names
  nodup : (charts.map (·.name)).Nodup

/-- Nothing can be added, because what comes first is a failure or a chart whose name is taken. -/
inductive StopsAt (r : Registry) : List (Except LoadFailure Visualization) → LoadFailure → Prop
  | failed (e : LoadFailure) (rest : List (Except LoadFailure Visualization)) :
      StopsAt r (.error e :: rest) e
  | taken (v : Visualization) (rest : List (Except LoadFailure Visualization))
      (known : v.name ∈ r.names) : StopsAt r (.ok v :: rest) (.duplicate v.name)

/-- How adding goes: all charts are added, or those in front of what stops it. -/
inductive Adds (r : Registry) :
    List (Except LoadFailure Visualization) → List Visualization → Option LoadFailure → Prop
  | all {charts : List Visualization} (accepted : r.Accepts charts) :
      Adds r (charts.map .ok) charts none
  | part {charts : List Visualization} {rest : List (Except LoadFailure Visualization)}
      {e : LoadFailure} (accepted : r.Accepts charts)
      (stops : (r.extendedBy charts).StopsAt rest e) :
      Adds r (charts.map .ok ++ rest) charts (some e)

/-- Every chart stands under its own name, and no name is given twice. -/
structure WellNamed (r : Registry) : Prop where
  own : ∀ entry ∈ r.entries, entry.1 = entry.2.name
  nodup : r.names.Nodup

/-- The library after several loadings, each of which may have failed. -/
def after (r : Registry) (loadings : List Loading) : Registry :=
  loadings.foldl (fun r loading => (r.addFolder loading.tree loading.folder).registry) r

variable {r : Registry} {v : Visualization} {charts first second : List Visualization}
variable {outcomes rest : List (Except LoadFailure Visualization)}
variable {failure : Option LoadFailure} {name : Option Text}

@[simp]
theorem names_extendedBy : (r.extendedBy charts).names = r.names ++ charts.map (·.name) := by
  simp [names, extendedBy]

@[simp]
theorem extendedBy_nil : r.extendedBy [] = r := by
  simp [extendedBy]

theorem extendedBy_append :
    r.extendedBy (first ++ second) = (r.extendedBy first).extendedBy second := by
  simp [extendedBy]

theorem extendedBy_inj : r.extendedBy first = r.extendedBy second ↔ first = second := by
  have hinjective : Function.Injective fun v : Visualization => (v.name, v) := by
    intro v w h
    exact congrArg Prod.snd h
  rw [extendedBy, extendedBy, mk.injEq, List.append_cancel_left_eq,
    List.map_inj_right fun _ _ h => hinjective h]

theorem extendedBy_eq_self_iff : r.extendedBy charts = r ↔ charts = [] := by
  calc r.extendedBy charts = r
      ↔ r.extendedBy charts = r.extendedBy [] := by rw [extendedBy_nil]
    _ ↔ charts = [] := extendedBy_inj

theorem add_of_free (h : v.name ∉ r.names) : r.add v = .ok (r.extendedBy [v]) := by
  rw [add, if_neg (by simpa using h)]
  rfl

theorem add_of_taken (h : v.name ∈ r.names) : r.add v = .error (.duplicate v.name) := by
  rw [add, if_pos (by simpa using h)]

theorem accepts_nil : r.Accepts [] :=
  ⟨by simp, List.nodup_nil⟩

/-- Charts can be added one part after the other. -/
theorem accepts_append_iff :
    r.Accepts (first ++ second) ↔ r.Accepts first ∧ (r.extendedBy first).Accepts second := by
  constructor
  · rintro ⟨hfree, hnodup⟩
    rw [List.map_append, List.nodup_append] at hnodup
    obtain ⟨hfirst, hsecond, hapart⟩ := hnodup
    refine ⟨⟨fun v hv => hfree v (List.mem_append_left _ hv), hfirst⟩, ⟨?_, hsecond⟩⟩
    intro v hv
    rw [names_extendedBy, List.mem_append, not_or]
    exact ⟨hfree v (List.mem_append_right _ hv),
      fun hname => hapart v.name hname v.name (List.mem_map_of_mem hv) rfl⟩
  · rintro ⟨⟨hfree, hfirst⟩, ⟨hlater, hsecond⟩⟩
    have hapart : ∀ v ∈ second, v.name ∉ r.names ∧ v.name ∉ first.map (·.name) := by
      intro v hv
      simpa [not_or] using hlater v hv
    constructor
    · intro v hv
      rcases List.mem_append.mp hv with hv | hv
      · exact hfree v hv
      · exact (hapart v hv).1
    · rw [List.map_append, List.nodup_append]
      refine ⟨hfirst, hsecond, ?_⟩
      rintro name hname other hother rfl
      obtain ⟨v, hv, rfl⟩ := List.mem_map.mp hother
      exact (hapart v hv).2 hname

theorem accepts_singleton_iff : r.Accepts [v] ↔ v.name ∉ r.names := by
  constructor
  · intro h
    exact h.free v List.mem_cons_self
  · intro h
    exact ⟨by simpa using h, by simp⟩

/-! ## One loading -/

/-- Charts that can be added are added, and adding goes on behind them. -/
theorem addEach_of_accepts (h : r.Accepts charts) :
    r.addEach (charts.map .ok ++ rest) = (r.extendedBy charts).addEach rest := by
  induction charts generalizing r with
  | nil => simp
  | cons v later ih =>
    rw [← List.singleton_append] at h ⊢
    obtain ⟨hv, hlater⟩ := accepts_append_iff.mp h
    rw [extendedBy_append, ← ih hlater, List.map_append, List.append_assoc, List.map_singleton,
      List.singleton_append, addEach, add_of_free (accepts_singleton_iff.mp hv)]

theorem addEach_of_stopsAt {e : LoadFailure} (h : r.StopsAt rest e) :
    r.addEach rest = ⟨r, some e⟩ := by
  cases h with
  | failed e rest => rw [addEach]
  | taken v rest known => rw [addEach, add_of_taken known]

/-- Adding goes in one of the two ways, whatever there is to add. -/
theorem exists_adds (r : Registry) (outcomes : List (Except LoadFailure Visualization)) :
    ∃ charts failure, r.Adds outcomes charts failure := by
  induction outcomes generalizing r with
  | nil => exact ⟨[], none, .all accepts_nil⟩
  | cons outcome later ih =>
    cases outcome with
    | error e =>
      have hstops : (r.extendedBy []).StopsAt (.error e :: later) e := .failed e later
      exact ⟨[], e, .part accepts_nil hstops⟩
    | ok v =>
      by_cases hknown : v.name ∈ r.names
      · have hstops : (r.extendedBy []).StopsAt (.ok v :: later) (.duplicate v.name) :=
          .taken v later (by simpa using hknown)
        exact ⟨[], _, .part accepts_nil hstops⟩
      · have hv : r.Accepts [v] := accepts_singleton_iff.mpr hknown
        obtain ⟨charts, failure, hadds⟩ := ih (r.extendedBy [v])
        refine ⟨[v] ++ charts, failure, ?_⟩
        cases hadds with
        | all accepted => exact .all (accepts_append_iff.mpr ⟨hv, accepted⟩)
        | part accepted stops =>
          rw [← extendedBy_append] at stops
          exact .part (accepts_append_iff.mpr ⟨hv, accepted⟩) stops

/-- The charts that are added and the failure are what adding leaves behind. -/
theorem Adds.addEach_eq (h : r.Adds outcomes charts failure) :
    r.addEach outcomes = ⟨r.extendedBy charts, failure⟩ := by
  cases h with
  | all accepted =>
    rw [← List.append_nil (List.map _ charts), addEach_of_accepts accepted, addEach]
  | part accepted stops => rw [addEach_of_accepts accepted, addEach_of_stopsAt stops]

/-- Adding comes to its end exactly when there is nothing to add but charts that can be added. -/
theorem addEach_eq_extendedBy_iff :
    r.addEach outcomes = ⟨r.extendedBy charts, none⟩ ↔
      outcomes = charts.map .ok ∧ r.Accepts charts := by
  constructor
  · intro h
    obtain ⟨added, failure, hadds⟩ := r.exists_adds outcomes
    rw [hadds.addEach_eq, Loaded.mk.injEq, extendedBy_inj] at h
    obtain ⟨rfl, rfl⟩ := h
    cases hadds with
    | all accepted => exact ⟨rfl, accepted⟩
  · rintro ⟨rfl, haccepts⟩
    exact (Adds.all haccepts).addEach_eq

/-- Adding succeeds exactly when there is nothing but charts to add and all of them can be added. -/
theorem addEach_failure_eq_none_iff :
    (r.addEach outcomes).failure = none ↔
      ∃ charts, outcomes = charts.map .ok ∧ r.Accepts charts := by
  constructor
  · intro hnone
    obtain ⟨charts, failure, hadds⟩ := r.exists_adds outcomes
    rw [hadds.addEach_eq] at hnone
    subst hnone
    exact ⟨charts, addEach_eq_extendedBy_iff.mp hadds.addEach_eq⟩
  · rintro ⟨charts, hcharts⟩
    rw [addEach_eq_extendedBy_iff.mpr hcharts]

/-- Nothing but a failure is left behind exactly when the first thing to add stops the loading. -/
theorem addEach_eq_self_iff {e : LoadFailure} :
    r.addEach outcomes = ⟨r, some e⟩ ↔ r.StopsAt outcomes e := by
  constructor
  · intro h
    obtain ⟨charts, failure, hadds⟩ := r.exists_adds outcomes
    rw [hadds.addEach_eq, Loaded.mk.injEq, extendedBy_eq_self_iff] at h
    obtain ⟨rfl, rfl⟩ := h
    cases hadds with
    | part accepted stops => simpa using stops
  · exact addEach_of_stopsAt

theorem Adds.accepts (h : r.Adds outcomes charts failure) : r.Accepts charts := by
  cases h with
  | all accepted => exact accepted
  | part accepted stops => exact accepted

theorem addFolder_eq (r : Registry) (tree : FileTree) (folder : Path) :
    r.addFolder tree folder = r.addEach (tree.charts folder) := by
  rw [addFolder, FileTree.charts]
  cases tree.sourcesIn folder with
  | error e => rfl
  | ok sources => rfl

/-- Loading a folder adds some charts, and leaves the library as it is otherwise. -/
theorem exists_addFolder (r : Registry) (tree : FileTree) (folder : Path) :
    ∃ charts, r.Accepts charts ∧ (r.addFolder tree folder).registry = r.extendedBy charts := by
  obtain ⟨charts, failure, hadds⟩ := r.exists_adds (tree.charts folder)
  refine ⟨charts, hadds.accepts, ?_⟩
  rw [addFolder_eq, hadds.addEach_eq]

/-! ## Many loadings -/

theorem after_append (earlier later : List Loading) :
    r.after (earlier ++ later) = (r.after earlier).after later :=
  List.foldl_append

/-- Several loadings add charts as one loading does, since what one of them added is there for the
next. -/
theorem exists_after (r : Registry) (loadings : List Loading) :
    ∃ charts, r.Accepts charts ∧ r.after loadings = r.extendedBy charts := by
  induction loadings generalizing r with
  | nil => exact ⟨[], accepts_nil, extendedBy_nil.symm⟩
  | cons loading later ih =>
    obtain ⟨first, hfirst, hadded⟩ := r.exists_addFolder loading.tree loading.folder
    obtain ⟨second, hsecond, hafter⟩ := ih (r.extendedBy first)
    refine ⟨first ++ second, accepts_append_iff.mpr ⟨hfirst, hsecond⟩, ?_⟩
    rw [extendedBy_append, ← hafter, ← hadded]
    rfl

theorem wellNamed_empty : empty.WellNamed :=
  ⟨by simp [empty], List.nodup_nil⟩

/-- Charts that can be added keep the library well named. -/
theorem WellNamed.extendedBy (h : r.WellNamed) (haccepts : r.Accepts charts) :
    (r.extendedBy charts).WellNamed := by
  constructor
  · intro entry hentry
    rcases List.mem_append.mp hentry with hold | hnew
    · exact h.own entry hold
    · obtain ⟨v, -, rfl⟩ := List.mem_map.mp hnew
      rfl
  · rw [names_extendedBy, List.nodup_append]
    refine ⟨h.nodup, haccepts.nodup, ?_⟩
    rintro name hname other hother rfl
    obtain ⟨v, hv, rfl⟩ := List.mem_map.mp hother
    exact haccepts.free v hv hname

theorem WellNamed.after (h : r.WellNamed) (loadings : List Loading) :
    (r.after loadings).WellNamed := by
  obtain ⟨charts, haccepts, heq⟩ := r.exists_after loadings
  rw [heq]
  exact h.extendedBy haccepts

theorem exists_find? (hname : name ∈ r.names) :
    ∃ v, r.entries.find? (·.1 == name) = some (name, v) := by
  obtain ⟨entry, hentry, hkey⟩ := List.mem_map.mp hname
  have hfound : (r.entries.find? (·.1 == name)).isSome :=
    List.find?_isSome.mpr ⟨entry, hentry, by simpa using hkey⟩
  obtain ⟨⟨key, v⟩, hsome⟩ := Option.isSome_iff_exists.mp hfound
  obtain rfl : key = name := by simpa using List.find?_some hsome
  exact ⟨v, hsome⟩

/-- A name that is there gives a chart of that name. -/
theorem WellNamed.exists_get? (h : r.WellNamed) (hname : name ∈ r.names) :
    ∃ v, r.get? name = some v ∧ v.name = name := by
  obtain ⟨v, hfound⟩ := exists_find? hname
  refine ⟨v, by rw [get?, hfound, Option.map_some], ?_⟩
  exact (h.own (name, v) (List.mem_of_find?_eq_some hfound)).symm

/-- A name that is there keeps its chart. -/
theorem get?_extendedBy (hname : name ∈ r.names) :
    (r.extendedBy charts).get? name = r.get? name := by
  obtain ⟨v, hfound⟩ := exists_find? hname
  rw [get?, get?, Registry.extendedBy, List.find?_append, hfound, Option.some_or]

/-- A library that began empty only grows and never changes what it has, whatever was loaded and
however the loadings ended. The names it had are the first of the names it has later, in the same
order; no two names are the same; every name is that of the chart it gives; and a name that was
there gives the same chart later. -/
theorem after_grows (earlier later : List Loading) :
    let before := empty.after earlier
    let now := empty.after (earlier ++ later)
    before.names <+: now.names ∧ now.names.Nodup ∧
      (∀ name ∈ now.names, ∃ v, now.get? name = some v ∧ v.name = name) ∧
      ∀ name ∈ before.names, now.get? name = before.get? name := by
  intro before now
  obtain ⟨charts, -, hcharts⟩ := before.exists_after later
  have hnow : now = before.extendedBy charts := by
    rw [← hcharts]
    exact after_append earlier later
  have hnamed : now.WellNamed := wellNamed_empty.after (earlier ++ later)
  refine ⟨?_, hnamed.nodup, fun name hname => hnamed.exists_get? hname, ?_⟩
  · rw [hnow, names_extendedBy]
    exact List.prefix_append _ _
  · intro name hname
    rw [hnow]
    exact get?_extendedBy hname

end Registry

end ChartQuery
