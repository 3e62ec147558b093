/-
# What a library says about its charts

Loading adds nothing but charts that were read from descriptions (`IsRead`), however it ends. Their
formats are texts, so why such a chart has no query is told by its description alone: asking for it
by its name fails for the reason that is stated there, and validation reports the charts that have
one, each with its reason and in the order of the library.
-/

import ChartQuery.Proofs.Library.Naming
import ChartQuery.Proofs.Model.Reader
import ChartQuery.Proofs.Query.Failure
import ChartQuery.Proofs.Query.Payload

namespace ChartQuery

/-- A chart that a file gives was read from a description. -/
theorem Source.exists_readVisualization {s : Source} {v : Visualization} (h : .ok v ∈ s.charts) :
    ∃ description, readVisualization description = .accepted v := by
  rcases exists_made h with ⟨held, fields, -, -, hsingle⟩ | ⟨item, -, hlisted⟩
  · obtain ⟨-, -, hread⟩ := describedChart_eq_ok hsingle
    exact ⟨_, hread⟩
  · obtain ⟨-, -, hread⟩ := describedChart_eq_ok (listedChart_eq_ok hlisted).2
    exact ⟨_, hread⟩

namespace Registry

/-- Every chart of the library was read from a description. -/
def IsRead (r : Registry) : Prop :=
  ∀ entry ∈ r.entries, ∃ description, readVisualization description = .accepted entry.2

/-- The report on a chart that has no query. -/
def complaint (name : Option Text) (e : CompileFailure) : Text :=
  "Visualization '" ++ shownName name ++ "': " ++ e.message

variable {r : Registry} {v : Visualization} {charts : List Visualization} {name : Option Text}
variable {outcomes : List (Except LoadFailure Visualization)} {failure : Option LoadFailure}

/-! ## What loading adds -/

/-- Only what there was to add is added. -/
theorem Adds.ok_mem (h : r.Adds outcomes charts failure) (hv : v ∈ charts) : .ok v ∈ outcomes := by
  cases h with
  | all accepted => exact List.mem_map_of_mem hv
  | part accepted stops => exact List.mem_append_left _ (List.mem_map_of_mem hv)

theorem isRead_empty : empty.IsRead := by
  simp [IsRead, empty]

theorem IsRead.addFolder (h : r.IsRead) (tree : FileTree) (folder : Path) :
    (r.addFolder tree folder).registry.IsRead := by
  obtain ⟨charts, failure, hadds⟩ := r.exists_adds (tree.charts folder)
  rw [addFolder_eq, hadds.addEach_eq]
  intro entry hentry
  rcases List.mem_append.mp hentry with hold | hnew
  · exact h entry hold
  · obtain ⟨v, hv, rfl⟩ := List.mem_map.mp hnew
    have hcharts := hadds.ok_mem hv
    unfold FileTree.charts at hcharts
    split at hcharts
    · simp at hcharts
    · obtain ⟨s, -, hs⟩ := List.mem_flatMap.mp hcharts
      exact s.exists_readVisualization hs

theorem IsRead.after (h : r.IsRead) (loadings : List Loading) : (r.after loadings).IsRead := by
  induction loadings generalizing r with
  | nil => exact h
  | cons loading later ih => exact ih (h.addFolder loading.tree loading.folder)

/-! ## Charts without a query -/

theorem IsRead.hasTextFormats (h : r.IsRead) {entry : Option Text × Visualization}
    (hentry : entry ∈ r.entries) : entry.2.HasTextFormats := by
  obtain ⟨description, hread⟩ := h entry hentry
  exact hasTextFormats_of_readVisualization hread

theorem compile_eq_error_compile_iff {options : CompileOptions} {e : CompileFailure} :
    r.compile name options = .error (.compile e) ↔
      ∃ v, r.get? name = some v ∧ Compile.chart v options = .error e := by
  rw [compile, get]
  cases r.get? name with
  | none => simp
  | some v =>
    simp only [Option.some.injEq, exists_eq_left']
    cases Compile.chart v options <;> simp

/-- After any loadings, asking for a chart by its name fails in compiling exactly for the reason
that its description has. -/
theorem compile_after_eq_error_iff (loadings : List Loading) (name : Option Text)
    (options : CompileOptions) (e : CompileFailure) :
    let r := empty.after loadings
    r.compile name options = .error (.compile e) ↔
      ∃ v, r.get? name = some v ∧ v.failure? options = some e := by
  intro r
  have hread : r.IsRead := isRead_empty.after loadings
  rw [compile_eq_error_compile_iff]
  apply exists_congr
  intro v
  apply and_congr_right
  intro hfound
  have hformats := hread.hasTextFormats (mem_entries_of_get? hfound)
  exact (Compile.chart_failsWith hformats options).eq_error_iff e

/-- After any loadings, validation reports exactly the charts whose description has a reason to
fail, each with the first that it has. -/
theorem complaints_after (loadings : List Loading) :
    let r := empty.after loadings
    r.complaints =
      r.entries.filterMap fun entry =>
        (entry.2.failure? .standard).map (complaint entry.1) := by
  intro r
  have hread : r.IsRead := isRead_empty.after loadings
  apply List.filterMap_congr
  rintro ⟨name, v⟩ hentry
  have hchart := Compile.chart_failsWith (hread.hasTextFormats hentry) .standard
  dsimp only at hchart ⊢
  cases hfailure : v.failure? .standard with
  | none =>
    obtain ⟨c, hc⟩ := hchart.exists_ok_iff.mpr hfailure
    simp only [hc, Option.map_none]
  | some e =>
    have he := (hchart.eq_error_iff e).mpr hfailure
    simp only [he, Option.map_some, complaint]

/-- After any loadings, validation has nothing to report exactly when there is a query for every
name of the library. -/
theorem complaints_after_eq_nil_iff (loadings : List Loading) :
    let r := empty.after loadings
    r.complaints = [] ↔ ∀ name ∈ r.names, ∃ c, r.compile name .standard = .ok c := by
  intro r
  have hread : r.IsRead := isRead_empty.after loadings
  obtain ⟨charts, haccepts, hafter⟩ := empty.exists_after loadings
  have hcharts : r = empty.extendedBy charts := hafter
  have hentries : r.entries = charts.map fun v => (v.name, v) := by
    rw [hcharts, extendedBy, empty, List.nil_append]
  have hfound : ∀ v ∈ charts, r.get? v.name = some v := fun v hv =>
    hcharts ▸ get?_of_mem haccepts hv
  have hquery : ∀ v ∈ charts,
      v.failure? .standard = none ↔ ∃ c, r.compile v.name .standard = .ok c := by
    intro v hv
    have hentry : (v.name, v) ∈ r.entries := hentries ▸ List.mem_map_of_mem hv
    have hchart := Compile.chart_failsWith (hread.hasTextFormats hentry) .standard
    simp only [compile_eq_ok_iff, hfound v hv, Option.some.injEq, exists_eq_left',
      hchart.exists_ok_iff]
  rw [complaints_after, hentries, List.filterMap_eq_nil_iff, List.forall_mem_map, names, hentries,
    List.map_map, List.forall_mem_map]
  simp only [Option.map_eq_none_iff]
  exact forall₂_congr hquery

end Registry

end ChartQuery
