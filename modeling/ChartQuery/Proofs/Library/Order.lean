/-
# Loading in another order

Loading succeeds exactly when there is nothing but charts to add and no name is given twice, whether
the charts come from one folder or from several one after another (`allSucceed_iff`). Neither
depends on an order. So folders can be loaded, and the files of a folder visited, in any order: it
succeeds in all orders or in none, and then every name has the same chart and the same compiled
query (`after_perm`).

The order in which a library lists its charts is that in which they were added, and nothing is
claimed about it. Nor is it about what a loading that fails leaves behind.
-/

import Mathlib.Data.List.Perm.Basic
import ChartQuery.Proofs.Library.Growth

namespace ChartQuery.Registry

/-- Folders are loaded one after another, none of them with a failure. -/
def AllSucceed (r : Registry) : List Loading → Prop
  | [] => True
  | loading :: later =>
    (r.addFolder loading.tree loading.folder).failure = none ∧
      AllSucceed (r.addFolder loading.tree loading.folder).registry later

/-- Both libraries have the same chart under every name, so that it compiles to the same query or
fails in the same way. -/
structure SameByName (r s : Registry) : Prop where
  get?_eq : ∀ name, r.get? name = s.get? name
  compile_eq : ∀ name options, r.compile name options = s.compile name options

/-- What folders give, one after another. -/
def given (loadings : List Loading) : List (Except LoadFailure Visualization) :=
  loadings.flatMap fun loading => loading.tree.charts loading.folder

variable {r s : Registry} {charts reordered : List Visualization} {name : Option Text}
variable {v : Visualization} {outcomes visited : List (Except LoadFailure Visualization)}
variable {loadings others : List Loading}

theorem sameByName_of_get?_eq (h : ∀ name, r.get? name = s.get? name) : r.SameByName s := by
  refine ⟨h, ?_⟩
  intro name options
  simp only [compile, get, h name]

/-! ## What succeeds -/

/-- Several folders are loaded like one that gives what they give one after another. -/
theorem allSucceed_iff :
    r.AllSucceed loadings ↔ ∃ charts, given loadings = charts.map .ok ∧ r.Accepts charts := by
  induction loadings generalizing r with
  | nil =>
    constructor
    · intro _
      exact ⟨[], rfl, accepts_nil⟩
    · intro _
      trivial
  | cons loading later ih =>
    have hgiven : given (loading :: later) =
        loading.tree.charts loading.folder ++ given later := rfl
    rw [AllSucceed, addFolder_eq, addEach_failure_eq_none_iff, hgiven]
    constructor
    · rintro ⟨⟨first, hfirst, haccepts⟩, hlater⟩
      rw [addEach_eq_extendedBy_iff.mpr ⟨hfirst, haccepts⟩] at hlater
      obtain ⟨second, hsecond, hfree⟩ := ih.mp hlater
      exact ⟨first ++ second, by rw [hfirst, hsecond, List.map_append],
        accepts_append_iff.mpr ⟨haccepts, hfree⟩⟩
    · rintro ⟨charts, hcharts, haccepts⟩
      obtain ⟨first, second, rfl, hfirst, hsecond⟩ := List.append_eq_map_iff.mp hcharts
      obtain ⟨hbefore, hbehind⟩ := accepts_append_iff.mp haccepts
      refine ⟨⟨first, hfirst.symm, hbefore⟩, ?_⟩
      rw [addEach_eq_extendedBy_iff.mpr ⟨hfirst.symm, hbefore⟩]
      exact ih.mpr ⟨second, hsecond.symm, hbehind⟩

/-- Folders that are loaded without a failure leave their charts behind those that were there. -/
theorem after_eq_extendedBy (hgiven : given loadings = charts.map .ok)
    (haccepts : r.Accepts charts) : r.after loadings = r.extendedBy charts := by
  induction loadings generalizing r charts with
  | nil =>
    obtain rfl : charts = [] := List.map_eq_nil_iff.mp hgiven.symm
    exact extendedBy_nil.symm
  | cons loading later ih =>
    obtain ⟨first, second, rfl, hfirst, hsecond⟩ := List.append_eq_map_iff.mp hgiven
    obtain ⟨hbefore, hbehind⟩ := accepts_append_iff.mp haccepts
    have hstep : (r.addFolder loading.tree loading.folder).registry = r.extendedBy first := by
      rw [addFolder_eq, addEach_eq_extendedBy_iff.mpr ⟨hfirst.symm, hbefore⟩]
    calc r.after (loading :: later)
        = (r.extendedBy first).after later := by rw [← hstep]; rfl
      _ = (r.extendedBy first).extendedBy second := ih hsecond.symm hbehind
      _ = r.extendedBy (first ++ second) := extendedBy_append.symm

/-! ## Reordering -/

/-- Charts that can be added can be added in any order. -/
theorem Accepts.perm (h : r.Accepts charts) (hperm : reordered.Perm charts) :
    r.Accepts reordered :=
  ⟨fun v hv => h.free v (hperm.mem_iff.mp hv), (hperm.map _).nodup_iff.mpr h.nodup⟩

/-- A list of nothing but charts is one in any order. -/
theorem exists_charts_of_perm (hperm : visited.Perm (charts.map .ok)) :
    ∃ reordered : List Visualization, visited = reordered.map .ok ∧ reordered.Perm charts := by
  have hcomp := congrFun₂ (List.eq_map_comp_perm (Except.ok (ε := LoadFailure))) visited charts
  exact hcomp.mpr hperm

/-- Among charts whose names are apart, a name belongs to one of them. -/
theorem find?_eq_some_iff (h : (charts.map (·.name)).Nodup) :
    charts.find? (·.name == name) = some v ↔ v ∈ charts ∧ v.name = name := by
  induction charts with
  | nil => simp
  | cons first rest ih =>
    obtain ⟨hfresh, hrest⟩ := List.nodup_cons.mp h
    rw [List.find?_cons, List.mem_cons]
    by_cases hname : first.name = name
    · simp only [hname, beq_self_eq_true, Option.some.injEq]
      constructor
      · rintro rfl
        exact ⟨.inl rfl, hname⟩
      · rintro ⟨rfl | hv, hsame⟩
        · rfl
        · exact absurd (List.mem_map.mpr ⟨v, hv, hsame.trans hname.symm⟩) hfresh
    · simp only [beq_eq_false_iff_ne.mpr hname, ih hrest]
      constructor
      · rintro ⟨hv, hsame⟩
        exact ⟨.inr hv, hsame⟩
      · rintro ⟨rfl | hv, hsame⟩
        · exact absurd hsame hname
        · exact ⟨hv, hsame⟩

theorem find?_perm (h : (charts.map (·.name)).Nodup) (hperm : reordered.Perm charts) :
    reordered.find? (·.name == name) = charts.find? (·.name == name) := by
  have hreordered : (reordered.map (·.name)).Nodup := (hperm.map _).nodup_iff.mpr h
  apply Option.ext
  intro v
  rw [find?_eq_some_iff hreordered, find?_eq_some_iff h, hperm.mem_iff]

theorem get?_extendedBy_eq :
    (r.extendedBy charts).get? name =
      (r.get? name).or (charts.find? (·.name == name)) := by
  have hfound : (charts.map fun v => (v.name, v)).find? (·.1 == name) =
      (charts.find? (·.name == name)).map fun v => (v.name, v) := List.find?_map
  rw [get?, get?, extendedBy, List.find?_append, hfound, Option.map_or, Option.map_map]
  congr 1
  exact Option.map_id'

/-- A name has the same chart in whatever order the charts were added. -/
theorem Accepts.sameByName (h : r.Accepts charts) (hperm : reordered.Perm charts) :
    (r.extendedBy reordered).SameByName (r.extendedBy charts) := by
  apply sameByName_of_get?_eq
  intro name
  rw [get?_extendedBy_eq, get?_extendedBy_eq, find?_perm h.nodup hperm]

theorem addEach_perm (hperm : visited.Perm outcomes)
    (hnone : (r.addEach outcomes).failure = none) :
    (r.addEach visited).failure = none ∧
      (r.addEach visited).registry.SameByName (r.addEach outcomes).registry := by
  obtain ⟨charts, rfl, haccepts⟩ := addEach_failure_eq_none_iff.mp hnone
  obtain ⟨reordered, rfl, hreordered⟩ := exists_charts_of_perm hperm
  rw [addEach_eq_extendedBy_iff.mpr ⟨rfl, haccepts⟩,
    addEach_eq_extendedBy_iff.mpr ⟨rfl, haccepts.perm hreordered⟩]
  exact ⟨rfl, haccepts.sameByName hreordered⟩

theorem AllSucceed.perm (h : r.AllSucceed loadings) (hperm : others.Perm loadings) :
    r.AllSucceed others ∧ (r.after others).SameByName (r.after loadings) := by
  obtain ⟨charts, hgiven, haccepts⟩ := allSucceed_iff.mp h
  have hothers : (given others).Perm (charts.map .ok) := hgiven ▸ hperm.flatMap_right _
  obtain ⟨reordered, hreorder, hreordered⟩ := exists_charts_of_perm hothers
  rw [allSucceed_iff, after_eq_extendedBy hgiven haccepts,
    after_eq_extendedBy hreorder (haccepts.perm hreordered)]
  exact ⟨⟨reordered, hreorder, haccepts.perm hreordered⟩, haccepts.sameByName hreordered⟩

/-- Folders can be loaded in any order, and so can the files of a folder: either all orders succeed
or none does, and if they do, every name has the same chart and the same compiled query. -/
theorem after_perm (r : Registry) :
    (∀ loadings others : List Loading, others.Perm loadings →
      (r.AllSucceed others ↔ r.AllSucceed loadings) ∧
      (r.AllSucceed loadings → (r.after others).SameByName (r.after loadings))) ∧
    ∀ (tree : FileTree) (folder : Path) (sources visited : List Source),
      tree.sourcesIn folder = .ok sources → visited.Perm sources →
        ((r.addSources visited).failure = none ↔ (r.addFolder tree folder).failure = none) ∧
        ((r.addFolder tree folder).failure = none →
          (r.addSources visited).registry.SameByName (r.addFolder tree folder).registry) := by
  constructor
  · intro loadings others hperm
    exact ⟨⟨fun h => (h.perm hperm.symm).1, fun h => (h.perm hperm).1⟩, fun h => (h.perm hperm).2⟩
  · intro tree folder sources visited hsources hperm
    have hfolder : r.addFolder tree folder = r.addEach (sources.flatMap Source.charts) := by
      simp only [addFolder, hsources, addSources]
    have hcharts : (visited.flatMap Source.charts).Perm (sources.flatMap Source.charts) :=
      hperm.flatMap_right _
    rw [hfolder, addSources]
    exact ⟨⟨fun h => (addEach_perm hcharts.symm h).1, fun h => (addEach_perm hcharts h).1⟩,
      fun h => (addEach_perm hcharts h).2⟩

/-- Two folders in both orders, and the two files of another folder, visited from the last to the
first. -/
theorem after_perm_reversed :
    let file : List Text → String → Source := fun parts text =>
      ⟨⟨false, parts⟩, .file (text.toList.map fun c => .ofNat c.toNat)⟩
    let one := file ["charts", "one.yaml"] "type: bar\n"
    let two := file ["charts", "two.yaml"] "name: sales\n"
    let old : Loading := ⟨⟨[one]⟩, ⟨false, ["charts"]⟩⟩
    let new : Loading := ⟨⟨[two]⟩, ⟨false, ["charts"]⟩⟩
    let both : FileTree := ⟨[one, two]⟩
    (empty.AllSucceed [old, new] ∧ (empty.after [new, old]).SameByName (empty.after [old, new])) ∧
      both.sourcesIn ⟨false, ["charts"]⟩ = .ok [one, two] ∧
      (empty.addSources [two, one]).failure = none ∧
      (empty.addSources [two, one]).registry.SameByName
        (empty.addFolder both ⟨false, ["charts"]⟩).registry := by
  intro file one two old new both
  have hloaded : (empty.addFolder old.tree old.folder).failure.isNone ∧
      ((empty.after [old]).addFolder new.tree new.folder).failure.isNone := by
    decide +kernel
  have hbelow : both.below ⟨false, ["charts"]⟩ = [one, two] := by
    rw [FileTree.below]
    exact List.mergeSort_of_pairwise (by decide)
  have hsources : both.sourcesIn ⟨false, ["charts"]⟩ = .ok [one, two] := by
    have hfound : both.find ⟨false, ["charts"]⟩ = some .folder := by decide +kernel
    have hkept : [one, two].filter (fun s => sourceEndings.contains s.path.ending) = [one, two] :=
      List.filter_eq_self.mpr (by decide +kernel)
    simp only [FileTree.sourcesIn, hfound, hbelow, hkept]
  have hvisited : (empty.addSources [two, one]).failure.isNone := by decide +kernel
  obtain ⟨hfolders, hfiles⟩ := after_perm empty
  have hsucceed : empty.AllSucceed [old, new] :=
    ⟨Option.isNone_iff_eq_none.mp hloaded.1, Option.isNone_iff_eq_none.mp hloaded.2, trivial⟩
  have hnone := Option.isNone_iff_eq_none.mp hvisited
  obtain ⟨hiff, hsame⟩ := hfiles both _ _ [two, one] hsources (List.Perm.swap one two [])
  exact ⟨⟨hsucceed, (hfolders _ _ (List.Perm.swap old new [])).2 hsucceed⟩, hsources, hnone,
    hsame (hiff.mp hnone)⟩

end ChartQuery.Registry
