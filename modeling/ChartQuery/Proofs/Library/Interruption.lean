/-
# Loadings that fail

A loading that fails does not take back what it has added. What stays is told exactly: the charts
that the folder gives in front of the failure, behind those that were there before. So the library
is as it was only when the very first thing that the folder gives stops the loading, and a folder
that has been corrected loads only if it names none of the charts that stayed
(`addFolder_keeps_added`).
-/

import ChartQuery.Proofs.Library.Growth

namespace ChartQuery.Registry

variable {r : Registry} {tree : FileTree} {folder : Path} {charts added : List Visualization}
variable {rest : List (Except LoadFailure Visualization)} {e : LoadFailure}

/-- A library with more charts takes what it took, less what has a name of one of them. -/
theorem accepts_extendedBy_iff :
    (r.extendedBy added).Accepts charts ↔
      r.Accepts charts ∧ ∀ v ∈ charts, v.name ∉ added.map (·.name) := by
  have hfree : ∀ v : Visualization,
      v.name ∉ (r.extendedBy added).names ↔ v.name ∉ r.names ∧ v.name ∉ added.map (·.name) := by
    intro v
    rw [names_extendedBy, List.mem_append, not_or]
  constructor
  · rintro ⟨hnames, hnodup⟩
    exact ⟨⟨fun v hv => ((hfree v).mp (hnames v hv)).1, hnodup⟩,
      fun v hv => ((hfree v).mp (hnames v hv)).2⟩
  · rintro ⟨⟨hnames, hnodup⟩, hapart⟩
    exact ⟨fun v hv => (hfree v).mpr ⟨hnames v hv, hapart v hv⟩, hnodup⟩

/-- A loading succeeds exactly when the folder gives nothing but charts and all of them can be
added. -/
theorem addFolder_failure_eq_none_iff :
    (r.addFolder tree folder).failure = none ↔
      ∃ charts, tree.charts folder = charts.map .ok ∧ r.Accepts charts := by
  rw [addFolder_eq]
  exact addEach_failure_eq_none_iff

/-- After a failure the library has the charts in front of what stopped the loading. -/
theorem exists_added_of_failure (h : (r.addFolder tree folder).failure = some e) :
    ∃ added rest, tree.charts folder = added.map .ok ++ rest ∧ r.Accepts added ∧
      (r.extendedBy added).StopsAt rest e ∧
      (r.addFolder tree folder).registry = r.extendedBy added := by
  rw [addFolder_eq] at h ⊢
  obtain ⟨added, failure, hadds⟩ := r.exists_adds (tree.charts folder)
  rw [hadds.addEach_eq] at h ⊢
  subst h
  generalize tree.charts folder = outcomes at hadds ⊢
  cases hadds with
  | part accepted stops => exact ⟨added, _, rfl, accepted, stops, rfl⟩

/-- A loading that fails changes nothing exactly when nothing comes in front of what stops it. -/
theorem registry_eq_self_iff (h : (r.addFolder tree folder).failure = some e) :
    (r.addFolder tree folder).registry = r ↔ r.StopsAt (tree.charts folder) e := by
  rw [← addEach_eq_self_iff, ← addFolder_eq]
  constructor
  · intro hsame
    calc r.addFolder tree folder
        = ⟨(r.addFolder tree folder).registry, (r.addFolder tree folder).failure⟩ := rfl
      _ = ⟨r, some e⟩ := by rw [hsame, h]
  · intro hself
    rw [hself]

/-- A folder can be loaded behind charts that were added exactly when it could be loaded without
them and gives none of their names. -/
theorem extendedBy_addFolder_failure_eq_none_iff :
    ((r.extendedBy added).addFolder tree folder).failure = none ↔
      (r.addFolder tree folder).failure = none ∧
        ∀ v, .ok v ∈ tree.charts folder → v.name ∉ added.map (·.name) := by
  rw [addFolder_failure_eq_none_iff, addFolder_failure_eq_none_iff]
  constructor
  · rintro ⟨charts, hgiven, haccepted⟩
    obtain ⟨hbefore, hapart⟩ := accepts_extendedBy_iff.mp haccepted
    refine ⟨⟨charts, hgiven, hbefore⟩, ?_⟩
    intro v hv
    apply hapart v
    simpa [hgiven] using hv
  · rintro ⟨⟨charts, hgiven, hbefore⟩, hapart⟩
    refine ⟨charts, hgiven, accepts_extendedBy_iff.mpr ⟨hbefore, ?_⟩⟩
    intro v hv
    apply hapart v
    rw [hgiven]
    exact List.mem_map_of_mem hv

/-- What a loading that fails leaves behind. The folder gives charts that can be added, and then
something that stops the loading for the reason that is reported; the library is what it was, with
these charts behind what it had. It is as it was exactly when nothing comes in front of what stops
the loading. Any folder can be loaded afterwards exactly when it could be loaded before and gives no
chart with a name of those that were added. -/
theorem addFolder_keeps_added (h : (r.addFolder tree folder).failure = some e) :
    ∃ added rest, tree.charts folder = added.map .ok ++ rest ∧ r.Accepts added ∧
      (r.extendedBy added).StopsAt rest e ∧
      (r.addFolder tree folder).registry = r.extendedBy added ∧
      ((r.addFolder tree folder).registry = r ↔ r.StopsAt (tree.charts folder) e) ∧
      ∀ tree' folder', ((r.addFolder tree folder).registry.addFolder tree' folder').failure = none ↔
        (r.addFolder tree' folder').failure = none ∧
          ∀ v, .ok v ∈ tree'.charts folder' → v.name ∉ added.map (·.name) := by
  obtain ⟨added, rest, hcharts, haccepts, hstops, hleft⟩ := exists_added_of_failure h
  refine ⟨added, rest, hcharts, haccepts, hstops, hleft, registry_eq_self_iff h, ?_⟩
  intro tree' folder'
  rw [hleft]
  exact extendedBy_addFolder_failure_eq_none_iff

/-- A file that lists a chart, and behind it one without a name: the first chart stays. -/
theorem addFolder_keeps_added_first :
    let listed := "visualizations:\n- name: sales\n- type: bar\n"
    let tree : FileTree := ⟨[⟨⟨false, ["charts", "all.yaml"]⟩,
      .file (listed.toList.map fun c => .ofNat c.toNat)⟩]⟩
    ∃ e added, (empty.addFolder tree ⟨false, ["charts"]⟩).failure = some e ∧
      (empty.addFolder tree ⟨false, ["charts"]⟩).registry = empty.extendedBy added ∧
      added.map (·.name) = [some ("sales" : Text)] := by
  intro listed tree
  have hrun : (empty.addFolder tree ⟨false, ["charts"]⟩).failure.isSome ∧
      (empty.addFolder tree ⟨false, ["charts"]⟩).registry.names = [some ("sales" : Text)] := by
    decide +kernel
  obtain ⟨hfails, hnames⟩ := hrun
  obtain ⟨e, he⟩ := Option.isSome_iff_exists.mp hfails
  obtain ⟨added, rest, -, -, -, hleft, -⟩ := addFolder_keeps_added he
  refine ⟨e, added, he, hleft, ?_⟩
  rw [hleft, names_extendedBy] at hnames
  simpa [names, empty] using hnames

/-- The same file after the second chart has been given a name: an empty library loads it, but the
one that failed to load it before does not, because the first chart is still there. -/
theorem addFolder_refuses_corrected :
    let file : String → FileTree := fun listed => ⟨[⟨⟨false, ["charts", "all.yaml"]⟩,
      .file (listed.toList.map fun c => .ofNat c.toNat)⟩]⟩
    let broken := file "visualizations:\n- name: sales\n- type: bar\n"
    let corrected := file "visualizations:\n- name: sales\n- name: orders\n  type: bar\n"
    let left := empty.addFolder broken ⟨false, ["charts"]⟩
    left.failure.isSome ∧ left.registry.names ≠ empty.names ∧
      (empty.addFolder corrected ⟨false, ["charts"]⟩).failure.isNone ∧
      (left.registry.addFolder corrected ⟨false, ["charts"]⟩).failure.map LoadFailure.message =
        some ("Duplicate visualization: sales" : Text) := by
  decide +kernel

end ChartQuery.Registry
