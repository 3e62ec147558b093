/-
# A file alone and in a folder

A file can be loaded for its only chart, or as the only file of a folder. The two ways agree on
every file that describes one chart: they give the same chart, and reject it for the same reason
(`loadChart_agrees`). They do not agree on a file that lists charts, because loading it for its only
chart reads the object that holds the list, and the fields of a chart are all optional there.
-/

import ChartQuery.Proofs.Library.FileTree

namespace ChartQuery

/-- The failure is that a description is not the description of a chart. -/
def LoadFailure.isRejection : LoadFailure → Bool
  | .rejected _ => true
  | _ => false

/-- The bytes are those of a file that lists several charts. -/
def listsCharts (bytes : List UInt8) : Bool :=
  match Yaml.read bytes with
  | .error _ => false
  | .ok held =>
    match held.unmarked with
    | .object fields => (Value.field? listKey fields).isSome
    | _ => false

variable {p q path folder : Path} {fields : Fields} {bytes : List UInt8} {tree other : FileTree}
variable {v : Visualization} {held listed : Value}

theorem singleChart_congr (h : p.name = q.name) : singleChart p fields = singleChart q fields := by
  rw [singleChart, singleChart, namedAfter, namedAfter, Path.stem_congr h]

theorem listedChart_eq_ok_iff {item : Value} :
    listedChart p item = .ok v ↔ item.holds? nameKey = some true ∧ describedChart item = .ok v := by
  cases hholds : item.holds? nameKey with
  | none => simp [listedChart, hholds]
  | some named => cases named <;> simp [listedChart, hholds]

namespace Source

theorem chart_of_object (h : Yaml.read bytes = .ok held)
    (hobject : held.unmarked = .object fields) :
    chart ⟨p, .file bytes⟩ = singleChart p fields := by
  simp [chart, document, h, hobject]

/-- A file that lists no charts gives its only chart in a folder, too. Or it holds something else:
then there is neither a chart nor a description that could be rejected. -/
theorem charts_eq_or (hname : p.name = q.name) (hlists : listsCharts bytes = false) :
    charts ⟨q, .file bytes⟩ = [chart ⟨p, .file bytes⟩] ∨
      (∃ e, chart ⟨p, .file bytes⟩ = .error e ∧ e.isRejection = false) ∧
        ∀ outcome ∈ charts ⟨q, .file bytes⟩, ∃ e, outcome = .error e ∧ e.isRejection = false := by
  cases hread : Yaml.read bytes with
  | error failure =>
    apply Or.inr
    simp [chart, charts, document, hread, LoadFailure.isRejection]
  | ok held =>
    cases hform : held.unmarked with
    | object fields =>
      apply Or.inl
      have hnone : Value.field? listKey fields = none := by
        simpa [listsCharts, hread, hform] using hlists
      rw [chart_of_object hread hform, singleChart_congr hname]
      simp [charts, document, chartsOf, hread, hform, hnone]
    | _ =>
      apply Or.inr
      simp [chart, charts, document, chartsOf, hread, hform, LoadFailure.isRejection]

theorem charts_eq_ok_iff (hname : p.name = q.name) (hlists : listsCharts bytes = false) :
    charts ⟨q, .file bytes⟩ = [.ok v] ↔ chart ⟨p, .file bytes⟩ = .ok v := by
  rcases charts_eq_or hname hlists with hsame | ⟨⟨e, herror, -⟩, hnone⟩
  · rw [hsame, List.singleton_inj]
  · apply iff_of_false
    · intro hv
      obtain ⟨e', hok, -⟩ := hnone (.ok v) (by simp [hv])
      cases hok
    · rw [herror]
      rintro ⟨⟩

theorem head?_charts_eq_rejected_iff {r : Schema.Rejection} (hname : p.name = q.name)
    (hlists : listsCharts bytes = false) :
    (charts ⟨q, .file bytes⟩).head? = some (.error (.rejected r)) ↔
      chart ⟨p, .file bytes⟩ = .error (.rejected r) := by
  rcases charts_eq_or hname hlists with hsame | ⟨⟨e, herror, hother⟩, hnone⟩
  · rw [hsame, List.head?_cons, Option.some.injEq]
  · apply iff_of_false
    · intro hr
      obtain ⟨e', he', hkept⟩ := hnone _ (List.mem_of_mem_head? hr)
      cases he'
      cases hkept
    · rw [herror]
      rintro ⟨⟩
      cases hother

/-- The list gives one chart and nothing else exactly when it consists of the named description of
that chart. -/
theorem charts_of_listed_iff (hread : Yaml.read bytes = .ok held)
    (hobject : held.unmarked = .object fields)
    (hlisted : Value.field? listKey fields = some listed) :
    charts ⟨q, .file bytes⟩ = [.ok v] ↔
      ∃ item, listed.items? = some [item] ∧ item.holds? nameKey = some true ∧
        describedChart item = .ok v := by
  cases hitems : listed.items? with
  | none => simp [charts, document, chartsOf, hread, hobject, hlisted, hitems]
  | some items =>
    have hgiven : charts ⟨q, .file bytes⟩ = items.map (listedChart q) := by
      simp [charts, document, chartsOf, hread, hobject, hlisted, hitems]
    simp only [hgiven, List.map_eq_singleton_iff, Option.some.injEq, listedChart_eq_ok_iff]

end Source

namespace Registry

/-- A library without charts takes one chart exactly when there is nothing else to add. -/
theorem addEach_empty_eq_one_iff {outcomes : List (Except LoadFailure Visualization)} :
    empty.addEach outcomes = ⟨⟨[(v.name, v)]⟩, none⟩ ↔ outcomes = [.ok v] := by
  have haccepts : empty.Accepts [v] := accepts_singleton_iff.mpr List.not_mem_nil
  calc empty.addEach outcomes = ⟨empty.extendedBy [v], none⟩
      ↔ outcomes = [.ok v] ∧ empty.Accepts [v] := addEach_eq_extendedBy_iff
    _ ↔ outcomes = [.ok v] := and_iff_left haccepts

/-- Nothing can be added to a library without charts exactly when a failure comes first. -/
theorem stopsAt_empty_iff {outcomes : List (Except LoadFailure Visualization)} {e : LoadFailure} :
    empty.StopsAt outcomes e ↔ outcomes.head? = some (.error e) := by
  constructor
  · intro h
    cases h with
    | failed e rest => rfl
    | taken v rest known => cases known
  · intro h
    obtain ⟨rest, rfl⟩ := List.head?_eq_some_iff.mp h
    exact .failed e rest

end Registry

namespace FileTree

open Registry

/-- Loading a file for its only chart, and loading a folder that holds this file and nothing else
into an empty library. If the file does not list charts, the one gives a chart exactly when the
other adds this chart under its name and nothing more, and the one rejects the description exactly
when the other stops for the same reason with nothing added. If it does, the one reads the object
that holds the list, and the other adds a chart and nothing more exactly when the list consists of
the named description of that chart. -/
theorem loadChart_agrees (hfile : tree.find path = some (.file bytes))
    (hending : path.ending ∈ sourceEndings) (honly : other.HoldsOnly folder path.name bytes) :
    (listsCharts bytes = false →
      (∀ v, tree.loadChart path = .ok v ↔
        empty.addFolder other folder = ⟨⟨[(v.name, v)]⟩, none⟩) ∧
      ∀ r, tree.loadChart path = .error (.rejected r) ↔
        empty.addFolder other folder = ⟨empty, some (.rejected r)⟩) ∧
    ∀ held fields listed, Yaml.read bytes = .ok held → held.unmarked = .object fields →
      Value.field? listKey fields = some listed →
        tree.loadChart path = singleChart path fields ∧
        ∀ v, empty.addFolder other folder = ⟨⟨[(v.name, v)]⟩, none⟩ ↔
          ∃ item, listed.items? = some [item] ∧ item.holds? nameKey = some true ∧
            describedChart item = .ok v := by
  have hchart : tree.loadChart path = Source.chart ⟨path, .file bytes⟩ := by
    rw [loadChart, hfile]
  have hname : path.name = (folder.below [path.name]).name := by simp [Path.name, Path.below]
  have hcharts : other.charts folder = Source.charts ⟨folder.below [path.name], .file bytes⟩ :=
    honly.charts_eq (Path.ending_congr hname ▸ hending)
  simp only [hchart, addFolder_eq, hcharts, addEach_empty_eq_one_iff, addEach_eq_self_iff,
    stopsAt_empty_iff]
  constructor
  · intro hlists
    exact ⟨fun v => (Source.charts_eq_ok_iff hname hlists).symm,
      fun r => (Source.head?_charts_eq_rejected_iff hname hlists).symm⟩
  · intro held fields listed hread hobject hlisted
    exact ⟨Source.chart_of_object hread hobject,
      fun v => Source.charts_of_listed_iff hread hobject hlisted⟩

/-- A chart without a name of its own: in its folder, too, it has the name of its file. -/
theorem loadChart_agrees_unnamed :
    let described := "type: bar\n"
    let path : Path := ⟨false, ["charts", "sales.yaml"]⟩
    let tree : FileTree := ⟨[⟨path, .file (described.toList.map fun c => .ofNat c.toNat)⟩]⟩
    ∃ v, tree.loadChart path = .ok v ∧ v.name = some ("sales" : Text) ∧
      empty.addFolder tree ⟨false, ["charts"]⟩ = ⟨⟨[(v.name, v)]⟩, none⟩ := by
  intro described path tree
  have hloads : (tree.loadChart path).toOption.map (·.name) = some (some ("sales" : Text)) ∧
      listsCharts (described.toList.map fun c => .ofNat c.toNat) = false := by
    decide +kernel
  obtain ⟨hchart, hlists⟩ := hloads
  have honly : tree.HoldsOnly ⟨false, ["charts"]⟩ path.name
      (described.toList.map fun c => .ofNat c.toNat) :=
    ⟨rfl, by simp [tree, path, Path.name, Path.below, settled, settledParts]⟩
  cases hv : tree.loadChart path with
  | error e =>
    rw [hv] at hchart
    cases hchart
  | ok v =>
    rw [hv] at hchart
    have hname : v.name = some ("sales" : Text) := Option.some.inj hchart
    exact ⟨v, rfl, hname, (((loadChart_agrees rfl (by decide) honly).1 hlists).1 v).mp hv⟩

/-- A file that lists one chart is also the description of another chart, which has the name of the
file. And a file that lists no charts can be loaded from its folder, although a field of the object
that holds the list is not what it should be in a description. -/
theorem loadChart_disagrees_on_lists :
    let path : Path := ⟨false, ["charts", "sales.yaml"]⟩
    let file : String → FileTree := fun text =>
      ⟨[⟨path, .file (text.toList.map fun c => .ofNat c.toNat)⟩]⟩
    let one := file "visualizations:\n- name: orders\n  type: table\n"
    let nothing := file "type: 5\nvisualizations: []\n"
    (one.loadChart path).toOption.map (·.name) = some (some ("sales" : Text)) ∧
      (empty.addFolder one ⟨false, ["charts"]⟩).registry.names = [some ("orders" : Text)] ∧
      (∃ e, nothing.loadChart path = .error e ∧ e.isRejection) ∧
      (empty.addFolder nothing ⟨false, ["charts"]⟩).failure.isNone := by
  intro path file one nothing
  have hone : (one.loadChart path).toOption.map (·.name) = some (some ("sales" : Text)) ∧
      (empty.addFolder one ⟨false, ["charts"]⟩).registry.names = [some ("orders" : Text)] := by
    decide +kernel
  have hnothing : (match nothing.loadChart path with
        | .ok _ => false
        | .error e => e.isRejection) = true ∧
      (empty.addFolder nothing ⟨false, ["charts"]⟩).failure.isNone := by
    decide +kernel
  refine ⟨hone.1, hone.2, ?_, hnothing.2⟩
  obtain ⟨hrejects, -⟩ := hnothing
  split at hrejects
  · cases hrejects
  · next e herror => exact ⟨e, herror, hrejects⟩

end FileTree

end ChartQuery
