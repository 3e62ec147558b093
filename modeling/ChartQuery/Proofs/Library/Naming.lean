/-
# The names of loaded charts

Every chart of a library stands under its own name, and after loadings that succeed it is exactly
told where the name is from: the description states it, or it is the name of the file in which the
description stands alone. A description in a list has to state one, or it is reported as unnamed.

What counts as stating a name is that the key is there. A name that is stated to be null is taken,
so a library may have a chart without a name; it has one exactly when one of the descriptions states
null (`after_names`). Nothing more than being a text is claimed about a name: it may be empty.
-/

import ChartQuery.Proofs.Library.Order
import ChartQuery.Proofs.Schema.Reading
import ChartQuery.Proofs.Value.Field

namespace ChartQuery

open Schema

/-- The files that are read when a folder is loaded. -/
def Loading.sources (loading : Loading) : List Source :=
  match loading.tree.sourcesIn loading.folder with
  | .ok sources => sources
  | .error _ => []

/-- A file describes a chart: by the object that stands alone in it, which may go by the name of the
file, or by an item of its list. The name to fall back on comes with the description. -/
inductive Source.Describes (s : Source) : Option Text → Value → Prop
  | alone (held : Value) (fields : Fields) (holds : s.document = .ok held)
      (object : held.unmarked = .object fields) (single : Value.field? listKey fields = none) :
      Describes s s.path.stem held
  | listed (held : Value) (fields : Fields) (list : Value) (items : List Value) (item : Value)
      (holds : s.document = .ok held) (object : held.unmarked = .object fields)
      (found : Value.field? listKey fields = some list) (counted : list.items? = some items)
      (mem : item ∈ items) : Describes s none item

/-- The name that the fields of a description give: a text as it is stated, or the text that the
stated bytes encode. -/
inductive NamedAs (fallback : Option Text) (fields : Fields) : Option Text → Prop
  | text (name : Text) (given : Value.field? nameKey fields = some (.text name)) :
      NamedAs fallback fields (some name)
  | bytes (bs : List UInt8) (chars : List Char)
      (given : Value.field? nameKey fields = some (.bytes bs))
      (decoded : Text.decodeUtf8 bs = .ok chars) :
      NamedAs fallback fields (some (String.ofList chars))
  | null (given : Value.field? nameKey fields = some .null) : NamedAs fallback fields none
  | fallback (name : Text) (absent : Value.field? nameKey fields = none)
      (known : fallback = some name) : NamedAs fallback fields (some name)

variable {s : Source} {fields : Fields} {fallback name : Option Text} {v : Visualization}
variable {description : Value} {loadings : List Loading}

/-! ## The name of one chart -/

/-- A stated value that was read as a text gives a name. -/
theorem namedAs_of_readText {stated : Value} {name : Text}
    (h : readText stated = .accepted name)
    (hstated : Value.field? nameKey fields = some stated) :
    NamedAs fallback fields (some name) := by
  cases stated with
  | text found =>
    cases h
    exact .text name hstated
  | bytes bs =>
    simp only [readText] at h
    split at h
    · next chars hchars =>
      cases h
      exact .bytes bs chars hstated hchars
    · cases h
  | _ => cases h

/-- The name of a chart that was read is what its description states. -/
theorem namedAs_of_readVisualization {stated : Value} (hobject : description.fields = fields)
    (h : readVisualization description = .accepted v)
    (hstated : Value.field? nameKey fields = some stated) : NamedAs fallback fields v.name := by
  obtain ⟨-, -, hbuild⟩ := readRecord_eq_accepted h
  obtain ⟨_, buckets, h₂, -, rfl⟩ := Reading.seq_eq_accepted hbuild
  obtain ⟨_, kind, h₁, -, rfl⟩ := Reading.seq_eq_accepted h₂
  obtain ⟨name, hname, rfl⟩ := Reading.map_eq_accepted h₁
  have hfound : givenField (.single "name") description = some ("name", stated) := by
    rw [nameKey, ← hobject] at hstated
    simp only [givenField, FieldName.single, hstated]
  rw [Schema.optional] at hname
  simp only [hfound] at hname
  have hread := Reading.below_eq_accepted hname
  cases name with
  | some text =>
    exact namedAs_of_readText (readOptional_eq_accepted hread) hstated
  | none =>
    unfold readOptional at hread
    split at hread
    · exact .null hstated
    · obtain ⟨text, -, hnone⟩ := Reading.map_eq_accepted hread
      cases hnone

/-- There is no name exactly when null is stated for it. -/
theorem NamedAs.eq_none_iff (h : NamedAs fallback fields name) :
    name = none ↔ Value.field? nameKey fields = some .null := by
  cases h with
  | text name given =>
    constructor
    · rintro ⟨⟩
    · intro hnull
      rw [given] at hnull
      cases hnull
  | bytes bs chars given decoded =>
    constructor
    · rintro ⟨⟩
    · intro hnull
      rw [given] at hnull
      cases hnull
  | null given => exact iff_of_true rfl given
  | fallback text absent known =>
    constructor
    · rintro ⟨⟩
    · intro hnull
      rw [absent] at hnull
      cases hnull

theorem describedChart_eq_ok (h : describedChart description = .ok v) :
    ∃ fields, description.unmarked = .object fields ∧
      readVisualization description = .accepted v := by
  unfold describedChart at h
  split at h
  · next chart hchart =>
    cases h
    cases hread : readVisualization description with
    | accepted found =>
      rw [hread] at hchart
      cases hchart
      obtain ⟨fields, hobject, -⟩ := readRecord_eq_accepted hread
      exact ⟨fields, hobject, rfl⟩
    | rejected issues =>
      rw [hread] at hchart
      cases hchart
  · cases h

theorem fields_of_unmarked (h : description.unmarked = .object fields) :
    description.fields = fields := by
  cases description with
  | object found =>
    cases h
    rfl
  | cyclic place copy =>
    have hcopy : copy = .object fields := h
    rw [hcopy]
    rfl
  | _ => cases h

/-- What a collection that holds itself holds is told by what it is unrolled to. -/
theorem holds?_unmarked (needle : Text) (value : Value) :
    value.unmarked.holds? needle = value.holds? needle := by
  cases value <;> rfl

theorem field?_append_of_none {more : Fields} {key : Text} (h : Value.field? key fields = none) :
    Value.field? key (fields ++ more) = Value.field? key more := by
  induction fields with
  | nil => rfl
  | cons entry rest ih =>
    obtain ⟨k, value⟩ := entry
    by_cases hk : k = .text key
    · subst hk
      simp [Value.field?] at h
    · rw [Value.field?_cons_of_ne hk] at h
      rw [List.cons_append, Value.field?_cons_of_ne hk, ih h]

/-- A chart that is alone in its file falls back on the name of the file. -/
theorem namedAs_of_singleChart {path : Path} (h : singleChart path fields = .ok v) :
    NamedAs path.stem fields v.name := by
  obtain ⟨-, -, hread⟩ := describedChart_eq_ok h
  rw [namedAfter] at hread
  cases hstated : Value.field? nameKey fields with
  | some stated =>
    simp only [hstated] at hread
    exact namedAs_of_readVisualization rfl hread hstated
  | none =>
    simp only [hstated] at hread
    have hstem : Value.field? nameKey (fields ++ [(.text nameKey, .text path.stem)]) =
        some (.text path.stem) := by
      rw [field?_append_of_none hstated]
      simp [Value.field?]
    have hnamed : NamedAs none (fields ++ [(.text nameKey, .text path.stem)]) v.name :=
      namedAs_of_readVisualization rfl hread hstem
    generalize v.name = name at hnamed
    cases hnamed with
    | text name given =>
      rw [hstem] at given
      cases given
      exact .fallback _ hstated rfl
    | bytes bs chars given decoded =>
      rw [hstem] at given
      cases given
    | null given =>
      rw [hstem] at given
      cases given
    | fallback name absent known => cases known

theorem listedChart_eq_ok {path : Path} (h : listedChart path description = .ok v) :
    description.holds? nameKey = some true ∧ describedChart description = .ok v := by
  unfold listedChart at h
  split at h
  · cases h
  · cases h
  · next hholds => exact ⟨hholds, h⟩

/-- A chart from a list has the name that it states. -/
theorem namedAs_of_listedChart {path : Path} (h : listedChart path description = .ok v) :
    ∃ fields, description.unmarked = .object fields ∧ NamedAs none fields v.name := by
  obtain ⟨hholds, hdescribed⟩ := listedChart_eq_ok h
  obtain ⟨fields, hobject, hread⟩ := describedChart_eq_ok hdescribed
  have hisSome : (Value.field? nameKey fields).isSome = true := by
    rw [← holds?_unmarked, hobject] at hholds
    simpa [Value.holds?] using hholds
  obtain ⟨stated, hstated⟩ := Option.isSome_iff_exists.mp hisSome
  exact ⟨fields, hobject,
    namedAs_of_readVisualization (fields_of_unmarked hobject) hread hstated⟩

/-! ## The names in one file -/

namespace Source

/-- A description gives a chart under its name, or a failure. -/
theorem Describes.exists_outcome (h : s.Describes fallback description) :
    ∃ outcome ∈ s.charts, ∀ v, outcome = .ok v →
      ∃ fields, description.unmarked = .object fields ∧ NamedAs fallback fields v.name := by
  cases h with
  | alone held fields holds object single =>
    refine ⟨singleChart s.path fields, ?_, ?_⟩
    · simp [charts, holds, chartsOf, object, single]
    · intro v hv
      exact ⟨fields, object, namedAs_of_singleChart hv⟩
  | listed held fields list items item holds object found counted mem =>
    refine ⟨listedChart s.path description, ?_, ?_⟩
    · simp only [charts, holds, chartsOf, object, found, counted]
      exact List.mem_map_of_mem mem
    · intro v hv
      exact namedAs_of_listedChart hv

/-- An item of a list that states no name is reported as unnamed. -/
theorem Describes.unnamed (h : s.Describes none description)
    (hobject : description.unmarked = .object fields)
    (hunnamed : Value.field? nameKey fields = none) : .error (.unnamed s.path) ∈ s.charts := by
  cases h with
  | listed held outer list items item holds object found counted mem =>
    have hnone : description.holds? nameKey = some false := by
      rw [← holds?_unmarked, hobject]
      simp [Value.holds?, hunnamed]
    have hreport : listedChart s.path description = .error (.unnamed s.path) := by
      simp [listedChart, hnone]
    simp only [charts, holds, chartsOf, object, found, counted]
    rw [← hreport]
    exact List.mem_map_of_mem mem

/-- A chart that a file gives is that of the object in it or of an item of its list. -/
theorem exists_made (h : .ok v ∈ s.charts) :
    (∃ held fields, s.Describes s.path.stem held ∧ held.unmarked = .object fields ∧
      singleChart s.path fields = .ok v) ∨
      ∃ item, s.Describes none item ∧ listedChart s.path item = .ok v := by
  unfold charts at h
  split at h
  · simp at h
  · next held hheld =>
    unfold chartsOf at h
    split at h
    · cases h
    · next fields hobject =>
      split at h
      · next hsingle =>
        have hv : singleChart s.path fields = .ok v := (List.mem_singleton.mp h).symm
        exact .inl ⟨held, fields, .alone held fields hheld hobject hsingle, hobject, hv⟩
      · next listed hfound =>
        split at h
        · simp at h
        · next items hitems =>
          obtain ⟨item, hitem, hv⟩ := List.mem_map.mp h
          exact .inr
            ⟨item, .listed held fields listed items item hheld hobject hfound hitems hitem, hv⟩
    · simp at h

/-- Every chart that a file gives is described in it. -/
theorem exists_describes (h : .ok v ∈ s.charts) :
    ∃ fallback description fields, s.Describes fallback description ∧
      description.unmarked = .object fields ∧ NamedAs fallback fields v.name := by
  rcases exists_made h with ⟨held, fields, hdescribes, hobject, hv⟩ | ⟨item, hdescribes, hv⟩
  · exact ⟨_, held, fields, hdescribes, hobject, namedAs_of_singleChart hv⟩
  · obtain ⟨described, hobject, hnamed⟩ := namedAs_of_listedChart hv
    exact ⟨none, item, described, hdescribes, hobject, hnamed⟩

end Source

/-! ## The names of a library -/

namespace Registry

theorem mem_given {outcome : Except LoadFailure Visualization} {loading : Loading}
    (hloading : loading ∈ loadings) (hs : s ∈ loading.sources) (houtcome : outcome ∈ s.charts) :
    outcome ∈ given loadings := by
  apply List.mem_flatMap.mpr
  refine ⟨loading, hloading, ?_⟩
  unfold Loading.sources at hs
  unfold FileTree.charts
  split at hs
  · next sources hsources =>
    simp only [hsources]
    exact List.mem_flatMap.mpr ⟨s, hs, houtcome⟩
  · cases hs

theorem exists_source_of_mem_given (h : .ok v ∈ given loadings) :
    ∃ loading ∈ loadings, ∃ s ∈ loading.sources, .ok v ∈ s.charts := by
  obtain ⟨loading, hloading, hv⟩ := List.mem_flatMap.mp h
  unfold FileTree.charts at hv
  split at hv
  · simp at hv
  · next sources hsources =>
    obtain ⟨s, hs, hcharts⟩ := List.mem_flatMap.mp hv
    refine ⟨loading, hloading, s, ?_, hcharts⟩
    rw [Loading.sources]
    simpa only [hsources] using hs

/-- A chart that was added is found under its name. -/
theorem get?_of_mem {charts : List Visualization} (h : empty.Accepts charts) (hv : v ∈ charts) :
    (empty.extendedBy charts).get? v.name = some v := by
  rw [get?_extendedBy_eq, (find?_eq_some_iff h.nodup).mpr ⟨hv, rfl⟩]
  rfl

theorem mem_entries_of_get? {r : Registry} (h : r.get? name = some v) : (name, v) ∈ r.entries := by
  obtain ⟨⟨key, found⟩, hfound, rfl⟩ := Option.map_eq_some_iff.mp h
  obtain rfl : key = name := by simpa using List.find?_some hfound
  exact List.mem_of_find?_eq_some hfound

theorem mem_names_of_get? {r : Registry} (h : r.get? name = some v) : name ∈ r.names :=
  List.mem_map_of_mem (mem_entries_of_get? h)

/-- The names after folders were loaded without a failure. Every chart stands under its own name.
What is described in one of the files is there under the name that its description states or that
its file has; an item of a list has no name to fall back on and is reported as unnamed. All names
are texts exactly when no description states null for a name. -/
theorem after_names (h : empty.AllSucceed loadings) :
    let now := empty.after loadings
    (∀ name ∈ now.names, ∃ v, now.get? name = some v ∧ v.name = name) ∧
      (∀ loading ∈ loadings, ∀ s ∈ loading.sources, ∀ fallback description,
        s.Describes fallback description →
          ∃ fields v, description.unmarked = .object fields ∧ NamedAs fallback fields v.name ∧
            now.get? v.name = some v) ∧
      (∀ (s : Source) (description : Value) (fields : Fields), s.Describes none description →
        description.unmarked = .object fields → Value.field? nameKey fields = none →
          .error (.unnamed s.path) ∈ s.charts) ∧
      ((∀ name ∈ now.names, ∃ text, name = some text) ↔
        ∀ loading ∈ loadings, ∀ s ∈ loading.sources, ∀ fallback description fields,
          s.Describes fallback description → description.unmarked = .object fields →
            Value.field? nameKey fields ≠ some .null) := by
  intro now
  obtain ⟨charts, hgiven, haccepts⟩ := allSucceed_iff.mp h
  have hnow : now = empty.extendedBy charts := after_eq_extendedBy hgiven haccepts
  have hwellNamed : now.WellNamed := wellNamed_empty.after loadings
  have hdescribed : ∀ loading ∈ loadings, ∀ s ∈ loading.sources, ∀ fallback description,
      s.Describes fallback description →
        ∃ fields v, description.unmarked = .object fields ∧ NamedAs fallback fields v.name ∧
          now.get? v.name = some v := by
    intro loading hloading s hs fallback description hdescribes
    obtain ⟨outcome, houtcome, hname⟩ := hdescribes.exists_outcome
    have hmem := mem_given hloading hs houtcome
    rw [hgiven] at hmem
    obtain ⟨v, hv, rfl⟩ := List.mem_map.mp hmem
    obtain ⟨fields, hfields, hnamed⟩ := hname v rfl
    exact ⟨fields, v, hfields, hnamed, hnow ▸ get?_of_mem haccepts hv⟩
  refine ⟨fun name hname => hwellNamed.exists_get? hname, hdescribed,
    fun s description fields hdescribes => hdescribes.unnamed, ?_⟩
  constructor
  · intro htexts loading hloading s hs fallback description fields hdescribes hobject hnull
    obtain ⟨fields', v, hobject', hnamed, hfound⟩ :=
      hdescribed loading hloading s hs fallback _ hdescribes
    obtain rfl : fields = fields' := Value.object.inj (hobject.symm.trans hobject')
    rw [hnamed.eq_none_iff.mpr hnull] at hfound
    obtain ⟨text, htext⟩ := htexts none (mem_names_of_get? hfound)
    cases htext
  · intro hstated name hname
    rw [hnow, names_extendedBy] at hname
    obtain ⟨v, hv, rfl⟩ := List.mem_map.mp hname
    have hmem : .ok v ∈ given loadings := hgiven ▸ List.mem_map_of_mem hv
    obtain ⟨loading, hloading, s, hs, hcharts⟩ := exists_source_of_mem_given hmem
    obtain ⟨fallback, description, fields, hdescribes, hobject, hnamed⟩ :=
      Source.exists_describes hcharts
    have hsome : v.name ≠ none := fun hnone =>
      hstated loading hloading s hs fallback description fields hdescribes hobject
        (hnamed.eq_none_iff.mp hnone)
    exact Option.ne_none_iff_exists'.mp hsome

/-- A chart that states no name stands under the name of its file, where nothing states null. -/
theorem after_names_stem :
    let described := "type: bar\n"
    let file : Source := ⟨⟨false, ["charts", "sales.yaml"]⟩,
      .file (described.toList.map fun c => .ofNat c.toNat)⟩
    let loading : Loading := ⟨⟨[file]⟩, ⟨false, ["charts"]⟩⟩
    empty.AllSucceed [loading] ∧
      (∃ v, (empty.after [loading]).get? (some "sales") = some v ∧
        v.name = some ("sales" : Text)) ∧
      ∀ s ∈ loading.sources, ∀ fallback description fields, s.Describes fallback description →
        description.unmarked = .object fields → Value.field? nameKey fields ≠ some .null := by
  intro described file loading
  have hloaded : (empty.addFolder loading.tree loading.folder).failure.isNone ∧
      (empty.after [loading]).names = [some ("sales" : Text)] := by
    decide +kernel
  obtain ⟨hnone, hnames⟩ := hloaded
  have hsucceed : empty.AllSucceed [loading] := ⟨Option.isNone_iff_eq_none.mp hnone, trivial⟩
  obtain ⟨hown, -, -, htexts⟩ := after_names hsucceed
  have hsales : ∀ name ∈ (empty.after [loading]).names, ∃ text, name = some text := by
    simp [hnames]
  exact ⟨hsucceed, hown (some "sales") (by simp [hnames]),
    htexts.mp hsales loading List.mem_cons_self⟩

/-- A description that states null for its name, alone in its file and in a list: the chart is added
under no name. -/
theorem after_names_null :
    let file : String → Loading := fun text => ⟨⟨[⟨⟨false, ["charts", "sales.yaml"]⟩,
      .file (text.toList.map fun c => .ofNat c.toNat)⟩]⟩, ⟨false, ["charts"]⟩⟩
    let alone := file "name: null\ntype: table\n"
    let listed := file "visualizations:\n- name: null\n  type: table\n"
    (empty.AllSucceed [alone] ∧ (empty.after [alone]).names = [none]) ∧
      empty.AllSucceed [listed] ∧ (empty.after [listed]).names = [none] := by
  intro file alone listed
  have hloaded : ((empty.addFolder alone.tree alone.folder).failure.isNone ∧
      (empty.after [alone]).names = [none]) ∧
      (empty.addFolder listed.tree listed.folder).failure.isNone ∧
      (empty.after [listed]).names = [none] := by
    decide +kernel
  obtain ⟨⟨halone, hnoneAlone⟩, hlisted, hnoneListed⟩ := hloaded
  exact ⟨⟨⟨Option.isNone_iff_eq_none.mp halone, trivial⟩, hnoneAlone⟩,
    ⟨Option.isNone_iff_eq_none.mp hlisted, trivial⟩, hnoneListed⟩

end Registry

end ChartQuery
