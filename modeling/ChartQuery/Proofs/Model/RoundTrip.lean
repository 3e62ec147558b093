/-
# Charts that travel

The value of a chart holds every field of all its parts under the key that travels, whether the
field was given or not. Reading the value gives the chart back, with one difference that no field
shows: a bound of a date filter that was not given travels as null, and null is a bound like any
other (`Visualization.withBounds`).
-/

import ChartQuery.Model.Wire
import ChartQuery.Proofs.Model.Reader

namespace ChartQuery

open Schema

/-! ## Bounds that count as given -/

/-- The filter with both bounds given, null where one was missing. -/
def DateFilter.withBounds (f : DateFilter) : DateFilter :=
  { f with lower := some (f.lower.getD .null), upper := some (f.upper.getD .null) }

/-- The entry with both bounds of its date filter given. -/
def BucketFilter.withBounds (f : BucketFilter) : BucketFilter :=
  { f with dateFilter := f.dateFilter.map DateFilter.withBounds }

/-- The measure with all bounds of its filters given. -/
def Measure.withBounds (m : Measure) : Measure :=
  { m with filters := m.filters.map BucketFilter.withBounds }

/-- The buckets with all bounds given. -/
def Buckets.withBounds (b : Buckets) : Buckets :=
  { b with
    measures := b.measures.map Measure.withBounds
    filters := b.filters.map BucketFilter.withBounds }

/-- The chart with all bounds given. -/
def Visualization.withBounds (v : Visualization) : Visualization :=
  { v with buckets := v.buckets.withBounds }

/-! ## The parts of a chart -/

/-- What may be there is read as it is read when it is there, unless it is written as null. -/
theorem readOptional_ofOption {α β : Type} {write : α → Value} {read : Value → Reading β}
    {f : α → β} {found : Option α} (hnull : ∀ a, write a ≠ .null)
    (h : ∀ a ∈ found, read (write a) = .accepted (f a)) :
    readOptional read (.ofOption write found) = .accepted (found.map f) := by
  cases found with
  | none => rfl
  | some a =>
    rw [Value.ofOption, readOptional, h a rfl]
    · rfl
    · exact hnull a

theorem readSortSetting_toValue {setting : SortSetting} (h : setting.IsStated) :
    readSortSetting setting.toValue = .accepted setting := by
  cases setting with
  | plain direction => cases direction <;> rfl
  | targeted direction byPrevious => cases direction <;> rfl
  | asText text => exact h.elim

theorem readSelection_toValue (s : Selection) : readSelection s.toValue = .accepted s := by
  change Selection.mk <$> _ <*> _ = _
  refine Reading.seq_of_accepted (Reading.map_of_accepted ?elements) ?negative
  case elements => exact optional_of_field rfl (readList_map_self fun _ _ => rfl)
  case negative => exact optional_of_field rfl rfl

theorem readAttributeFilter_toValue (f : AttributeFilter) :
    readAttributeFilter f.toValue = .accepted f := by
  change AttributeFilter.mk <$> _ <*> _ <*> _ = _
  refine Reading.seq_of_accepted (Reading.seq_of_accepted (Reading.map_of_accepted ?attributeUri)
    ?displayForm) ?selection
  case attributeUri => exact optional_of_field rfl (readOptional_ofText? f.attributeUri)
  case displayForm => exact optional_of_field rfl (readOptional_ofText? f.displayForm)
  case selection => exact optional_of_field rfl (readSelection_toValue f.selection)

/-- A date filter is read back with bounds that count as given. -/
theorem readDateFilter_toValue (f : DateFilter) :
    readDateFilter f.toValue = .accepted f.withBounds := by
  change DateFilter.mk <$> _ <*> _ <*> _ <*> _ <*> _ <*> _ <*> _ = _
  refine Reading.seq_of_accepted (Reading.seq_of_accepted (Reading.seq_of_accepted
    (Reading.seq_of_accepted (Reading.seq_of_accepted (Reading.seq_of_accepted
      (Reading.map_of_accepted ?attributeUri) ?dimension) ?dataSet) ?lowercaseDataSet)
        ?granularity) ?lower) ?upper
  case attributeUri => exact optional_of_field rfl (readOptional_ofText? f.attributeUri)
  case dimension => exact optional_of_field rfl (readOptional_ofText? f.dimension)
  case dataSet => exact optional_of_field rfl (readOptional_ofText? f.dataSet)
  case lowercaseDataSet => exact optional_of_field rfl (readOptional_ofText? f.lowercaseDataSet)
  case granularity => exact optional_of_field rfl (readOptional_ofText? f.granularity)
  case lower => rfl
  case upper => rfl

theorem readBucketFilter_toValue (f : BucketFilter) :
    readBucketFilter f.toValue = .accepted f.withBounds := by
  change BucketFilter.mk <$> _ <*> _ = _
  refine Reading.seq_of_accepted (Reading.map_of_accepted ?attributeFilter) ?dateFilter
  case attributeFilter =>
    refine optional_of_field rfl ?_
    rw [readOptional_ofOption (f := id) nofun fun a _ => readAttributeFilter_toValue a,
      Option.map_id]
    rfl
  case dateFilter =>
    exact optional_of_field rfl
      (readOptional_ofOption nofun fun a _ => readDateFilter_toValue a)

/-- A measure is read back when its format and its sort setting can be stated. -/
theorem readMeasure_toValue {m : Measure} (h : m.IsStated) :
    readMeasure m.toValue = .accepted m.withBounds := by
  change Measure.mk <$> _ <*> _ <*> _ <*> _ <*> _ <*> _ <*> _ <*> _ <*> _ = _
  refine Reading.seq_of_accepted (Reading.seq_of_accepted (Reading.seq_of_accepted
    (Reading.seq_of_accepted (Reading.seq_of_accepted (Reading.seq_of_accepted
      (Reading.seq_of_accepted (Reading.seq_of_accepted (Reading.map_of_accepted
        ?objectUri) ?kind) ?aggregation) ?title) ?format) ?sort) ?showsPrevious) ?showsShare)
          ?filters
  case objectUri => exact required_of_field rfl rfl
  case kind => exact required_of_field rfl rfl
  case aggregation => exact optional_of_field rfl (readOptional_ofText? m.aggregation)
  case title => exact optional_of_field rfl (readOptional_ofText? m.title)
  case format =>
    obtain ⟨text, htext⟩ := NumberFormat.exists_text h.format
    refine optional_of_field rfl ?_
    rw [htext]
    cases text <;> rfl
  case sort =>
    refine optional_of_field rfl ?_
    have hnull : ∀ setting : SortSetting, setting.toValue ≠ .null := by
      rintro (_ | _ | _) ⟨⟩
    rw [readOptional_ofOption (f := id) hnull
      fun setting hsetting => readSortSetting_toValue (h.sort setting hsetting), Option.map_id]
    rfl
  case showsPrevious => exact optional_of_field rfl rfl
  case showsShare => exact optional_of_field rfl rfl
  case filters => exact optional_of_field rfl (readList_map fun f _ => readBucketFilter_toValue f)

theorem readCategory_toValue (c : Category) : readCategory c.toValue = .accepted c := by
  change Category.mk <$> _ <*> _ <*> _ <*> _ = _
  refine Reading.seq_of_accepted (Reading.seq_of_accepted (Reading.seq_of_accepted
    (Reading.map_of_accepted ?displayForm) ?kind) ?attributeUri) ?sort
  case displayForm => exact required_of_field rfl rfl
  case kind => exact optional_of_field rfl rfl
  case attributeUri => exact optional_of_field rfl (readOptional_ofText? c.attributeUri)
  case sort =>
    refine optional_of_field rfl ?_
    cases c.sort with
    | none => rfl
    | some d => cases d <;> rfl

theorem readMeasureItem_toItem {m : Measure} (h : m.IsStated) :
    readMeasureItem m.toItem = .accepted m.withBounds := by
  change required (.object [(.text "measure", m.toValue)]) (.single "measure") readMeasure = _
  exact required_of_field rfl (readMeasure_toValue h)

theorem readCategoryItem_toItem (c : Category) :
    readCategoryItem c.toItem = .accepted c := by
  change required (.object [(.text "category", c.toValue)]) (.single "category") readCategory = _
  exact required_of_field rfl (readCategory_toValue c)

/-! ## The whole chart -/

theorem readBuckets_toValue {b : Buckets} (h : ∀ m ∈ b.measures, m.IsStated) :
    readBuckets b.toValue = .accepted b.withBounds := by
  change Buckets.mk <$> _ <*> _ <*> _ = _
  refine Reading.seq_of_accepted (Reading.seq_of_accepted (Reading.map_of_accepted ?measures)
    ?categories) ?filters
  case measures =>
    exact optional_of_field rfl (readList_map fun m hm => readMeasureItem_toItem (h m hm))
  case categories =>
    exact optional_of_field rfl (readList_map_self fun c _ => readCategoryItem_toItem c)
  case filters => exact optional_of_field rfl (readList_map fun f _ => readBucketFilter_toValue f)

/-- A chart is read back from its value. -/
theorem readVisualization_toValue {v : Visualization} (h : ∀ m ∈ v.buckets.measures, m.IsStated) :
    readVisualization v.toValue = .accepted v.withBounds := by
  change Visualization.mk <$> _ <*> _ <*> _ = _
  refine Reading.seq_of_accepted (Reading.seq_of_accepted (Reading.map_of_accepted ?name) ?kind)
    ?buckets
  case name => exact optional_of_field rfl (readOptional_ofText? v.name)
  case kind => exact optional_of_field rfl (readOptional_ofText? v.kind)
  case buckets => exact optional_of_field rfl (readBuckets_toValue h)

/-! ## What is written -/

theorem DateFilter.toValue_withBounds (f : DateFilter) : f.withBounds.toValue = f.toValue :=
  rfl

theorem BucketFilter.toValue_withBounds (f : BucketFilter) :
    f.withBounds.toValue = f.toValue := by
  obtain ⟨attributeFilter, dateFilter⟩ := f
  cases dateFilter <;> rfl

theorem Measure.toValue_withBounds (m : Measure) : m.withBounds.toValue = m.toValue := by
  have hfilters : m.withBounds.filters.map BucketFilter.toValue =
      m.filters.map BucketFilter.toValue := by
    simp only [Measure.withBounds, List.map_map]
    exact List.map_congr_left fun f _ => f.toValue_withBounds
  simp only [Measure.toValue, hfilters]
  rfl

theorem Buckets.toValue_withBounds (b : Buckets) : b.withBounds.toValue = b.toValue := by
  have hmeasures : b.withBounds.measures.map Measure.toItem = b.measures.map Measure.toItem := by
    simp only [Buckets.withBounds, List.map_map]
    refine List.map_congr_left fun m _ => ?_
    simp only [Function.comp_apply, Measure.toItem, m.toValue_withBounds]
  have hfilters : b.withBounds.filters.map BucketFilter.toValue =
      b.filters.map BucketFilter.toValue := by
    simp only [Buckets.withBounds, List.map_map]
    exact List.map_congr_left fun f _ => f.toValue_withBounds
  simp only [Buckets.toValue, hmeasures, hfilters]
  rfl

/-- A missing bound and a bound of null are written alike. -/
theorem Visualization.toValue_withBounds (v : Visualization) :
    v.withBounds.toValue = v.toValue := by
  simp only [Visualization.toValue, Visualization.withBounds, v.buckets.toValue_withBounds]

end ChartQuery
