/-
# Measures in charts that were read

A description states the format of a measure as text or not at all, and its sort setting as a
direction or as an object with a direction in it. Only a server can give a format that is something
else, and only a caller a direction of any words, so in every chart that was read all formats are
text and all sort settings have one of the two forms (`Measure.IsStated`).
-/

import ChartQuery.Model.Reader
import ChartQuery.Proofs.Query.Failure
import ChartQuery.Proofs.Schema.Reading

namespace ChartQuery

open Schema

/-- The sort setting has one of the forms that a description can state. -/
def SortSetting.IsStated : SortSetting → Prop
  | .plain _ => True
  | .targeted _ _ => True
  | .asText _ => False

/-- The format and the sort setting of the measure are such as a description can state. -/
structure Measure.IsStated (m : Measure) : Prop where
  format : m.HasTextFormat
  sort : ∀ setting ∈ m.sort, setting.IsStated

theorem isText_of_readFormat {value : Value} {format : NumberFormat}
    (h : readFormat value = .accepted format) : format.IsText := by
  obtain ⟨text, -, rfl⟩ := Reading.map_eq_accepted h
  exact trivial

theorem isStated_of_readSortSetting {value : Value} {setting : SortSetting}
    (h : readSortSetting value = .accepted setting) : setting.IsStated := by
  unfold readSortSetting at h
  split at h
  · cases h
    exact trivial
  · next htargeted =>
    cases h
    obtain ⟨fields, -, hfields⟩ := readRecord_eq_accepted (Reading.below_eq_accepted htargeted)
    obtain ⟨_, byPrevious, hdirection, -, rfl⟩ := Reading.seq_eq_accepted hfields
    obtain ⟨direction, -, rfl⟩ := Reading.map_eq_accepted hdirection
    exact trivial
  · cases h

theorem isStated_of_readMeasure {value : Value} {m : Measure}
    (h : readMeasure value = .accepted m) : m.IsStated := by
  obtain ⟨fields, -, hfields⟩ := readRecord_eq_accepted h
  -- The fields are read from the first to the last, so the last one is taken off first.
  obtain ⟨_, filters, h₈, -, rfl⟩ := Reading.seq_eq_accepted hfields
  obtain ⟨_, showsShare, h₇, -, rfl⟩ := Reading.seq_eq_accepted h₈
  obtain ⟨_, showsPrevious, h₆, -, rfl⟩ := Reading.seq_eq_accepted h₇
  obtain ⟨_, sort, h₅, hsort, rfl⟩ := Reading.seq_eq_accepted h₆
  obtain ⟨_, format, h₄, hformat, rfl⟩ := Reading.seq_eq_accepted h₅
  obtain ⟨_, title, h₃, -, rfl⟩ := Reading.seq_eq_accepted h₄
  obtain ⟨_, aggregation, h₂, -, rfl⟩ := Reading.seq_eq_accepted h₃
  obtain ⟨_, kind, h₁, -, rfl⟩ := Reading.seq_eq_accepted h₂
  obtain ⟨objectUri, -, rfl⟩ := Reading.map_eq_accepted h₁
  constructor
  · intro f hf
    rcases optional_eq_accepted hformat with rfl | ⟨stated, hstated⟩
    · cases hf
    · cases hf
      exact isText_of_readFormat (readOptional_eq_accepted hstated)
  · intro setting hsetting
    rcases optional_eq_accepted hsort with rfl | ⟨stated, hstated⟩
    · cases hsetting
    · cases hsetting
      exact isStated_of_readSortSetting (readOptional_eq_accepted hstated)

theorem isStated_of_mem_readBuckets {value : Value} {b : Buckets}
    (h : readBuckets value = .accepted b) {m : Measure} (hm : m ∈ b.measures) : m.IsStated := by
  obtain ⟨fields, -, hfields⟩ := readRecord_eq_accepted h
  obtain ⟨_, filters, h₂, -, rfl⟩ := Reading.seq_eq_accepted hfields
  obtain ⟨_, categories, h₁, -, rfl⟩ := Reading.seq_eq_accepted h₂
  obtain ⟨measures, hmeasures, rfl⟩ := Reading.map_eq_accepted h₁
  rcases optional_eq_accepted hmeasures with rfl | ⟨listed, hlisted⟩
  · cases hm
  · obtain ⟨items, -, hitems⟩ := readList_eq_accepted hlisted
    obtain ⟨wrapped, -, hwrapped⟩ := hitems m hm
    obtain ⟨item, -, hitem⟩ := readRecord_eq_accepted hwrapped
    obtain ⟨stated, hstated⟩ := required_eq_accepted hitem
    exact isStated_of_readMeasure hstated

/-- Every measure of a chart that was read is such as a description can state it. -/
theorem isStated_of_readVisualization {value : Value} {v : Visualization}
    (h : readVisualization value = .accepted v) : ∀ m ∈ v.buckets.measures, m.IsStated := by
  obtain ⟨fields, -, hfields⟩ := readRecord_eq_accepted h
  obtain ⟨_, buckets, h₂, hbuckets, rfl⟩ := Reading.seq_eq_accepted hfields
  obtain ⟨_, kind, h₁, -, rfl⟩ := Reading.seq_eq_accepted h₂
  obtain ⟨name, -, rfl⟩ := Reading.map_eq_accepted h₁
  intro m hm
  rcases optional_eq_accepted hbuckets with rfl | ⟨stated, hstated⟩
  · cases hm
  · exact isStated_of_mem_readBuckets hstated hm

/-- Every chart that was read has formats that are text. -/
theorem hasTextFormats_of_readVisualization {value : Value} {v : Visualization}
    (h : readVisualization value = .accepted v) : v.HasTextFormats :=
  fun m hm => (isStated_of_readVisualization h m hm).format

end ChartQuery
