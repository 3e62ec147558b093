/-
# Order entries and columns

The columns and the order of a query are taken from the same items, the categories that take part
and then the metrics, each by a filter of its own: a column has a name, and an order entry has a
direction. So the order entries with a name follow the columns. A bar chart with measures looks for
a name as well before it is sorted, but every other chart does not: where something without a name
asks for a direction, the query is ordered by a column that it does not request. The main statement
says exactly when; the example after it is the smallest such chart.
-/

import ChartQuery.Proofs.Query.Format

namespace ChartQuery

namespace Visualization

/-- The chart is sorted by its first metric, whatever else is asked for. -/
def SortsByFirst (v : Visualization) : Prop :=
  v.kind = some Compile.barKind ∧ v.buckets.measures ≠ []

instance (v : Visualization) : Decidable v.SortsByFirst := by
  unfold SortsByFirst
  infer_instance

/-- Something without a name asks for a direction: a category that takes part, or a measure for the
column of its object. -/
def SortsNameless (v : Visualization) (options : CompileOptions) : Prop :=
  (∃ c ∈ (Compile.shown v.buckets options).categories, c.displayForm = "" ∧ c.sort ≠ none) ∨
    ∃ m ∈ v.buckets.measures, m.objectUri = "" ∧ nonEmpty? (m.directionFor false) ≠ none

instance (v : Visualization) (options : CompileOptions) : Decidable (v.SortsNameless options) := by
  unfold SortsNameless
  infer_instance

end Visualization

namespace Compile

variable {book : RuleBook} {v : Visualization} {options : CompileOptions} {c : Configuration}
variable {metrics : List GeneratedMetric}

/-! ## Items and their entries -/

/-- What columns and order are taken from: the categories that take part, then the metrics. -/
def sortItems (v : Visualization) (options : CompileOptions) (metrics : List GeneratedMetric) :
    List SortItem :=
  categoryItems (shown v.buckets options).categories ++ metricItems metrics

/-- The directions that are asked for, one for each item that has a name. -/
def directions (items : List SortItem) : List (Option Text) :=
  (items.filter (·.1 ≠ ("" : Text))).map (·.2)

theorem columns_eq_map_filter (items : List SortItem) :
    columns items = (items.filter (·.1 ≠ ("" : Text))).map (·.1) := by
  rw [columns, List.filter_map]
  rfl

theorem mem_columns_iff {items : List SortItem} {name : Text} :
    name ∈ columns items ↔ (∃ item ∈ items, item.1 = name) ∧ name ≠ "" := by
  simp [columns]

theorem orderEntry?_eq_some_iff {item : SortItem} {o : OrderEntry} :
    orderEntry? item = some o ↔ item.1 = o.column ∧ nonEmpty? item.2 = some o.direction := by
  obtain ⟨column, direction⟩ := o
  simp [and_comm, orderEntry?]

/-- The entries with a name are those that the columns ask for, column by column. -/
theorem filter_orderEntries (items : List SortItem) :
    (items.filterMap orderEntry?).filter (·.column ≠ ("" : Text)) =
      ((columns items).zip (directions items)).filterMap orderEntry? := by
  have hitems : (columns items).zip (directions items) = items.filter (·.1 ≠ ("" : Text)) := by
    rw [columns_eq_map_filter, directions, List.zip_map']
    exact List.map_id _
  rw [hitems, List.filter_filterMap, List.filterMap_filter]
  congr 1
  funext item
  by_cases hname : item.1 = "" <;> cases hdirection : nonEmpty? item.2 <;>
    simp [hname, hdirection, orderEntry?]

/-- All entries name columns exactly when no item without a name asks for a direction. -/
theorem forall_mem_columns_iff (items : List SortItem) :
    (∀ o ∈ items.filterMap orderEntry?, o.column ∈ columns items) ↔
      ¬ ∃ item ∈ items, item.1 = "" ∧ nonEmpty? item.2 ≠ none := by
  constructor
  · rintro hcolumns ⟨item, hitem, hnameless, hasked⟩
    obtain ⟨direction, hdirection⟩ := Option.ne_none_iff_exists'.mp hasked
    have hentry : ⟨item.1, direction⟩ ∈ items.filterMap orderEntry? :=
      List.mem_filterMap.mpr ⟨item, hitem, orderEntry?_eq_some_iff.mpr ⟨rfl, hdirection⟩⟩
    exact (mem_columns_iff.mp (hcolumns _ hentry)).2 hnameless
  · intro hnone o ho
    obtain ⟨item, hitem, hentry⟩ := List.mem_filterMap.mp ho
    obtain ⟨hcolumn, hdirection⟩ := orderEntry?_eq_some_iff.mp hentry
    refine mem_columns_iff.mpr ⟨⟨item, hitem, hcolumn⟩, ?_⟩
    intro hempty
    exact hnone ⟨item, hitem, hcolumn.trans hempty, by simp [hdirection]⟩

/-! ## The items of a chart -/

/-- Every direction has a word. -/
theorem nonEmpty?_word_ne_none_iff (sort : Option Direction) :
    nonEmpty? (sort.map Direction.word) ≠ none ↔ sort ≠ none := by
  cases sort with
  | none => simp [nonEmpty?]
  | some direction => cases direction <;> simp [nonEmpty?, Direction.word]

/-- Among the items of a chart are those of its measures without an object, as these measures are
sorted: nothing else than their objects can be made from them. -/
theorem exists_nameless_metric_iff (h : book.metrics v.buckets = .ok metrics) :
    (∃ g ∈ metrics, g.element = "" ∧ nonEmpty? g.sort ≠ none) ↔
      ∃ m ∈ v.buckets.measures, m.objectUri = "" ∧ nonEmpty? (m.directionFor false) ≠ none := by
  constructor
  · rintro ⟨g, hg, hnameless, hasked⟩
    obtain ⟨position, m, hm, hmade⟩ := RuleBook.exists_madeFrom_of_mem h hg
    have hobject := hmade.element_eq_empty_iff.mp hnameless
    rw [hmade.eq_reference_of_nameless hnameless] at hasked
    exact ⟨m, List.mem_of_getElem? hm, hobject, hasked⟩
  · rintro ⟨m, hm, hobject, hasked⟩
    obtain ⟨g, hg, position, hmade⟩ := RuleBook.exists_mem_of_measure h hm
    have hnameless := hmade.element_eq_empty_iff.mpr hobject
    refine ⟨g, hg, hnameless, ?_⟩
    rw [hmade.eq_reference_of_nameless hnameless]
    exact hasked

theorem exists_nameless_item_iff (h : book.metrics v.buckets = .ok metrics) :
    (∃ item ∈ sortItems v options metrics, item.1 = "" ∧ nonEmpty? item.2 ≠ none) ↔
      v.SortsNameless options := by
  rw [Visualization.SortsNameless, ← exists_nameless_metric_iff h]
  simp only [sortItems, categoryItems, metricItems, List.mem_append, List.mem_map, or_and_right,
    exists_or, exists_exists_and_eq_and, nonEmpty?_word_ne_none_iff]

theorem sortsByFirst_iff (h : book.metrics v.buckets = .ok metrics) :
    v.SortsByFirst ↔ v.kind = some barKind ∧ metricItems metrics ≠ [] := by
  rw [Visualization.SortsByFirst, ne_eq, ← metrics_eq_nil_iff h]
  simp [metricItems]

/-- A bar chart with metrics is ordered by the first metric that has a name, the greatest value
first. -/
theorem orderBy_bar_eq_ok {kind : Option Text} {categories metricItems : List SortItem}
    {order : List OrderEntry} (hbar : kind = some barKind ∧ metricItems ≠ [])
    (h : orderBy kind categories metricItems = .ok order) :
    ∃ first others, columns metricItems = first :: others ∧
      order = [⟨first, Direction.descending.word⟩] := by
  rw [orderBy, if_pos hbar] at h
  split at h
  · next first hfirst =>
    obtain ⟨others, hcolumns⟩ := List.head?_eq_some_iff.mp hfirst
    cases h
    exact ⟨first, others, hcolumns, rfl⟩
  · cases h

/-- A bar chart with measures is ordered by the column behind those of the categories, the greatest
value first, and this is the column of its first metric with a name. -/
theorem orderBy_of_sortsByFirst (h : withRules book v options = .ok c) (hfirst : v.SortsByFirst) :
    ∃ first others, c.columns = categoryColumns v options ++ first :: others ∧
      (c.mappings.map (·.element)).filter (· ≠ ("" : Text)) = first :: others ∧
      c.orderBy = [⟨first, Direction.descending.word⟩] := by
  have hcolumns := columns_eq h
  obtain ⟨metrics, hmetrics, hassemble⟩ := withRules_eq_ok_iff.mp h
  obtain ⟨order, horder, -, rfl⟩ := assemble_eq_ok_iff.mp hassemble
  obtain ⟨first, others, hnamed, rfl⟩ :=
    orderBy_bar_eq_ok ((sortsByFirst_iff hmetrics).mp hfirst) horder
  have helements : ((metrics.map mapping).map (·.element)).filter (· ≠ ("" : Text)) =
      first :: others := by
    rw [← columns_metricItems_eq_elements, hnamed]
  exact ⟨first, others, by rw [hcolumns, helements], helements, rfl⟩

/-- Every other chart takes its columns and its order from the same items. -/
theorem orderBy_of_not_sortsByFirst (h : withRules book v options = .ok c)
    (hfirst : ¬ v.SortsByFirst) :
    ∃ metrics, book.metrics v.buckets = .ok metrics ∧
      c.columns = columns (sortItems v options metrics) ∧
      c.orderBy = (sortItems v options metrics).filterMap orderEntry? := by
  obtain ⟨metrics, hmetrics, hassemble⟩ := withRules_eq_ok_iff.mp h
  obtain ⟨order, horder, -, rfl⟩ := assemble_eq_ok_iff.mp hassemble
  rw [sortsByFirst_iff hmetrics] at hfirst
  rw [orderBy, if_neg hfirst] at horder
  cases horder
  exact ⟨metrics, hmetrics, rfl, rfl⟩

/-- When a query is ordered by columns that it requests, whatever rules made its metrics. All of its
order entries name columns exactly when the chart is sorted by its first metric or nothing without a
name asks for a direction; the entries with a name always name columns. Unless the chart is sorted
by its first metric, the entries with a name follow the columns: each column has the entry for the
direction that its category or its metric asks for, if it asks for one. -/
theorem withRules_orders (h : withRules book v options = .ok c) :
    ((∀ o ∈ c.orderBy, o.column ∈ c.columns) ↔
        v.SortsByFirst ∨ ¬ v.SortsNameless options) ∧
      (∀ o ∈ c.orderBy, o.column ≠ "" → o.column ∈ c.columns) ∧
      (¬ v.SortsByFirst → ∃ metrics, book.metrics v.buckets = .ok metrics ∧
        c.columns.length = (directions (sortItems v options metrics)).length ∧
        c.orderBy.filter (·.column ≠ ("" : Text)) =
          (c.columns.zip (directions (sortItems v options metrics))).filterMap orderEntry?) := by
  by_cases hfirst : v.SortsByFirst
  · obtain ⟨first, others, hcolumns, -, horder⟩ := orderBy_of_sortsByFirst h hfirst
    have hall : ∀ o ∈ c.orderBy, o.column ∈ c.columns := by
      simp [horder, hcolumns]
    exact ⟨iff_of_true hall (Or.inl hfirst), fun o ho _ => hall o ho,
      fun hnot => absurd hfirst hnot⟩
  · obtain ⟨metrics, hmetrics, hcolumns, horder⟩ := orderBy_of_not_sortsByFirst h hfirst
    rw [hcolumns, horder]
    refine ⟨?_, ?_, fun _ => ⟨metrics, hmetrics, ?_, filter_orderEntries _⟩⟩
    · rw [or_iff_right hfirst, ← exists_nameless_item_iff hmetrics]
      exact forall_mem_columns_iff _
    · intro o ho hnamed
      obtain ⟨item, hitem, hentry⟩ := List.mem_filterMap.mp ho
      exact mem_columns_iff.mpr
        ⟨⟨item, hitem, (orderEntry?_eq_some_iff.mp hentry).1⟩, hnamed⟩
    · rw [columns_eq_map_filter, directions, List.length_map, List.length_map]

/-- A sorted category and a sorted metric of the project, beside a category and a metric without a
name that ask for nothing. -/
theorem withRules_orders_sorted :
    let v : Visualization :=
      ⟨none, some "table",
        ⟨[⟨"", "metric", none, none, none, some (.targeted .ascending true), false, false, []⟩,
            ⟨"/gdc/md/p1/obj/7", "metric", none, none, none, some (.plain .descending), false,
              false, []⟩],
          [⟨"/gdc/md/p1/obj/3", "attribute", none, some .ascending⟩, ⟨"", "attribute", none, none⟩],
          []⟩⟩
    ∃ c, withRules .standard v .standard = .ok c ∧ (∀ o ∈ c.orderBy, o.column ∈ c.columns) ∧
      ∃ asked : List (Option Text), c.columns.length = asked.length ∧
        c.orderBy.filter (·.column ≠ ("" : Text)) =
          (c.columns.zip asked).filterMap orderEntry? := by
  intro v
  have hformats : v.HasTextFormats := by decide
  obtain ⟨c, hc⟩ : ∃ c, chart v .standard = .ok c := exists_chart hformats (by decide +kernel)
  obtain ⟨hall, -, hfollow⟩ := withRules_orders hc
  obtain ⟨metrics, -, hfollows⟩ := hfollow (by decide)
  exact ⟨c, hc, hall.mpr (Or.inr (by decide)), _, hfollows⟩

/-- A sorted category without a display form: the query is ordered by an empty column and requests
only that of the metric. -/
theorem chart_orders_nameless :
    let v : Visualization :=
      ⟨none, some "table",
        ⟨[⟨"/gdc/md/p1/obj/7", "metric", none, some "Orders", none, none, false, false, []⟩],
          [⟨"", "attribute", none, some .ascending⟩], []⟩⟩
    v.SortsNameless .standard ∧
      ∃ c, chart v .standard = .ok c ∧ c.orderBy = [⟨"", "asc"⟩] ∧
        c.columns = [("/gdc/md/p1/obj/7" : Text)] := by
  intro v
  have hcompiled : (chart v .standard).toOption.map (fun c => (c.orderBy, c.columns)) =
      some ([⟨"", "asc"⟩], [("/gdc/md/p1/obj/7" : Text)]) := by
    decide +kernel
  obtain ⟨c, hc, hboth⟩ := Option.map_eq_some_iff.mp hcompiled
  obtain ⟨horder, hcolumns⟩ := Prod.mk.inj hboth
  exact ⟨by decide, c, eq_ok_of_toOption hc, horder, hcolumns⟩

end Compile

end ChartQuery
