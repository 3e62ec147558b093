/-
# What expressions refer to

An expression refers to attributes in three places: it is compared over a date, it takes a total
over an attribute, and it restricts the attributes of the filters of its measure. The first two are
always attributes that the buckets give. The third is taken from the filters as it is, so an
expression refers to a missing attribute exactly where a filter that restricts something has none.
-/

import ChartQuery.Proofs.Metric.Dispatch

namespace ChartQuery

namespace Buckets

/-- The attribute is not empty, and a category or a date filter gives it. -/
def Gives (b : Buckets) (attributeUri : Text) : Prop :=
  attributeUri ≠ "" ∧ ((∃ c ∈ b.categories, c.attributeUri = some attributeUri) ∨
    ∃ f ∈ b.filters, ∃ d ∈ f.dateFilter, d.attributeUri = some attributeUri)

end Buckets

/-- A text that is there and not empty is that text. -/
theorem nonEmpty?_eq_some {text : Option Text} {s : Text} (h : nonEmpty? text = some s) :
    text = some s ∧ s ≠ "" := by
  unfold nonEmpty? at h
  split at h
  · split at h
    · cases h
    · next hne =>
      cases h
      exact ⟨rfl, hne⟩
  · cases h

namespace Buckets

variable {b : Buckets} {uri : Text}

theorem gives_shareAttribute (h : b.shareAttribute = some uri) : b.Gives uri := by
  obtain ⟨c, hc, hstated⟩ := Option.bind_eq_some_iff.mp h
  obtain ⟨hattribute, hne⟩ := nonEmpty?_eq_some hstated
  exact ⟨hne, Or.inl ⟨c, List.mem_of_head? hc, hattribute⟩⟩

theorem gives_dateAttribute (h : b.dateAttribute = some uri) : b.Gives uri := by
  unfold dateAttribute at h
  split at h
  · next c hc =>
    obtain ⟨hattribute, hne⟩ := nonEmpty?_eq_some h
    exact ⟨hne, Or.inl ⟨c, List.mem_of_find?_eq_some hc, hattribute⟩⟩
  · obtain ⟨d, hd, hstated⟩ := Option.bind_eq_some_iff.mp h
    obtain ⟨hattribute, hne⟩ := nonEmpty?_eq_some hstated
    obtain ⟨f, hf, hgiven⟩ := List.exists_of_findSome?_eq_some hd
    exact ⟨hne, Or.inr ⟨f, hf, d, hgiven, hattribute⟩⟩

end Buckets

namespace Expression

/-- How an expression of a measure is written, and over which attributes it is compared
(`FOR PREVIOUS`) or takes a total (`BY ALL`), the outermost first. -/
inductive Written (m : Measure) : Text → List Text → Prop
  | whole : Written m (aggregate m) []
  | part (total : Text) : Written m (share m (some total)) [total]
  | earlierObject (date : Text) (hplain : m.selections = []) :
      Written m (previous date (bracketed m.objectUri)) [date]
  | earlier (date inner : Text) (targets : List Text) (hinner : Written m inner targets) :
      Written m (previous date ("(" ++ inner ++ ")")) (date :: targets)

/-- A clause stands in the expression. -/
def Holds (expression : Text) (f : AttributeFilter) : Prop :=
  (clause f).toList <:+: expression.toList

/-- The expression restricts an attribute that is missing: it holds the clause of a filter of the
measure that has no attribute, and the clause has a word in its place. -/
def RestrictsMissing (m : Measure) (expression : Text) : Prop :=
  ∃ f ∈ m.selections, f.attributeUri = none ∧ ("[None] " : Text).toList <+: (clause f).toList ∧
    Holds expression f

variable {m : Measure} {f : AttributeFilter}

/-- The reference to a missing attribute is a word in brackets. -/
theorem clause_of_missing (h : f.attributeUri = none) :
    ("[None] " : Text).toList <+: (clause f).toList := by
  rw [clause, h]
  simp only [shown, Option.getD_none, bracketed, Text.toList_append, List.append_assoc]
  exact List.prefix_append _ _

theorem infix_joined {sep text : Text} {texts : List Text} (h : text ∈ texts) :
    text.toList <:+: (Text.joined sep texts).toList := by
  induction texts with
  | nil => cases h
  | cons first rest ih =>
    cases rest with
    | nil =>
      rw [List.mem_singleton.mp h]
      exact List.infix_refl _
    | cons second others =>
      rw [Text.joined, Text.toList_append, Text.toList_append]
      · rcases List.mem_cons.mp h with rfl | h
        · rw [List.append_assoc]
          exact (List.prefix_append _ _).isInfix
        · exact (ih h).trans (List.suffix_append _ _).isInfix
      · simp

/-- The tail of restrictions holds the clause of every filter of the measure that restricts
something. -/
theorem holds_restriction (hf : f ∈ m.selections) : Holds (restriction m) f := by
  unfold Holds restriction
  split
  · next hnone =>
    rw [hnone] at hf
    cases hf
  · rw [Text.toList_append]
    exact (infix_joined (List.mem_map_of_mem hf)).trans (List.suffix_append _ _).isInfix

theorem Holds.within {inner outer before after : Text} (h : Holds inner f)
    (houter : outer = before ++ inner ++ after) : Holds outer f := by
  apply List.IsInfix.trans h
  rw [houter, Text.toList_append, Text.toList_append]
  exact ⟨before.toList, after.toList, rfl⟩

/-- However an expression of the measure is written, it holds all these clauses. -/
theorem Written.holds {expression : Text} {targets : List Text}
    (h : Written m expression targets) (hf : f ∈ m.selections) : Holds expression f := by
  have hrestriction := holds_restriction hf
  induction h with
  | whole =>
    have hend : aggregate m = unrestricted m ++ restriction m ++ "" := by
      rw [aggregate, Text.append_empty]
    exact hrestriction.within hend
  | part total =>
    have hend : share m (some total) = _ ++ restriction m ++ ")" := rfl
    exact hrestriction.within hend
  | earlierObject date hplain =>
    rw [hplain] at hf
    cases hf
  | earlier date inner targets hinner ih =>
    have hparentheses : Holds ("(" ++ inner ++ ")") f := ih.within rfl
    have hselect : previous date ("(" ++ inner ++ ")") =
        "SELECT " ++ ("(" ++ inner ++ ")") ++ (" FOR PREVIOUS (" ++ (bracketed date ++ ")")) := by
      rw [previous, Text.append_assoc, Text.append_assoc]
    exact hparentheses.within hselect

end Expression

namespace Construction

variable {m : Measure} {b : Buckets} {index : Int} {g : GeneratedMetric}

/-- The expression is written for the measure, and everything that it is compared over or takes a
total over is given by the buckets. -/
def WrittenOver (b : Buckets) (m : Measure) (expression : Text) : Prop :=
  ∃ targets, Expression.Written m expression targets ∧ ∀ target ∈ targets, b.Gives target

theorem expression_of_generate {isPrevious : Bool} {token expression title : Text}
    {format : Option NumberFormat}
    (h : generate m index isPrevious token expression title format = .ok g) :
    g.expression = some expression := by
  obtain ⟨identifier, text, -, -, rfl⟩ := generate_eq_ok h
  rfl

theorem writtenOver_aggregate (b : Buckets) (m : Measure) :
    WrittenOver b m (Expression.aggregate m) :=
  ⟨[], Expression.Written.whole, by simp⟩

theorem writtenOver_share {uri : Text} (h : b.shareAttribute = some uri) (m : Measure) :
    WrittenOver b m (Expression.share m (some uri)) :=
  ⟨[uri], Expression.Written.part uri, by simpa using Buckets.gives_shareAttribute h⟩

theorem WrittenOver.previous {date inner : Text} (h : WrittenOver b m inner)
    (hdate : b.dateAttribute = some date) :
    WrittenOver b m (Expression.previous date ("(" ++ inner ++ ")")) := by
  obtain ⟨targets, hwritten, hgiven⟩ := h
  refine ⟨date :: targets, Expression.Written.earlier date inner targets hwritten, ?_⟩
  intro target htarget
  rcases List.mem_cons.mp htarget with rfl | htarget
  · exact Buckets.gives_dateAttribute hdate
  · exact hgiven target htarget

/-- The object of a measure has no restrictions when it is compared as it is. -/
theorem writtenOver_previousObject {date : Text} (hdate : b.dateAttribute = some date)
    (hplain : m.isDerived = false) :
    WrittenOver b m (Expression.previous date (Expression.bracketed m.objectUri)) := by
  have hselections : m.selections = [] := by
    simp only [Measure.isDerived, Bool.or_eq_false_iff] at hplain
    simpa [Measure.hasSelection] using hplain.2
  exact ⟨[date], Expression.Written.earlierObject date hselections,
    by simpa using Buckets.gives_dateAttribute hdate⟩

theorem writtenOver_of_shareMetric (h : shareMetric m b index = .ok g) :
    ∃ expression, g.expression = some expression ∧ WrittenOver b m expression := by
  obtain ⟨uri, huri, hshare⟩ := shareMetric_eq_ok h
  exact ⟨_, expression_of_generate hshare, writtenOver_share huri m⟩

/-- What a previous period is compared with is the object of the measure or is written over what the
buckets give, and so is the previous period. -/
theorem writtenOver_of_comparedMetric {date inner : Text} (hdate : b.dateAttribute = some date)
    (h : comparedMetric m index = .ok (g, inner)) :
    (∀ expression ∈ g.expression, WrittenOver b m expression) ∧
      WrittenOver b m (Expression.previous date inner) := by
  rcases comparedMetric_eq_ok h with ⟨-, haggregate, rfl⟩ | ⟨hplain, rfl, rfl⟩
  · have haggregated := writtenOver_aggregate b m
    refine ⟨?_, haggregated.previous hdate⟩
    intro expression hexpression
    rw [expression_of_generate haggregate] at hexpression
    cases hexpression
    exact haggregated
  · refine ⟨?_, writtenOver_previousObject hdate hplain⟩
    intro expression hexpression
    cases hexpression

/-- Whatever a construction makes with an expression is written over what the buckets give. -/
theorem writtenOver_of_build {c : Construction} {gs : List GeneratedMetric}
    (h : c.build m b index = .ok gs) (hg : g ∈ gs) :
    ∀ expression ∈ g.expression, WrittenOver b m expression := by
  intro expression hexpression
  cases c with
  | reference =>
    cases h
    rw [List.mem_singleton.mp hg] at hexpression
    cases hexpression
  | aggregate =>
    obtain ⟨own, haggregate, rfl⟩ := singleton_eq_ok h
    rw [List.mem_singleton.mp hg, expression_of_generate haggregate] at hexpression
    cases hexpression
    exact writtenOver_aggregate b m
  | share =>
    obtain ⟨own, hshare, rfl⟩ := singleton_eq_ok h
    obtain ⟨written, hwritten, hover⟩ := writtenOver_of_shareMetric hshare
    rw [List.mem_singleton.mp hg, hwritten] at hexpression
    cases hexpression
    exact hover
  | previous =>
    obtain ⟨date, inner, earlier, compared, hdate, hcompared, hearlier, rfl⟩ :=
      previousPair_eq_ok h
    obtain ⟨hown, hprevious⟩ := writtenOver_of_comparedMetric hdate hcompared
    rcases List.mem_cons.mp hg with rfl | hg
    · rw [expression_of_generate hearlier] at hexpression
      cases hexpression
      exact hprevious
    · rw [List.mem_singleton.mp hg] at hexpression
      exact hown expression hexpression
  | previousShare =>
    obtain ⟨date, earlier, compared, hdate, hshare, hearlier, rfl⟩ := previousSharePair_eq_ok h
    obtain ⟨uri, huri, hcompared⟩ := shareMetric_eq_ok hshare
    have hover := writtenOver_share huri m
    rcases List.mem_cons.mp hg with rfl | hg
    · rw [expression_of_generate hearlier, huri] at hexpression
      cases hexpression
      exact hover.previous hdate
    · rw [List.mem_singleton.mp hg, expression_of_generate hcompared] at hexpression
      cases hexpression
      exact hover

/-- Every construction but that of the object as it is makes a metric with an expression. -/
theorem exists_expression_of_build {c : Construction} {gs : List GeneratedMetric}
    (h : c.build m b index = .ok gs) (hc : c ≠ .reference) :
    ∃ g ∈ gs, ∃ expression, g.expression = some expression := by
  cases c with
  | reference => exact absurd rfl hc
  | aggregate =>
    obtain ⟨own, haggregate, rfl⟩ := singleton_eq_ok h
    exact ⟨own, by simp, _, expression_of_generate haggregate⟩
  | share =>
    obtain ⟨own, hshare, rfl⟩ := singleton_eq_ok h
    obtain ⟨written, hwritten, -⟩ := writtenOver_of_shareMetric hshare
    exact ⟨own, by simp, written, hwritten⟩
  | previous =>
    obtain ⟨date, inner, earlier, compared, -, -, hearlier, rfl⟩ := previousPair_eq_ok h
    exact ⟨earlier, by simp, _, expression_of_generate hearlier⟩
  | previousShare =>
    obtain ⟨date, earlier, compared, -, -, hearlier, rfl⟩ := previousSharePair_eq_ok h
    exact ⟨earlier, by simp, _, expression_of_generate hearlier⟩

end Construction

namespace RuleBook

variable {m : Measure} {b : Buckets} {index : Int} {g : GeneratedMetric}

/-- Under the standard rules a measure with a filter that restricts something has a metric with an
expression. -/
theorem exists_expression_of_selections {gs : List GeneratedMetric}
    (h : standard.metricsOf b index m = .ok gs) {f : AttributeFilter} (hf : f ∈ m.selections) :
    ∃ g ∈ gs, ∃ expression, g.expression = some expression := by
  obtain ⟨c, hdispatch, hbuild⟩ := exists_build_of_metricsOf h
  apply Construction.exists_expression_of_build hbuild
  rintro rfl
  obtain ⟨-, -, hplain, -⟩ := dispatch_standard_eq_ok_iff.mp hdispatch
  have hselection : m.hasSelection = true := by
    rw [Measure.hasSelection, Bool.not_eq_true', List.isEmpty_eq_false_iff_exists_mem]
    exact ⟨f, hf⟩
  simp [Measure.isDerived, hselection] at hplain

end RuleBook

end ChartQuery
