/-
# The titles of a query

No metric of a query has a title that the server would reject: all titles come from the two title
functions, and neither exceeds the limit. Titles of measures may have any length.
-/

import ChartQuery.Proofs.Metric.Title
import ChartQuery.Proofs.Query.Resolution

namespace ChartQuery.Compile

variable {book : RuleBook} {v : Visualization} {options : CompileOptions} {c : Configuration}

/-- The title of every definition of a query fits. -/
theorem length_title_le (h : withRules book v options = .ok c) {d : Definition}
    (hd : d ∈ c.definitions) : d.title.length ≤ Title.limit := by
  obtain ⟨gs, hmetrics, -⟩ := withRules_eq_ok_iff.mp h
  rw [definitions_eq hmetrics h] at hd
  obtain ⟨g, hg, hdefinition⟩ := mem_definitions_iff.mp (Definition.mem_of_mem_arranged hd)
  obtain ⟨m, -, htitled⟩ := RuleBook.exists_titledFor_of_mem hmetrics hg
  exact htitled.length_title_le hdefinition

/-- Titles are fitted to the limit: a title and its suffix stay whole when they fit, and else have
exactly the length of the limit, with a mark that shows whether the title ended with a closing
parenthesis. So every metric of a query that compiles has a title within the limit, that of a
previous period ends with its suffix, and fitting a title again changes nothing. -/
theorem titles_are_fitted :
    (∀ (title : Option Text) (suffix : Text), suffix.length + 2 ≤ Title.limit →
        Title.IsFitted (title.getD "") suffix (Title.fitted (title.getD "") suffix)) ∧
      (∀ (book : RuleBook) (v : Visualization) (options : CompileOptions) (c : Configuration),
        withRules book v options = .ok c →
          (∃ gs, book.metrics v.buckets = .ok gs ∧ ∀ g ∈ gs,
            (∃ m ∈ v.buckets.measures, g.TitledFor m) ∧
              (∀ d, g.definition = some d → d.title.length ≤ Title.limit) ∧
              (g.isPrevious = true →
                ∃ d front, g.definition = some d ∧ d.title = front ++ Title.previousSuffix)) ∧
            ∀ d ∈ c.definitions, d.title.length ≤ Title.limit) ∧
      ∀ title : Option Text, Title.base (some (Title.base title)) = Title.base title := by
  refine ⟨fun title _ hsuffix => Title.isFitted_fitted (title.getD "") hsuffix,
    fun book v options c h => ⟨?metrics, fun d hd => length_title_le h hd⟩, Title.base_base⟩
  case metrics =>
    obtain ⟨gs, hmetrics, -⟩ := withRules_eq_ok_iff.mp h
    refine ⟨gs, hmetrics, fun g hg => ?_⟩
    obtain ⟨m, hm, htitled⟩ := RuleBook.exists_titledFor_of_mem hmetrics hg
    exact ⟨⟨m, hm, htitled⟩, fun d hd => htitled.length_title_le hd,
      htitled.exists_title_eq_append⟩

end ChartQuery.Compile
