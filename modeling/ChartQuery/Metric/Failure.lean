/-
# Failures of a compilation

Why a chart has no query. The first five concern a single measure: no rule takes it, the attribute
is missing over which it would be compared or shared, its object cannot be named, or the content of
its metric has no form in UTF-8, of which a name could be made. The others concern the result, which
would not have the form of a query.
-/

import ChartQuery.Schema.Issue

namespace ChartQuery

/-- Why a chart cannot be compiled. -/
inductive CompileFailure where
  | noRule (title : Option Text) (objectUri : Text)
  | noDateAttribute (title : Option Text)
  | noShareAttribute (title : Option Text)
  | malformedUri (uri : Text)
  | unencodable (halves : Unencodable)
  | foreignFormat (format : Value)
  | noColumnToSort
  | unnamedRange
  deriving Repr

namespace CompileFailure

/-- A title as it stands in a message. -/
def shownTitle (title : Option Text) : Text :=
  "'" ++ title.getD "None" ++ "'"

/-- The report for a result that would not have the form of a query. -/
def rejection? : CompileFailure → Option Schema.Rejection
  | .foreignFormat format =>
    some ⟨"MetricDefinition", [⟨[.key "format"], .notText, format⟩]⟩
  | .noColumnToSort => some ⟨"OrderBy", [⟨[.key "column"], .notText, .null⟩]⟩
  | .unnamedRange =>
    some ⟨"ExecutionConfiguration",
      [⟨[.key "where", .key "None", .key "[key]"], .notText, .null⟩]⟩
  | _ => none

/-- The words for a failure. -/
def message (failure : CompileFailure) : Text :=
  match failure with
  | .noRule title uri =>
    "Unknown metric strategy for measure " ++ shownTitle title ++ " (" ++ uri ++ ")"
  | .noDateAttribute title =>
    "Measure " ++ shownTitle title ++
      " shows previous period but the bucket has no date category or date filter"
  | .noShareAttribute title =>
    "Measure " ++ shownTitle title ++ " is shown in percent but the bucket has no category"
  | .malformedUri uri => "Malformed object uri: " ++ uri
  | .unencodable halves => halves.message
  | other =>
    match other.rejection? with
    | some r => r.message
    | none => ""

end CompileFailure

end ChartQuery
