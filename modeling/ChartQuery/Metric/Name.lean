/-
# Names of generated metrics

A generated metric is named by its content: the digest of its expression, title and format, so that
equal definitions have equal names and the server can use again what it knows. Content that has no
form in UTF-8 has no digest. The name also shows the kind and the object of the measure, whether the
measure is filtered, and what is computed.
-/

import ChartQuery.Metric.Failure
import ChartQuery.Model.Measure
import ChartQuery.Text.Digest
import ChartQuery.Text.Piece

namespace ChartQuery.MetricName

/-- The content that is digested. A missing format counts as an empty one. -/
def content (expression title : Text) (format : Option Text) : Text :=
  expression ++ "#" ++ title ++ "#" ++ format.getD ""

/-- The digest of a definition's content. -/
def contentDigest (expression title : Text) (format : Option Text) : Except Unencodable String :=
  (content expression title format).string.map Text.digest

/-- The project and the object of a uri: its fourth and sixth segment. -/
def objectOf (uri : Text) : Except CompileFailure (Text × Text) :=
  match Text.pieces (.char '/') uri.toList with
  | _ :: _ :: _ :: project :: _ :: object :: _ =>
    .ok (Text.ofList project, Text.ofList object)
  | _ => .error (.malformedUri uri)

/-- The name of a metric generated for a measure; `token` says what is computed. -/
def ofContent (m : Measure) (token expression title : Text) (format : Option Text) :
    Except CompileFailure Text :=
  match objectOf m.objectUri with
  | .error e => .error e
  | .ok (project, object) =>
    match contentDigest expression title format with
    | .error halves => .error (.unencodable halves)
    | .ok digest =>
      .ok (m.kind ++ "_" ++ project ++ "_" ++ object ++ ".generated." ++ digest ++
        (if m.hasSelection then "_filtered" else "") ++ "_" ++ token)

end ChartQuery.MetricName
