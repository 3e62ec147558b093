import ChartQuery.Command.Invocation
import ChartQuery.Command.Option
import ChartQuery.Command.Page
import ChartQuery.Command.Run
import ChartQuery.Csv.Writer
import ChartQuery.Execution.Client
import ChartQuery.Execution.Failure
import ChartQuery.Execution.Header
import ChartQuery.Execution.Result
import ChartQuery.Execution.Server
import ChartQuery.Execution.Url
import ChartQuery.Json.Reader
import ChartQuery.Json.Writer
import ChartQuery.Library.FileTree
import ChartQuery.Library.Load
import ChartQuery.Library.Path
import ChartQuery.Library.Registry
import ChartQuery.Main
import ChartQuery.Metric.Construction
import ChartQuery.Metric.Definition
import ChartQuery.Metric.Dependency
import ChartQuery.Metric.Dispatch
import ChartQuery.Metric.Expression
import ChartQuery.Metric.Failure
import ChartQuery.Metric.Name
import ChartQuery.Metric.Title
import ChartQuery.Model.Filter
import ChartQuery.Model.Measure
import ChartQuery.Model.Reader
import ChartQuery.Model.Sort
import ChartQuery.Model.Visualization
import ChartQuery.Model.Wire
import ChartQuery.Number.Binary64
import ChartQuery.Number.Numeral
import ChartQuery.Number.Shortest
import ChartQuery.Query.Compile
import ChartQuery.Query.Configuration
import ChartQuery.Query.Where
import ChartQuery.Schema.Issue
import ChartQuery.Schema.Reading
import ChartQuery.Settings
import ChartQuery.Terminal.Cell
import ChartQuery.Terminal.Markup
import ChartQuery.Terminal.Pictograph
import ChartQuery.Terminal.PictographTable
import ChartQuery.Terminal.Table
import ChartQuery.Terminal.Wrap
import ChartQuery.Text.Basic
import ChartQuery.Text.Blank
import ChartQuery.Text.Case
import ChartQuery.Text.CaseTable
import ChartQuery.Text.CharTable
import ChartQuery.Text.Digest
import ChartQuery.Text.Digit
import ChartQuery.Text.Percent
import ChartQuery.Text.Piece
import ChartQuery.Text.Quoted
import ChartQuery.Text.Utf8
import ChartQuery.Value.Basic
import ChartQuery.Value.Display
import ChartQuery.Yaml.BlockScalar
import ChartQuery.Yaml.Content
import ChartQuery.Yaml.Cursor
import ChartQuery.Yaml.Document
import ChartQuery.Yaml.Failure
import ChartQuery.Yaml.Moment
import ChartQuery.Yaml.Node
import ChartQuery.Yaml.Plain
import ChartQuery.Yaml.Property
import ChartQuery.Yaml.QuotedScalar
import ChartQuery.Yaml.Scalar
import ChartQuery.Yaml.Tag
import ChartQuery.Yaml.Token
import ChartQuery.Yaml.TokenStream
import ChartQuery.Proofs.Metric.Dependency
import ChartQuery.Proofs.Metric.Name
import ChartQuery.Proofs.Metric.Arrangement
import ChartQuery.Proofs.Metric.Rearrangement
import ChartQuery.Proofs.Metric.Construction
import ChartQuery.Proofs.Metric.Dispatch
import ChartQuery.Proofs.Metric.Priority
import ChartQuery.Proofs.Metric.Title
import ChartQuery.Proofs.Metric.Parentheses
import ChartQuery.Proofs.Metric.Failure
import ChartQuery.Proofs.Query.Assembly
import ChartQuery.Proofs.Query.Failure
import ChartQuery.Proofs.Model.Reader
import ChartQuery.Proofs.Model.RoundTrip
import ChartQuery.Proofs.Query.Resolution
import ChartQuery.Proofs.Query.Title
import ChartQuery.Proofs.Metric.Content
import ChartQuery.Proofs.Query.Deduplication
import ChartQuery.Proofs.Execution.Alignment
import ChartQuery.Proofs.Execution.Matching
import ChartQuery.Proofs.Metric.Previous
import ChartQuery.Proofs.Query.Comparison
import ChartQuery.Proofs.Query.DateItems
import ChartQuery.Proofs.Metric.Request
import ChartQuery.Proofs.Metric.Reference
import ChartQuery.Proofs.Query.Reference
import ChartQuery.Proofs.Text.Delimited
import ChartQuery.Proofs.Metric.Phrase
import ChartQuery.Proofs.Metric.Decoding
import ChartQuery.Proofs.Json.Writer
import ChartQuery.Proofs.Value.Lookup
import ChartQuery.Proofs.Value.Field
import ChartQuery.Proofs.Query.Merge
import ChartQuery.Proofs.Query.Payload
import ChartQuery.Proofs.Metric.Format
import ChartQuery.Proofs.Query.Format
import ChartQuery.Proofs.Execution.Dialogue
import ChartQuery.Proofs.Execution.Protocol
import ChartQuery.Proofs.Execution.Lookup
import ChartQuery.Proofs.Query.Attribution
import ChartQuery.Proofs.Query.Order
import ChartQuery.Proofs.Metric.Sorting
import ChartQuery.Proofs.Query.Sorting
import ChartQuery.Proofs.Query.UnknownKind
import ChartQuery.Proofs.Query.Filtering
import ChartQuery.Proofs.Query.IdleFilters
import ChartQuery.Proofs.Query.Selection
import ChartQuery.Proofs.Library.Growth
import ChartQuery.Proofs.Library.Interruption
import ChartQuery.Proofs.Library.FileTree
import ChartQuery.Proofs.Library.SingleFile
import ChartQuery.Proofs.Query.RoundTrip
import ChartQuery.Proofs.Library.Order
import ChartQuery.Proofs.Library.Naming
import ChartQuery.Proofs.Library.Validation
import ChartQuery.Proofs.Json.Grammar
import ChartQuery.Proofs.Json.Reader
import ChartQuery.Proofs.Json.Portable
import ChartQuery.Proofs.Json.Decoded
import ChartQuery.Proofs.Yaml.Cursor
import ChartQuery.Proofs.Yaml.Plain
import ChartQuery.Proofs.Yaml.QuotedScalar
import ChartQuery.Proofs.Yaml.Scalar
import ChartQuery.Proofs.Yaml.TokenStream
import ChartQuery.Proofs.Yaml.Bracketed
import ChartQuery.Proofs.Yaml.Node
import ChartQuery.Proofs.Yaml.Document
import ChartQuery.Proofs.Library.JsonFile
import ChartQuery.Proofs.Execution.Result
import ChartQuery.Proofs.Terminal.Markup
import ChartQuery.Proofs.Command.Page
import ChartQuery.Proofs.Command.Boundary
import ChartQuery.Proofs.Metric.Independence
import ChartQuery.Proofs.Query.MeasureOrder
import ChartQuery.Proofs.Csv.Reader
import ChartQuery.Proofs.Command.Export
