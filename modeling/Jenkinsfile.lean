import Jenkinsfile.Argument.Basic
import Jenkinsfile.Argument.Check
import Jenkinsfile.Argument.Composite
import Jenkinsfile.Argument.Definition
import Jenkinsfile.Argument.Kind
import Jenkinsfile.Argument.Normal
import Jenkinsfile.Binding
import Jenkinsfile.CommandLine.Arguments
import Jenkinsfile.CommandLine.Command
import Jenkinsfile.CommandLine.Run
import Jenkinsfile.Decimal.Binary
import Jenkinsfile.Decimal.Notation
import Jenkinsfile.Decimal.Reader
import Jenkinsfile.Decimal.Shortest
import Jenkinsfile.Error
import Jenkinsfile.Expression.Evaluate
import Jenkinsfile.Expression.Function
import Jenkinsfile.Expression.Reader
import Jenkinsfile.Failure
import Jenkinsfile.FileTree
import Jenkinsfile.GlobalVariable
import Jenkinsfile.Json.Reader
import Jenkinsfile.Json.Writer
import Jenkinsfile.Main
import Jenkinsfile.Manifest.Basic
import Jenkinsfile.Manifest.Check
import Jenkinsfile.Manifest.Load
import Jenkinsfile.Manifest.Loader
import Jenkinsfile.Manifest.Shape
import Jenkinsfile.Pattern.Basic
import Jenkinsfile.Pattern.Reader
import Jenkinsfile.Pattern.Search
import Jenkinsfile.Pipeline.Agent
import Jenkinsfile.Pipeline.Basic
import Jenkinsfile.Pipeline.Compile
import Jenkinsfile.Pipeline.Render
import Jenkinsfile.Pipeline.Resolution
import Jenkinsfile.Placeholder
import Jenkinsfile.Proofs.Argument.Aggregation
import Jenkinsfile.Proofs.Argument.Normal
import Jenkinsfile.Proofs.Argument.Pattern
import Jenkinsfile.Proofs.Argument.Registration
import Jenkinsfile.Proofs.Expression.Grammar
import Jenkinsfile.Proofs.Expression.Meaning
import Jenkinsfile.Proofs.Expression.Outcome
import Jenkinsfile.Proofs.Expression.Parts
import Jenkinsfile.Proofs.Expression.RoundTrip
import Jenkinsfile.Proofs.Expression.Written
import Jenkinsfile.Proofs.Failure
import Jenkinsfile.Proofs.FileTree
import Jenkinsfile.Proofs.Grouping
import Jenkinsfile.Proofs.Manifest.Load
import Jenkinsfile.Proofs.Manifest.Name
import Jenkinsfile.Proofs.Manifest.Refusal
import Jenkinsfile.Proofs.Pattern.Run
import Jenkinsfile.Proofs.Pipeline.AgentLabel
import Jenkinsfile.Proofs.Pipeline.Balanced
import Jenkinsfile.Proofs.Pipeline.Bound
import Jenkinsfile.Proofs.Pipeline.Composable
import Jenkinsfile.Proofs.Pipeline.Hidden
import Jenkinsfile.Proofs.Pipeline.Inheritance
import Jenkinsfile.Proofs.Pipeline.LateError
import Jenkinsfile.Proofs.Pipeline.Nesting
import Jenkinsfile.Proofs.Pipeline.Outcome
import Jenkinsfile.Proofs.Pipeline.Precedence
import Jenkinsfile.Proofs.Pipeline.Renderable
import Jenkinsfile.Proofs.Pipeline.Rendered
import Jenkinsfile.Proofs.Pipeline.Resolved
import Jenkinsfile.Proofs.Pipeline.ScriptLines
import Jenkinsfile.Proofs.Pipeline.Skeleton
import Jenkinsfile.Proofs.Pipeline.Supply
import Jenkinsfile.Proofs.Pipeline.WhenBlock
import Jenkinsfile.Proofs.Placeholder
import Jenkinsfile.Proofs.Placeholder.Quoted
import Jenkinsfile.Proofs.Placeholder.Written
import Jenkinsfile.Proofs.Relation.Meaning
import Jenkinsfile.Proofs.Relation.Tested
import Jenkinsfile.Proofs.Relation.Visible
import Jenkinsfile.Proofs.Script.Coverage
import Jenkinsfile.Proofs.Script.Escape
import Jenkinsfile.Proofs.Script.Inline
import Jenkinsfile.Proofs.Script.Laid
import Jenkinsfile.Proofs.Script.Leading
import Jenkinsfile.Proofs.Script.Line
import Jenkinsfile.Proofs.Script.Literal
import Jenkinsfile.Proofs.Script.Mode
import Jenkinsfile.Proofs.Script.Piece
import Jenkinsfile.Proofs.Script.Preservation
import Jenkinsfile.Proofs.Script.Quotation
import Jenkinsfile.Proofs.Script.Quoted
import Jenkinsfile.Proofs.Script.Relayout
import Jenkinsfile.Proofs.Script.Restart
import Jenkinsfile.Proofs.Script.Scan
import Jenkinsfile.Proofs.Script.Weight
import Jenkinsfile.Proofs.Table
import Jenkinsfile.Proofs.Template.Accepted
import Jenkinsfile.Proofs.Template.Normal
import Jenkinsfile.Proofs.Template.Rendering
import Jenkinsfile.Proofs.Text.Digit
import Jenkinsfile.Proofs.Text.Lines
import Jenkinsfile.Proofs.Text.Separator
import Jenkinsfile.Proofs.Text.Trim
import Jenkinsfile.Proofs.Value.Text
import Jenkinsfile.Relation.Basic
import Jenkinsfile.Relation.Condition
import Jenkinsfile.Relation.Shape
import Jenkinsfile.Script.Layout
import Jenkinsfile.Script.Literal
import Jenkinsfile.Script.Token
import Jenkinsfile.Settings
import Jenkinsfile.Shape.Mismatch
import Jenkinsfile.Shape.Reading
import Jenkinsfile.Shape.Scalar
import Jenkinsfile.Table
import Jenkinsfile.Template.Basic
import Jenkinsfile.Template.Check
import Jenkinsfile.Template.Render
import Jenkinsfile.Template.Shape
import Jenkinsfile.Text.Alphanumeric
import Jenkinsfile.Text.Blank
import Jenkinsfile.Text.Block
import Jenkinsfile.Text.Case
import Jenkinsfile.Text.CaseTable
import Jenkinsfile.Text.Cased
import Jenkinsfile.Text.CodeSet
import Jenkinsfile.Text.Digit
import Jenkinsfile.Text.Identifier
import Jenkinsfile.Text.Lines
import Jenkinsfile.Text.Order
import Jenkinsfile.Text.Printable
import Jenkinsfile.Text.Quoted
import Jenkinsfile.Text.Separator
import Jenkinsfile.Value.Basic
import Jenkinsfile.Value.Comparison
import Jenkinsfile.Value.Inspect
import Jenkinsfile.Value.ScriptText
import Jenkinsfile.Yaml.Block
import Jenkinsfile.Yaml.Cursor
import Jenkinsfile.Yaml.Document
import Jenkinsfile.Yaml.Node
import Jenkinsfile.Yaml.Plain
import Jenkinsfile.Yaml.Quoted
import Jenkinsfile.Yaml.Scalar
import Jenkinsfile.Yaml.Timestamp
import Jenkinsfile.Yaml.Token
