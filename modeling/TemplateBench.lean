import TemplateBench.Batch.Evaluation
import TemplateBench.Batch.Pool
import TemplateBench.Batch.Printout
import TemplateBench.Batch.Report
import TemplateBench.Batch.Run
import TemplateBench.Batch.Statistics
import TemplateBench.Batch.Summary
import TemplateBench.Command.Apply
import TemplateBench.Command.Arguments
import TemplateBench.Command.Transcript
import TemplateBench.Command.Verify
import TemplateBench.Decimal.Dyadic
import TemplateBench.Decimal.Fixed
import TemplateBench.Decimal.Numeral
import TemplateBench.Decimal.Order
import TemplateBench.Decimal.Shortest
import TemplateBench.Display
import TemplateBench.Engine
import TemplateBench.Example
import TemplateBench.Files.Path
import TemplateBench.Files.Tree
import TemplateBench.Jinja.Argument
import TemplateBench.Jinja.Context
import TemplateBench.Jinja.Escape
import TemplateBench.Jinja.Expression
import TemplateBench.Jinja.Filter
import TemplateBench.Jinja.Format
import TemplateBench.Jinja.Operator
import TemplateBench.Jinja.Render
import TemplateBench.Jinja.Scene
import TemplateBench.Jinja.Statement
import TemplateBench.Jinja.Test
import TemplateBench.Jinja.Token
import TemplateBench.Jinja.Tree
import TemplateBench.Jinja.Value
import TemplateBench.Json.Printer
import TemplateBench.Json.Reader
import TemplateBench.Json.Value
import TemplateBench.Main
import TemplateBench.Regex.CharSet
import TemplateBench.Regex.Matcher
import TemplateBench.Regex.Pattern
import TemplateBench.Regex.Reader
import TemplateBench.Registry
import TemplateBench.Suite.Discovery
import TemplateBench.Suite.Expectation
import TemplateBench.Suite.Fixture
import TemplateBench.Suite.Problem
import TemplateBench.Suite.Settings
import TemplateBench.Suite.TemplateFile
import TemplateBench.Table
import TemplateBench.Text.Casing
import TemplateBench.Text.Letters
import TemplateBench.Text.Lines
import TemplateBench.Text.Shown
import TemplateBench.Text.Spans
import TemplateBench.TextFsm.Action
import TemplateBench.TextFsm.Cell
import TemplateBench.TextFsm.Declaration
import TemplateBench.TextFsm.Placeholder
import TemplateBench.TextFsm.Rule
import TemplateBench.TextFsm.Run
import TemplateBench.TextFsm.Template
import TemplateBench.Toml.Reader
import TemplateBench.Toml.Scalar
import TemplateBench.Toml.Value
import TemplateBench.Ttp.Line
import TemplateBench.Ttp.Placeholder
import TemplateBench.Ttp.Template
import TemplateBench.Yaml.Node
import TemplateBench.Yaml.Properties
import TemplateBench.Yaml.Resolve
import TemplateBench.Yaml.Scalar
import TemplateBench.Yaml.Token
import TemplateBench.Yaml.Tokens
import TemplateBench.Proofs.TextFsm.Cell
import TemplateBench.Proofs.TextFsm.Compiled
import TemplateBench.Proofs.TextFsm.History
import TemplateBench.Proofs.TextFsm.Reachable
import TemplateBench.Proofs.TextFsm.Rows
import TemplateBench.Proofs.TextFsm.WithoutFillup
import TemplateBench.Proofs.TextFsm.Fillup
import TemplateBench.Proofs.Batch.Pool
import TemplateBench.Proofs.Batch.Pooled
import TemplateBench.Proofs.TextFsm.Streaming
import TemplateBench.Proofs.TextFsm.Closed
import TemplateBench.Proofs.TextFsm.Layout
import TemplateBench.Proofs.TextFsm.Anchored
import TemplateBench.Proofs.Ttp.Passages
import TemplateBench.Proofs.Ttp.WholeLine
import TemplateBench.Proofs.Batch.Sequential
import TemplateBench.Proofs.Suite.Confined
import TemplateBench.Proofs.TextFsm.Columns
import TemplateBench.Proofs.Records
import TemplateBench.Proofs.TextFsm.RuleLines
import TemplateBench.Proofs.TextFsm.OptionOrder
import TemplateBench.Proofs.Suite.Selected
import TemplateBench.Proofs.Suite.Sidecar
import TemplateBench.Proofs.Suite.Located
import TemplateBench.Proofs.Regex.Priority
import TemplateBench.Proofs.TextFsm.NestedItems
import TemplateBench.Proofs.Ttp.Blocks
import TemplateBench.Proofs.Regex.Ways
import TemplateBench.Proofs.TextFsm.OneGroup
import TemplateBench.Proofs.Regex.Headers
import TemplateBench.Proofs.TextFsm.Placeholders
import TemplateBench.Proofs.TextFsm.Frame
import TemplateBench.Proofs.Regex.Parts
import TemplateBench.Proofs.Ttp.Words
import TemplateBench.Proofs.Ttp.Tokens
import TemplateBench.Proofs.TextFsm.Expansion
import TemplateBench.Proofs.Batch.Ranking
import TemplateBench.Proofs.Text.Written
import TemplateBench.Proofs.TextFsm.DeclarationLines
import TemplateBench.Proofs.Display
import TemplateBench.Proofs.Registry
import TemplateBench.Proofs.Batch.NamedFixture
import TemplateBench.Proofs.Batch.Verdicts
import TemplateBench.Proofs.Files.Ancestors
import TemplateBench.Proofs.Suite.Configured
import TemplateBench.Proofs.Batch.Log
import TemplateBench.Proofs.Text.Bytes
import TemplateBench.Proofs.Ttp.Bars
