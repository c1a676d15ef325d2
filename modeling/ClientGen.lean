import ClientGen.Client
import ClientGen.Client.Settings
import ClientGen.CommandLine.Arguments
import ClientGen.CommandLine.Request
import ClientGen.CommandLine.Usage
import ClientGen.Comment
import ClientGen.Compiler
import ClientGen.Config
import ClientGen.Config.Fields
import ClientGen.Config.Loading
import ClientGen.Config.Reading
import ClientGen.Decimal.Binary
import ClientGen.Decimal.Reading
import ClientGen.Decimal.Shortest
import ClientGen.Declaration
import ClientGen.Declaration.Linking
import ClientGen.Descriptor
import ClientGen.Descriptor.Reading
import ClientGen.Disk
import ClientGen.FieldName
import ClientGen.Flattening
import ClientGen.Flattening.Report
import ClientGen.Flattening.State
import ClientGen.Flattening.Walk
import ClientGen.Json
import ClientGen.Log
import ClientGen.Main
import ClientGen.Mismatch
import ClientGen.Path
import ClientGen.Program
import ClientGen.Proofs.Comment
import ClientGen.Proofs.Comment.NormalForm
import ClientGen.Proofs.Composition
import ClientGen.Proofs.Config
import ClientGen.Proofs.Disk
import ClientGen.Proofs.Disk.Tree
import ClientGen.Proofs.Disk.Upkeep
import ClientGen.Proofs.DiskFailures
import ClientGen.Proofs.Endings
import ClientGen.Proofs.EntryPoint
import ClientGen.Proofs.Failures
import ClientGen.Proofs.FieldName
import ClientGen.Proofs.FlatView
import ClientGen.Proofs.Flattening.Budget
import ClientGen.Proofs.Flattening.Calls
import ClientGen.Proofs.Flattening.Closedness
import ClientGen.Proofs.Flattening.Completeness
import ClientGen.Proofs.Flattening.Counting
import ClientGen.Proofs.Flattening.Dependencies
import ClientGen.Proofs.Flattening.Embedding
import ClientGen.Proofs.Flattening.Faithfulness
import ClientGen.Proofs.Flattening.Growth
import ClientGen.Proofs.Flattening.History
import ClientGen.Proofs.Flattening.Invariant
import ClientGen.Proofs.Flattening.MethodOrder
import ClientGen.Proofs.Flattening.Moves
import ClientGen.Proofs.Flattening.Naming
import ClientGen.Proofs.Flattening.Outcome
import ClientGen.Proofs.Flattening.Prefixes
import ClientGen.Proofs.Flattening.Progress
import ClientGen.Proofs.Flattening.Records
import ClientGen.Proofs.Flattening.Resolution
import ClientGen.Proofs.Flattening.Skipping
import ClientGen.Proofs.Flattening.Strictness
import ClientGen.Proofs.Flattening.Table
import ClientGen.Proofs.Flattening.Termination
import ClientGen.Proofs.Flattening.Visits
import ClientGen.Proofs.Flattening.Writing
import ClientGen.Proofs.IncludePaths
import ClientGen.Proofs.Interruption
import ClientGen.Proofs.Isolation
import ClientGen.Proofs.Linking
import ClientGen.Proofs.Linking.Mirror
import ClientGen.Proofs.Linking.Owners
import ClientGen.Proofs.Linking.Site
import ClientGen.Proofs.Listing
import ClientGen.Proofs.Output
import ClientGen.Proofs.Path
import ClientGen.Proofs.Path.Absolute
import ClientGen.Proofs.References
import ClientGen.Proofs.Results
import ClientGen.Proofs.Route
import ClientGen.Proofs.Script.Binding
import ClientGen.Proofs.Selection
import ClientGen.Proofs.Session
import ClientGen.Proofs.Text.Lines
import ClientGen.Proofs.Text.Splice
import ClientGen.Proofs.TypeScript.CommentLines
import ClientGen.Proofs.TypeScript.TypeExpr
import ClientGen.Record
import ClientGen.Route
import ClientGen.Run
import ClientGen.Sandbox
import ClientGen.Script
import ClientGen.Script.Evaluation
import ClientGen.Script.Fault
import ClientGen.Script.Kind
import ClientGen.Script.Memory
import ClientGen.Script.Reading
import ClientGen.Script.Value
import ClientGen.Selection
import ClientGen.Sources
import ClientGen.Template
import ClientGen.Template.Engine
import ClientGen.Template.Expression
import ClientGen.Template.Nodes
import ClientGen.Template.Piece
import ClientGen.Template.Rendering
import ClientGen.Text.Blank
import ClientGen.Text.Case
import ClientGen.Text.CaseTable
import ClientGen.Text.Compatibility
import ClientGen.Text.CompatibilityTable
import ClientGen.Text.Counted
import ClientGen.Text.Digit
import ClientGen.Text.Hexadecimal
import ClientGen.Text.Lines
import ClientGen.Text.Name
import ClientGen.Text.NameTable
import ClientGen.Text.Numeral
import ClientGen.Text.Quoted
import ClientGen.Text.Ranges
import ClientGen.Text.Splice
import ClientGen.Text.Unprintable
import ClientGen.Text.Utf8
import ClientGen.TypeScript.Declarations
import ClientGen.TypeScript.Primitive
import ClientGen.Yaml.Cursor
import ClientGen.Yaml.Fault
import ClientGen.Yaml.Graph
import ClientGen.Yaml.Graph.Merging
import ClientGen.Yaml.Graph.Reading
import ClientGen.Yaml.Load
import ClientGen.Yaml.Members
import ClientGen.Yaml.Moment
import ClientGen.Yaml.Scalar
import ClientGen.Yaml.Tag
import ClientGen.Yaml.Token
import ClientGen.Yaml.Token.Reading
import ClientGen.Yaml.Token.Scalar
import ClientGen.Yaml.Token.Word
import ClientGen.Yaml.Value
