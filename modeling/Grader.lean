import Grader.Command.Arguments
import Grader.Command.Markup
import Grader.Command.Run
import Grader.Command.Table
import Grader.Decimal.Limit
import Grader.Decimal.Read
import Grader.Decimal.Shortest
import Grader.Decimal.Written
import Grader.Failure
import Grader.Files.Basic
import Grader.Files.Path
import Grader.Grading.Load
import Grader.Grading.Module
import Grader.Grading.Publish
import Grader.Grading.Reference
import Grader.Grading.Registry
import Grader.Grading.Run
import Grader.Grading.Score
import Grader.Grading.Script
import Grader.Grading.Session
import Grader.Grading.Transcript
import Grader.Intake
import Grader.Main
import Grader.Pattern.Class
import Grader.Pattern.Escape
import Grader.Pattern.Fault
import Grader.Pattern.Flags
import Grader.Pattern.Generate
import Grader.Pattern.Item
import Grader.Pattern.Read
import Grader.Pattern.Reader
import Grader.Policy.Basic
import Grader.Policy.Build
import Grader.Policy.Coerce
import Grader.Policy.Document
import Grader.Policy.Names
import Grader.Policy.Settings
import Grader.Position
import Grader.Proofs.Engine.Catalogue
import Grader.Proofs.Engine.Counts
import Grader.Proofs.Engine.Order
import Grader.Proofs.Engine.Report
import Grader.Proofs.Engine.Strictness
import Grader.Proofs.Engine.Switch
import Grader.Proofs.Grading.Extension
import Grader.Proofs.Grading.Outcome
import Grader.Proofs.Grading.Strictness
import Grader.Proofs.Grading.Turn
import Grader.Proofs.Sorting
import Grader.Proofs.Traversal
import Grader.Proofs.Ordinary
import Grader.Random.Data
import Grader.Random.Draw
import Grader.Random.Twister
import Grader.Rule.Basic
import Grader.Rule.Catalogue
import Grader.Rule.Constant
import Grader.Rule.Engine
import Grader.Rule.Report
import Grader.Source.Build
import Grader.Source.Encoding
import Grader.Source.Grammar.Expression
import Grader.Source.Grammar.Fault
import Grader.Source.Grammar.Pattern
import Grader.Source.Grammar.Statement
import Grader.Source.Label
import Grader.Source.Lexer
import Grader.Source.Literal
import Grader.Source.Node
import Grader.Source.Parse
import Grader.Source.Peg
import Grader.Source.Production
import Grader.Source.TextToken
import Grader.Source.Token
import Grader.Source.Tree
import Grader.Source.Unit
import Grader.Source.Walk
import Grader.Text.Blank
import Grader.Text.Dotted
import Grader.Text.Identifier
import Grader.Text.Lines
import Grader.Text.Normal
import Grader.Text.NormalTable
import Grader.Text.Printable
import Grader.Text.Quoted
import Grader.Text.Ranges
import Grader.Text.Utf8
import Grader.Text.Width
import Grader.Value.Basic
import Grader.Value.Raised
import Grader.Value.Text
import Grader.Yaml.Cursor
import Grader.Yaml.Load
import Grader.Yaml.Moment
import Grader.Yaml.Node
import Grader.Yaml.Resolve
import Grader.Yaml.Scalar
import Grader.Yaml.Scan
import Grader.Yaml.Token
import Grader.Yaml.Write
import Grader.Proofs.Engine.Composition
import Grader.Proofs.Engine.Weights
import Grader.Proofs.Engine.Isolation
import Grader.Proofs.Policy.Reading
import Grader.Proofs.Policy.Update
import Grader.Proofs.Grading.Calls
import Grader.Proofs.Text.Lines
import Grader.Proofs.Grading.Console
import Grader.Proofs.Grading.Kept
import Grader.Proofs.Grading.Loading
import Grader.Proofs.Grading.Publication
import Grader.Proofs.Grading.Refusal
import Grader.Proofs.Grading.Transcript
import Grader.Proofs.Source.Tree
import Grader.Proofs.Source.Walk
import Grader.Proofs.Source.Grammar
import Grader.Proofs.Source.Reading
import Grader.Proofs.Source.Units
import Grader.Proofs.Source.Scope
import Grader.Proofs.Source.Names
import Grader.Proofs.Source.Annotation
import Grader.Proofs.Source.Descent
import Grader.Proofs.Source.Enclosure
import Grader.Proofs.Text.Ascii
import Grader.Proofs.Text.Utf8
import Grader.Proofs.Value.Identity
import Grader.Proofs.Policy.Accepted
import Grader.Proofs.Policy.Composition
import Grader.Proofs.Policy.Document
import Grader.Proofs.Policy.Entries
import Grader.Proofs.Policy.Failures
import Grader.Proofs.Policy.Reachable
import Grader.Proofs.Policy.Refusal
import Grader.Proofs.Yaml.Ascii
import Grader.Proofs.Yaml.Failures
import Grader.Proofs.Files.Path
import Grader.Proofs.Files.Publish
import Grader.Proofs.Policy.RoundTrip
import Grader.Proofs.Grading.Independence
import Grader.Proofs.Command.Halting
import Grader.Proofs.Command.Publication
import Grader.Proofs.Rule.InnerClasses
import Grader.Proofs.Rule.TypeReferences
import Grader.Proofs.Text.Dotted
import Grader.Proofs.Source.Selection
import Grader.Proofs.Rule.Imports
import Grader.Proofs.Source.Chains
import Grader.Proofs.Rule.Calls
import Grader.Proofs.Source.Bindings
import Grader.Proofs.Rule.GlobalVariables
import Grader.Proofs.Source.Literals
import Grader.Proofs.Rule.Constants
import Grader.Proofs.Decimal.Written
import Grader.Proofs.Text.Nesting
import Grader.Proofs.Value.Order
import Grader.Proofs.Value.Readability
import Grader.Proofs.Value.Agreement
import Grader.Proofs.Policy.NameLists
import Grader.Proofs.Grading.Assertions
import Grader.Proofs.Grading.Reached
import Grader.Proofs.Intake.Verdict
import Grader.Proofs.Intake.Mapping
import Grader.Proofs.Grading.Registration
import Grader.Proofs.Grading.Naming
import Grader.Proofs.Grading.References
import Grader.Proofs.Pattern.Repetition
import Grader.Proofs.Random.Bounds
import Grader.Proofs.Decimal.Rounding
import Grader.Proofs.Decimal.Quotient
import Grader.Proofs.Command.Record
