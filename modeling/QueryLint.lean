import QueryLint.Command.Basic
import QueryLint.Command.Flag
import QueryLint.Command.Host
import QueryLint.Command.Lint
import QueryLint.Command.Project
import QueryLint.Command.Record
import QueryLint.Command.Run
import QueryLint.Dialect.Basic
import QueryLint.Dialect.BigQuery
import QueryLint.Dialect.Standard
import QueryLint.File.Path
import QueryLint.File.Tree
import QueryLint.Lint.Analysis
import QueryLint.Lint.Baseline
import QueryLint.Lint.Catalog
import QueryLint.Lint.Config
import QueryLint.Lint.Diagnostic
import QueryLint.Lint.Rule
import QueryLint.Lint.Rules.CurrentDate
import QueryLint.Lint.Rules.Grouping
import QueryLint.Lint.Rules.Ordering
import QueryLint.Lint.Rules.TableSuffix
import QueryLint.Lint.Rules.UnusedColumn
import QueryLint.Lint.Session
import QueryLint.Lint.Severity
import QueryLint.Lint.Source
import QueryLint.Lint.Suppression
import QueryLint.Main
import QueryLint.Number.Integer
import QueryLint.Number.Shortest
import QueryLint.Parser.Attempt
import QueryLint.Parser.Basic
import QueryLint.Parser.Call
import QueryLint.Parser.Error
import QueryLint.Parser.Expression
import QueryLint.Parser.Form
import QueryLint.Parser.Grammar
import QueryLint.Parser.Name
import QueryLint.Parser.Script
import QueryLint.Parser.Select
import QueryLint.Parser.Source
import QueryLint.Parser.Window
import QueryLint.Project.Config
import QueryLint.Project.EnvFile
import QueryLint.Project.LintSection
import QueryLint.Report.Document
import QueryLint.Report.Lint
import QueryLint.Report.Log
import QueryLint.Report.Output
import QueryLint.Report.Rules
import QueryLint.Report.Table
import QueryLint.Setting.Basic
import QueryLint.Setting.Decode
import QueryLint.Setting.Layer
import QueryLint.Source.Position
import QueryLint.Store.Basic
import QueryLint.Store.Document
import QueryLint.Syntax.Node
import QueryLint.Syntax.Tree
import QueryLint.Syntax.Walk
import QueryLint.Text.Base64
import QueryLint.Text.Blank
import QueryLint.Text.Case
import QueryLint.Text.CaseTable
import QueryLint.Text.Graphic
import QueryLint.Text.Quoted
import QueryLint.Text.Record
import QueryLint.Text.Utf8
import QueryLint.Text.Width
import QueryLint.Token.Basic
import QueryLint.Token.Kind
import QueryLint.Token.Piece
import QueryLint.Token.Stream
import QueryLint.Usage.Collect
import QueryLint.Usage.Model
import QueryLint.Usage.ScopeTable
import QueryLint.Yaml.Cursor
import QueryLint.Yaml.Document
import QueryLint.Yaml.Layout
import QueryLint.Yaml.Lines
import QueryLint.Yaml.Moment
import QueryLint.Yaml.Node
import QueryLint.Yaml.Scalar
import QueryLint.Yaml.Tag
import QueryLint.Yaml.Token
import QueryLint.Yaml.Words
import QueryLint.Proofs.Usage.Deletion
import QueryLint.Proofs.Usage.Marking
import QueryLint.Proofs.Usage.Names
import QueryLint.Proofs.Usage.Outline
import QueryLint.Proofs.Usage.Plain
import QueryLint.Proofs.Usage.Reading
import QueryLint.Proofs.Usage.Removal
import QueryLint.Proofs.Usage.Shortening
import QueryLint.Proofs.Usage.UnusedColumn
import QueryLint.Proofs.Parser.Gives
import QueryLint.Proofs.Parser.Placement
import QueryLint.Proofs.Parser.Phrases
import QueryLint.Proofs.Parser.Calls
import QueryLint.Proofs.Parser.Forms
import QueryLint.Proofs.Parser.Expressions
import QueryLint.Proofs.Parser.Sources
import QueryLint.Proofs.Parser.Queries
import QueryLint.Proofs.Parser.Scripts
import QueryLint.Proofs.Parser.Spans
import QueryLint.Proofs.Parser.Wholeness
import QueryLint.Proofs.Parser.Terms
import QueryLint.Proofs.Parser.Operators
import QueryLint.Proofs.Parser.Precedence
import QueryLint.Proofs.Token.Cutting
import QueryLint.Proofs.Token.Layout
import QueryLint.Proofs.Usage.Soundness
import QueryLint.Proofs.Usage.Visits
import QueryLint.Proofs.Lint.Ordering
import QueryLint.Proofs.Lint.Reporting
import QueryLint.Proofs.Usage.PathStar
import QueryLint.Proofs.Usage.SelfReference
import QueryLint.Proofs.Syntax.Retained
import QueryLint.Proofs.Parser.Retention.Statements
import QueryLint.Proofs.Usage.SourcePath
import QueryLint.Proofs.Usage.Scoping
import QueryLint.Proofs.Usage.Addition
import QueryLint.Proofs.Usage.StarChain
import QueryLint.Proofs.Syntax.Respelled
import QueryLint.Proofs.Usage.Spelling
import QueryLint.Proofs.Syntax.Relocated
import QueryLint.Proofs.Parser.Nesting
import QueryLint.Proofs.Parser.Lockstep.Basic
import QueryLint.Proofs.Parser.Lockstep.Attempt
import QueryLint.Proofs.Parser.Lockstep.Names
import QueryLint.Proofs.Parser.Lockstep.Calls
import QueryLint.Proofs.Parser.Lockstep.Forms
import QueryLint.Proofs.Parser.Lockstep.Expressions
import QueryLint.Proofs.Parser.Lockstep.Sources
import QueryLint.Proofs.Parser.Lockstep.Queries
import QueryLint.Proofs.Parser.Lockstep.Statements
import QueryLint.Proofs.Parser.Respacing
import QueryLint.Proofs.Token.Settled
import QueryLint.Proofs.Token.Seam
import QueryLint.Proofs.Parser.Joined
import QueryLint.Proofs.Usage.StarMarks
import QueryLint.Proofs.Usage.Qualified
import QueryLint.Proofs.Syntax.Unextended
import QueryLint.Proofs.Parser.Ensures.Basic
import QueryLint.Proofs.Parser.Ensures.Phrases
import QueryLint.Proofs.Parser.Ensures.Calls
import QueryLint.Proofs.Parser.Ensures.Forms
import QueryLint.Proofs.Parser.Ensures.Expressions
import QueryLint.Proofs.Parser.Ensures.Sources
import QueryLint.Proofs.Parser.Ensures.Queries
import QueryLint.Proofs.Parser.Ensures.Statements
import QueryLint.Proofs.Parser.Failures
import QueryLint.Proofs.Syntax.Places
import QueryLint.Proofs.Syntax.Traversal
import QueryLint.Proofs.Lint.Configuration
import QueryLint.Proofs.Lint.Baseline
import QueryLint.Proofs.Lint.Suppression
import QueryLint.Proofs.Parser.TablePaths
import QueryLint.Proofs.Parser.ClauseOrder
import QueryLint.Proofs.Parser.Loops
import QueryLint.Proofs.Parser.Termination
import QueryLint.Proofs.Parser.Recovery
import QueryLint.Proofs.Parser.Pairing.Basic
import QueryLint.Proofs.Parser.Pairing.Phrases
import QueryLint.Proofs.Parser.Pairing.Calls
import QueryLint.Proofs.Parser.Pairing.Forms
import QueryLint.Proofs.Parser.Pairing.Expressions
import QueryLint.Proofs.Parser.Pairing.Sources
import QueryLint.Proofs.Parser.Pairing.Queries
import QueryLint.Proofs.Parser.Pairing.Statements
import QueryLint.Proofs.Syntax.Addresses
import QueryLint.Proofs.Lint.Grouping
import QueryLint.Proofs.Lint.TableSuffix
import QueryLint.Proofs.Text.Utf8
import QueryLint.Proofs.Token.Faults
import QueryLint.Proofs.Token.Quoting
import QueryLint.Proofs.Token.Comments
import QueryLint.Proofs.Token.Parentheses
import QueryLint.Proofs.Lint.EntryOrder
import QueryLint.Proofs.Text.Lines
import QueryLint.Proofs.Syntax.Fixed
import QueryLint.Proofs.Parser.Positions
import QueryLint.Proofs.Usage.ColumnSpans
import QueryLint.Proofs.Lint.Location
import QueryLint.Proofs.Lint.Session
