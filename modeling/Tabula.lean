import Tabula.Backend
import Tabula.Config
import Tabula.Criteria.Condition
import Tabula.Criteria.Criterion
import Tabula.Criteria.Operator
import Tabula.Dict
import Tabula.Double.Basic
import Tabula.Double.Layout
import Tabula.Double.Quotient
import Tabula.Double.Reading
import Tabula.Double.Shortest
import Tabula.Duration
import Tabula.Engine
import Tabula.Error
import Tabula.Json.Basic
import Tabula.Json.Decoding
import Tabula.Json.Draft
import Tabula.Json.Number
import Tabula.Json.Shown
import Tabula.Json.Text
import Tabula.Model.Basic
import Tabula.Model.Reconcile
import Tabula.Model.Sorting
import Tabula.Postgres.ColumnType
import Tabula.Postgres.ConnectionString
import Tabula.Postgres.Decoding
import Tabula.Postgres.Encoding
import Tabula.Postgres.HostAddress
import Tabula.Postgres.Server
import Tabula.Procedure.Any
import Tabula.Procedure.Basic
import Tabula.Procedure.Statement
import Tabula.Procedure.Stub
import Tabula.Proofs.Criteria.Flattening
import Tabula.Proofs.Criteria.Wire
import Tabula.Proofs.Distinct
import Tabula.Proofs.Double.Nearest
import Tabula.Proofs.Double.Rounding
import Tabula.Proofs.History
import Tabula.Proofs.Json.Crossing
import Tabula.Proofs.Json.Held
import Tabula.Proofs.Model.Call
import Tabula.Proofs.Model.Columns
import Tabula.Proofs.Model.Reconcile
import Tabula.Proofs.Model.State
import Tabula.Proofs.Model.Synchronize
import Tabula.Proofs.Model.Writing
import Tabula.Proofs.Postgres.Bytes
import Tabula.Proofs.Postgres.Returning
import Tabula.Proofs.Postgres.Sending
import Tabula.Proofs.Predicate.Context
import Tabula.Proofs.Predicate.Grammar
import Tabula.Proofs.Predicate.Lexeme
import Tabula.Proofs.Predicate.Meaning
import Tabula.Proofs.Predicate.Rendered
import Tabula.Proofs.Procedure.Feeding
import Tabula.Proofs.Procedure.Grouped
import Tabula.Proofs.Procedure.Obtaining
import Tabula.Proofs.Procedure.Overtaking
import Tabula.Proofs.Procedure.Preparing
import Tabula.Proofs.Procedure.Remembering
import Tabula.Proofs.Procedure.Shapes
import Tabula.Proofs.Procedure.Singly
import Tabula.Proofs.Procedure.Statements
import Tabula.Proofs.Results.Algebra
import Tabula.Proofs.Results.Answer
import Tabula.Proofs.Results.Combining
import Tabula.Proofs.Results.Equality
import Tabula.Proofs.Results.Hashing
import Tabula.Proofs.Results.Lookup
import Tabula.Proofs.Results.Tabular
import Tabula.Proofs.Session.Depth
import Tabula.Proofs.Session.Executing
import Tabula.Proofs.Session.GivenUp
import Tabula.Proofs.Session.InTurn
import Tabula.Proofs.Session.Ledger
import Tabula.Proofs.Session.Open
import Tabula.Proofs.Session.RoundTrip
import Tabula.Proofs.Sorting.Comparison
import Tabula.Proofs.Sorting.Natural
import Tabula.Proofs.Sorting.Stable
import Tabula.Proofs.Sql.Comment
import Tabula.Proofs.Sql.Construct
import Tabula.Proofs.Sql.Locality
import Tabula.Proofs.Sql.Passing
import Tabula.Proofs.Sql.Region
import Tabula.Proofs.Sql.Settled
import Tabula.Proofs.Sql.Substitution
import Tabula.Proofs.Sqlite.Deleting
import Tabula.Proofs.Sqlite.Driver
import Tabula.Proofs.Sqlite.Fitting
import Tabula.Proofs.Sqlite.Stepwise
import Tabula.Proofs.Succeeding
import Tabula.Proofs.Template.Analysis
import Tabula.Proofs.Template.Layout
import Tabula.Proofs.Template.Noninterference
import Tabula.Proofs.Template.Order
import Tabula.Proofs.Template.Parts
import Tabula.Proofs.Template.Provenance
import Tabula.Proofs.Template.Reach
import Tabula.Proofs.Template.Reading
import Tabula.Proofs.Timestamp.Calendar
import Tabula.Proofs.Timestamp.Text
import Tabula.Proofs.Transaction.Abort
import Tabula.Proofs.Transaction.Call
import Tabula.Proofs.Transaction.Cancelling
import Tabula.Proofs.Transaction.Coherence
import Tabula.Proofs.Transaction.Doubt
import Tabula.Proofs.Transaction.Interleaving
import Tabula.Proofs.Transaction.Log
import Tabula.Proofs.Transaction.Parting
import Tabula.Proofs.Transaction.Reached
import Tabula.Proofs.Transaction.Rerun
import Tabula.Proofs.Transaction.Step
import Tabula.Proofs.Value.Wire
import Tabula.Results.ResultSet
import Tabula.Results.Row
import Tabula.Session.Basic
import Tabula.Session.Connection
import Tabula.Session.Opening
import Tabula.Sql.Named
import Tabula.Sql.Piece
import Tabula.Sqlite.Arithmetic
import Tabula.Sqlite.Cell
import Tabula.Sqlite.Database
import Tabula.Sqlite.Driver
import Tabula.Sqlite.Evaluation
import Tabula.Sqlite.Keyword
import Tabula.Sqlite.Location
import Tabula.Sqlite.Parser
import Tabula.Sqlite.Parser.Expression
import Tabula.Sqlite.Parser.Statement
import Tabula.Sqlite.Pattern
import Tabula.Sqlite.Plan
import Tabula.Sqlite.RealText
import Tabula.Sqlite.Syntax
import Tabula.Sqlite.Table
import Tabula.Sqlite.Token
import Tabula.Sqlite.Visit
import Tabula.Template
import Tabula.Text.Blank
import Tabula.Text.Case
import Tabula.Text.CaseTable
import Tabula.Text.Numeral
import Tabula.Text.Percent
import Tabula.Text.PrintTable
import Tabula.Text.Quoted
import Tabula.Text.Replace
import Tabula.Timestamp.Basic
import Tabula.Timestamp.Calendar
import Tabula.Timestamp.Text
import Tabula.Transaction.Basic
import Tabula.Value.Basic
import Tabula.Value.Wire
import Tabula.Width
