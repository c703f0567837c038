import SqlSyntax.Client.Literals
import SqlSyntax.Client.Names
import SqlSyntax.Client.Query
import SqlSyntax.Client.Scan
import SqlSyntax.Dialect.Basic
import SqlSyntax.Dialect.Catalog
import SqlSyntax.Dialect.Category
import SqlSyntax.Dialect.Files
import SqlSyntax.Dialect.Mysql
import SqlSyntax.Dialect.Registry
import SqlSyntax.Digest.Sha256
import SqlSyntax.Envelope.Basic
import SqlSyntax.Envelope.Builder
import SqlSyntax.Envelope.Metrics
import SqlSyntax.Grammar.Automaton
import SqlSyntax.Grammar.Definition
import SqlSyntax.Grammar.Expression
import SqlSyntax.Grammar.Manipulation
import SqlSyntax.Grammar.Parse
import SqlSyntax.Grammar.Query
import SqlSyntax.Grammar.Script
import SqlSyntax.Grammar.StatementAutomaton
import SqlSyntax.Grammar.Symbol
import SqlSyntax.Grammar.Table.Lookahead
import SqlSyntax.Grammar.Table.Part1
import SqlSyntax.Grammar.Table.Part2
import SqlSyntax.Grammar.Table.Part3
import SqlSyntax.Grammar.Table.Part4
import SqlSyntax.Grammar.Table.Part5
import SqlSyntax.Grammar.Table.Part6
import SqlSyntax.Grammar.Table.Part7
import SqlSyntax.Lexical.Lexeme
import SqlSyntax.Lexical.Terminal
import SqlSyntax.Lexical.Token
import SqlSyntax.Log.Context
import SqlSyntax.Log.Line
import SqlSyntax.Log.Record
import SqlSyntax.Log.Template
import SqlSyntax.Log.Thresholds
import SqlSyntax.Number.Arithmetic
import SqlSyntax.Number.Binary64
import SqlSyntax.Number.Decimal
import SqlSyntax.Number.Figures
import SqlSyntax.Number.Numeral
import SqlSyntax.Number.Shortest
import SqlSyntax.Proofs.Script.Concatenation
import SqlSyntax.Proofs.View.WireRoundTrip
import SqlSyntax.Script
import SqlSyntax.Service.Bridge
import SqlSyntax.Service.Builders
import SqlSyntax.Service.Dotenv
import SqlSyntax.Service.Http
import SqlSyntax.Service.Location
import SqlSyntax.Service.Settings
import SqlSyntax.Text.Blank
import SqlSyntax.Text.Case
import SqlSyntax.Text.CaseTable
import SqlSyntax.Text.Digit
import SqlSyntax.Text.Letter
import SqlSyntax.Text.Printable
import SqlSyntax.Text.Quoted
import SqlSyntax.Text.Shown
import SqlSyntax.Text.Spans
import SqlSyntax.Text.Utf8
import SqlSyntax.Tree.Kind
import SqlSyntax.Tree.Literal
import SqlSyntax.Tree.Loose
import SqlSyntax.Tree.Node
import SqlSyntax.Tree.Parts
import SqlSyntax.Tree.Piece
import SqlSyntax.Tree.Render
import SqlSyntax.Tree.Shown
import SqlSyntax.View.Basic
import SqlSyntax.View.Measure
import SqlSyntax.View.Normalize
import SqlSyntax.View.Wire
import SqlSyntax.Wire.Check
import SqlSyntax.Wire.Entries
import SqlSyntax.Wire.Json
import SqlSyntax.Wire.JsonReader
import SqlSyntax.Wire.Value
import SqlSyntax.Yaml.Cursor
import SqlSyntax.Yaml.Fault
import SqlSyntax.Yaml.Node
import SqlSyntax.Yaml.Reader
import SqlSyntax.Yaml.Scalar
import SqlSyntax.Yaml.Token
import SqlSyntax.Proofs.Expression.Level
import SqlSyntax.Proofs.Grammar.Derivation
import SqlSyntax.Proofs.Grammar.StatementFragment
import SqlSyntax.Proofs.Envelope.Outcome
import SqlSyntax.Proofs.View.Data
import SqlSyntax.Proofs.Service.Delivery
import SqlSyntax.Proofs.View.Image
import SqlSyntax.Proofs.Service.Ownership
import SqlSyntax.Proofs.Lexical.Spelling
import SqlSyntax.Proofs.Lexical.Found
import SqlSyntax.Proofs.Grammar.ReadValues
import SqlSyntax.Proofs.Grammar.Reads
import SqlSyntax.Proofs.Expression.Written
import SqlSyntax.Proofs.Expression.Lists
import SqlSyntax.Proofs.Expression.Calls
import SqlSyntax.Proofs.Expression.Induction
import SqlSyntax.Proofs.Script.Selection
import SqlSyntax.Proofs.Lexical.Tokens
import SqlSyntax.Proofs.Dialect.Aliases
import SqlSyntax.Proofs.Service.Freshness
import SqlSyntax.Proofs.Tree.Complete
import SqlSyntax.Proofs.Script.Completeness
import SqlSyntax.Proofs.Lexical.Recased
import SqlSyntax.Proofs.Lexical.Interrupted
import SqlSyntax.Proofs.Grammar.Alike
import SqlSyntax.Proofs.Grammar.Portions
import SqlSyntax.Proofs.Grammar.Recasing
import SqlSyntax.Proofs.Lexical.Comment
import SqlSyntax.Proofs.Grammar.Commented
import SqlSyntax.Proofs.Script.Retouched
import SqlSyntax.Proofs.Service.Boundaries
import SqlSyntax.Proofs.Grammar.Located
import SqlSyntax.Proofs.Script.Rejection
import SqlSyntax.Proofs.Expression.Precedence
import SqlSyntax.Proofs.Tree.Layout
import SqlSyntax.Proofs.Script.Grouping
import SqlSyntax.Proofs.Script.Layout
import SqlSyntax.Proofs.View.Paths
import SqlSyntax.Proofs.View.Counters
import SqlSyntax.Proofs.Lexical.Body
import SqlSyntax.Proofs.Lexical.Unquoting
import SqlSyntax.Proofs.Number.Denotation
import SqlSyntax.Proofs.Number.Exactness
import SqlSyntax.Proofs.Grammar.MarkerOrder
import SqlSyntax.Proofs.Script.Numbering
import SqlSyntax.Proofs.Client.Nodes
import SqlSyntax.Proofs.Client.FilterColumns
import SqlSyntax.Proofs.Client.IndexHints
import SqlSyntax.Proofs.Client.Tables
import SqlSyntax.Proofs.Client.Placeholders
import SqlSyntax.Proofs.Client.Shape
import SqlSyntax.Proofs.Envelope.Reports
import SqlSyntax.Proofs.Dialect.Lookup
import SqlSyntax.Proofs.Dialect.Markers
import SqlSyntax.Proofs.Text.Utf8
import SqlSyntax.Proofs.Service.ByteInput
import SqlSyntax.Proofs.Dialect.Listing
import SqlSyntax.Proofs.Client.Walk
import SqlSyntax.Proofs.Log.Scoping
import SqlSyntax.Proofs.Client.RoughTokens
import SqlSyntax.Proofs.Dialect.Discovery
