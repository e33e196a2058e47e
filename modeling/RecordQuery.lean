import RecordQuery.Command.Arguments
import RecordQuery.Command.Run
import RecordQuery.Json.Basic
import RecordQuery.Json.Number
import RecordQuery.Json.Printer
import RecordQuery.Json.Reader
import RecordQuery.Main
import RecordQuery.Number.Binary64
import RecordQuery.Number.Shortest
import RecordQuery.Proofs.Documents.Dependence
import RecordQuery.Proofs.Documents.Inference
import RecordQuery.Proofs.Documents.Naming
import RecordQuery.Proofs.Documents.Order
import RecordQuery.Proofs.Documents.Path
import RecordQuery.Proofs.Grammar.Agreement
import RecordQuery.Proofs.Grammar.Bounds
import RecordQuery.Proofs.Grammar.Calls
import RecordQuery.Proofs.Grammar.Chain
import RecordQuery.Proofs.Grammar.Derivation
import RecordQuery.Proofs.Grammar.Grouping
import RecordQuery.Proofs.Grammar.Parallel
import RecordQuery.Proofs.Grammar.ParseTree
import RecordQuery.Proofs.Grammar.Part
import RecordQuery.Proofs.Grammar.Precedence
import RecordQuery.Proofs.Grammar.Report
import RecordQuery.Proofs.Grammar.Spacing
import RecordQuery.Proofs.Grammar.Word
import RecordQuery.Proofs.Grammar.Yield
import RecordQuery.Proofs.Literals.Compilation
import RecordQuery.Proofs.Literals.Exchange
import RecordQuery.Proofs.Literals.Failure
import RecordQuery.Proofs.Literals.Folding
import RecordQuery.Proofs.Literals.Matching
import RecordQuery.Proofs.Literals.Times
import RecordQuery.Proofs.Logic.Composition
import RecordQuery.Proofs.Logic.Laws
import RecordQuery.Proofs.Logic.Truth
import RecordQuery.Proofs.Scoping.Block
import RecordQuery.Proofs.Scoping.Environment
import RecordQuery.Proofs.Scoping.Qualification
import RecordQuery.Proofs.Scoping.Reach
import RecordQuery.Proofs.Scoping.Recovery
import RecordQuery.Proofs.Scoping.Refinement
import RecordQuery.Proofs.Scoping.Shift
import RecordQuery.Proofs.Scoping.Stack
import RecordQuery.Proofs.Scoping.Tail
import RecordQuery.Proofs.Text.Lowering
import RecordQuery.Proofs.Text.Pieces
import RecordQuery.Proofs.Text.Table
import RecordQuery.Proofs.Text.Trimming
import RecordQuery.Proofs.Time.FormatReading
import RecordQuery.Proofs.Time.PointForms
import RecordQuery.Proofs.Time.Range
import RecordQuery.Proofs.Time.SpanForms
import RecordQuery.Proofs.Time.Words
import RecordQuery.Proofs.Time.Writing
import RecordQuery.Proofs.Tokens.Bytes
import RecordQuery.Proofs.Tokens.Cutting
import RecordQuery.Proofs.Tokens.Insertion
import RecordQuery.Proofs.Tokens.Kinds
import RecordQuery.Proofs.Tokens.OnDemand
import RecordQuery.Proofs.Tokens.Respacing
import RecordQuery.Proofs.Tokens.Scanner
import RecordQuery.Proofs.Tokens.Slice
import RecordQuery.Proofs.Tokens.Tiling
import RecordQuery.Proofs.Typing.Admission
import RecordQuery.Proofs.Typing.Evolution
import RecordQuery.Proofs.Typing.Likeness
import RecordQuery.Proofs.Typing.Nullness
import RecordQuery.Proofs.Typing.Reader
import RecordQuery.Proofs.Typing.Reordering
import RecordQuery.Proofs.Typing.Shortcuts
import RecordQuery.Proofs.Typing.Soundness
import RecordQuery.Proofs.Typing.Tree
import RecordQuery.Proofs.Values.Arithmetic
import RecordQuery.Proofs.Values.Comparison
import RecordQuery.Proofs.Values.Floats
import RecordQuery.Query.Cursor
import RecordQuery.Query.Error
import RecordQuery.Query.Evaluation
import RecordQuery.Query.Expr
import RecordQuery.Query.Function
import RecordQuery.Query.Lexeme
import RecordQuery.Query.Operation
import RecordQuery.Query.Operator
import RecordQuery.Query.Parser
import RecordQuery.Query.PatternTest
import RecordQuery.Query.Predicate
import RecordQuery.Query.Token
import RecordQuery.Query.Typing
import RecordQuery.Record.Document
import RecordQuery.Record.Schema
import RecordQuery.Record.Value
import RecordQuery.Record.ValueType
import RecordQuery.Regex.CharSet
import RecordQuery.Regex.Pattern
import RecordQuery.Regex.Reader
import RecordQuery.Text.Age
import RecordQuery.Text.Alphabetic
import RecordQuery.Text.Blank
import RecordQuery.Text.Category
import RecordQuery.Text.Digits
import RecordQuery.Text.Folding
import RecordQuery.Text.Glob
import RecordQuery.Text.Lowercase
import RecordQuery.Text.Property
import RecordQuery.Text.Ranges
import RecordQuery.Text.Script
import RecordQuery.Text.Segmentation
import RecordQuery.Time.Date
import RecordQuery.Time.DateTime
import RecordQuery.Time.Fields
import RecordQuery.Time.Format
import RecordQuery.Time.Notation
import RecordQuery.Time.Reading
import RecordQuery.Time.Span
