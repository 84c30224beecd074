import RecordFilter.CommandLine.Arguments
import RecordFilter.CommandLine.Run
import RecordFilter.Engine.Basic
import RecordFilter.Engine.Cache
import RecordFilter.Engine.Settings
import RecordFilter.Expr.Basic
import RecordFilter.Expr.Equality
import RecordFilter.Expr.Evaluation
import RecordFilter.Expr.Lexeme
import RecordFilter.Expr.Namespace
import RecordFilter.Expr.Parser
import RecordFilter.Expr.SyntaxError
import RecordFilter.Expr.Token
import RecordFilter.Filter.Basic
import RecordFilter.Filter.Compiled
import RecordFilter.Json.Document
import RecordFilter.Json.Expr
import RecordFilter.Json.Scan
import RecordFilter.Json.Structure
import RecordFilter.Json.Value
import RecordFilter.Main
import RecordFilter.Number.Binary64
import RecordFilter.Number.Decimal
import RecordFilter.Number.Function
import RecordFilter.Number.Layout
import RecordFilter.Number.Numeral
import RecordFilter.Operator.Apply
import RecordFilter.Operator.Builtin
import RecordFilter.Operator.Comparison
import RecordFilter.Pattern.Footprint
import RecordFilter.Pattern.Glob
import RecordFilter.Pattern.Matcher
import RecordFilter.Pattern.Part
import RecordFilter.Pattern.Reader
import RecordFilter.Pattern.Regex
import RecordFilter.Pattern.Search
import RecordFilter.Pattern.Syntax
import RecordFilter.Text.Escape
import RecordFilter.Unicode.ByteRange
import RecordFilter.Unicode.CaseFolding
import RecordFilter.Unicode.Character
import RecordFilter.Unicode.CodeSet
import RecordFilter.Unicode.Data.Age
import RecordFilter.Unicode.Data.BinaryProperty
import RecordFilter.Unicode.Data.BreakClass
import RecordFilter.Unicode.Data.CaseFolding
import RecordFilter.Unicode.Data.GeneralCategory
import RecordFilter.Unicode.Data.Script
import RecordFilter.Unicode.Data.ScriptExtension
import RecordFilter.Unicode.Property
import RecordFilter.Value.Basic
import RecordFilter.Value.Coercion
import RecordFilter.Value.Equality
import RecordFilter.Value.Member
import RecordFilter.Value.Order
import RecordFilter.Value.Text
import RecordFilter.Proofs.Engine.Cache
import RecordFilter.Proofs.Engine.History
import RecordFilter.Proofs.Expr.Completeness
import RecordFilter.Proofs.Expr.Composition
import RecordFilter.Proofs.Expr.Depth
import RecordFilter.Proofs.Expr.Grammar
import RecordFilter.Proofs.Expr.Height
import RecordFilter.Proofs.Expr.Invariant
import RecordFilter.Proofs.Expr.Levels
import RecordFilter.Proofs.Expr.Lexing
import RecordFilter.Proofs.Expr.Readers
import RecordFilter.Proofs.Expr.Reading
import RecordFilter.Proofs.Expr.Scanning
import RecordFilter.Proofs.Expr.Soundness
import RecordFilter.Proofs.Expr.Steps
import RecordFilter.Proofs.Expr.Tokenization
import RecordFilter.Proofs.Expr.Tree
import RecordFilter.Proofs.Filter.Compiled
import RecordFilter.Proofs.Filter.Fields
import RecordFilter.Proofs.Pattern.Denotation
import RecordFilter.Proofs.Pattern.Glob
import RecordFilter.Proofs.Pattern.GlobClass
import RecordFilter.Proofs.Pattern.GlobItems
import RecordFilter.Proofs.Pattern.GlobLanguage
import RecordFilter.Proofs.Pattern.GlobReading
import RecordFilter.Proofs.Pattern.Search
import RecordFilter.Proofs.Unicode.Character
import RecordFilter.Proofs.Unicode.CodeSet
import RecordFilter.Proofs.Expr.Limits
import RecordFilter.Proofs.Filter.Algebra
import RecordFilter.Proofs.Operator.Comparison
import RecordFilter.Proofs.Number.Binary64
import RecordFilter.Proofs.Number.Decimal
import RecordFilter.Proofs.Json.Scan
import RecordFilter.Proofs.Json.Structure
import RecordFilter.Proofs.Value.Equality
import RecordFilter.Proofs.Json.Value
import RecordFilter.Proofs.Expr.Literals
import RecordFilter.Proofs.Json.Expr
import RecordFilter.Proofs.Json.Nesting
import RecordFilter.Proofs.Pattern.ClassReading
import RecordFilter.Proofs.Pattern.ClassMembers
import RecordFilter.Proofs.Pattern.Containment
import RecordFilter.Proofs.Pattern.GlobStars
import RecordFilter.Proofs.Number.Rounding
import RecordFilter.Proofs.Number.Numeral
import RecordFilter.Proofs.Number.Range
import RecordFilter.Proofs.Value.Coercion
import RecordFilter.Proofs.Value.Equivalence
import RecordFilter.Proofs.Operator.Congruence
import RecordFilter.Proofs.Expr.NumberLiteral
import RecordFilter.Proofs.Number.Shortest
import RecordFilter.Proofs.Json.Number
import RecordFilter.Proofs.CommandLine.Outcome
import RecordFilter.Proofs.Expr.Quotation
import RecordFilter.Proofs.Expr.Cutting
import RecordFilter.Proofs.Expr.Offsets
import RecordFilter.Proofs.Expr.Tiling
import RecordFilter.Proofs.Expr.Earliest
import RecordFilter.Proofs.Value.Member
import RecordFilter.Proofs.Number.Exact
import RecordFilter.Proofs.Number.Order
import RecordFilter.Proofs.Value.Order
import RecordFilter.Proofs.Number.Word
import RecordFilter.Proofs.Operator.Word
import RecordFilter.Proofs.Json.Document
import RecordFilter.Proofs.Json.Integers
import RecordFilter.Proofs.Number.Nearest
import RecordFilter.Proofs.Expr.Logged
import RecordFilter.Proofs.Number.HalfUp
import RecordFilter.Proofs.Expr.Discipline
import RecordFilter.Proofs.Json.Spelling
