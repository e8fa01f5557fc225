import FilterQuery.Cli.Arguments
import FilterQuery.Cli.Command
import FilterQuery.Cli.Compile
import FilterQuery.Cli.Error
import FilterQuery.Compiler.Basic
import FilterQuery.Compiler.Error
import FilterQuery.Compiler.Options
import FilterQuery.Date
import FilterQuery.Decimal.Basic
import FilterQuery.Decimal.Numeral
import FilterQuery.Json.Basic
import FilterQuery.Json.Printer
import FilterQuery.Json.Reader
import FilterQuery.Main
import FilterQuery.Pattern.Basic
import FilterQuery.Pattern.CharSet
import FilterQuery.Pattern.Element
import FilterQuery.Pattern.Engine
import FilterQuery.Pattern.Expr
import FilterQuery.Pattern.Symbol
import FilterQuery.Policy.Basic
import FilterQuery.Policy.Json
import FilterQuery.Policy.Validation
import FilterQuery.Query.Basic
import FilterQuery.Query.Grammar
import FilterQuery.Query.Parser
import FilterQuery.Sql.Identifier
import FilterQuery.Sql.IdentifierReader
import FilterQuery.Sql.Literal
import FilterQuery.Sql.LiteralReader
import FilterQuery.Sql.Placeholder
import FilterQuery.Sql.Term
import FilterQuery.Table
import FilterQuery.Text.Blank
import FilterQuery.Text.CaseFold
import FilterQuery.Text.CodePoints
import FilterQuery.Text.Hex
import FilterQuery.Text.Printable
import FilterQuery.Text.Quoted
import FilterQuery.Text.WordChar
import FilterQuery.Token.Basic
import FilterQuery.Token.Lexer
import FilterQuery.Token.Spelling
import FilterQuery.Value
import FilterQuery.Value.Json
import FilterQuery.Proofs.Table
import FilterQuery.Proofs.Lexing.Scalars
import FilterQuery.Proofs.Lexing.Step
import FilterQuery.Proofs.Parsing.Unambiguous
import FilterQuery.Proofs.Parsing.Acceptance
import FilterQuery.Proofs.Parsing.Limit
import FilterQuery.Proofs.Compiler.Counting
import FilterQuery.Proofs.Compiler.Enforcement
import FilterQuery.Proofs.Compiler.Source
import FilterQuery.Proofs.Compiler.Noninterference
import FilterQuery.Proofs.Lexing.Spelling
import FilterQuery.Proofs.Lexing.Positions
import FilterQuery.Proofs.Lexing.Trailing
import FilterQuery.Proofs.Sql.Identifiers
import FilterQuery.Proofs.Sql.Literals
import FilterQuery.Proofs.Compiler.Parameters
import FilterQuery.Proofs.Compiler.Inlining
import FilterQuery.Proofs.Compiler.Structure
import FilterQuery.Proofs.Compiler.Validation
import FilterQuery.Proofs.Compiler.Completion
import FilterQuery.Proofs.Compiler.Relevance
import FilterQuery.Proofs.Text.ByteOrder
import FilterQuery.Proofs.Policy.Faults
import FilterQuery.Proofs.Cli.Fields
import FilterQuery.Proofs.Cli.Input
import FilterQuery.Proofs.Parsing.FirstTokens
import FilterQuery.Proofs.Parsing.Failure
import FilterQuery.Proofs.Parsing.Repetition
import FilterQuery.Proofs.Parsing.Growth
import FilterQuery.Proofs.Decimal.Digits
import FilterQuery.Proofs.Json.Documents
import FilterQuery.Proofs.Json.Values
import FilterQuery.Proofs.Value.Lists
import FilterQuery.Proofs.Decimal.Rendering
import FilterQuery.Proofs.Policy.Documents
