import FilterQuery.Cli.Arguments
import FilterQuery.Pattern.Engine
import FilterQuery.Text.Blank

/-!
# Commands

The commands of the program and what they print. A command is found from the arguments alone, and
then carried out with the texts that it asks for. The program reads patterns with the standard
engine, but a command can be carried out with any.
-/

namespace FilterQuery.Cli

/-- How a query is to be compiled. Without `query` it is read from standard input. -/
structure CompileCommand where
  query : Option String
  /-- The file with a table of fields. -/
  policies : Option String
  specs : List String
  maxFilters : Nat
  mode : Mode
  pretty : Bool

/-- A command of the program. -/
inductive Command
  | version
  | compile (command : CompileCommand)
  | check (query : Option String)
  | policies

/-- A number of filters as an argument: digits, perhaps with a plus sign before them. -/
def count? (text : String) : Option Nat :=
  let digits := match text.toList with
    | '+' :: cs => cs
    | cs => cs
  let n := Nat.ofDigitChars 10 digits 0
  if digits ≠ [] ∧ digits.all Char.isDigit ∧ n < Options.countBound then some n else none

/-- The only member of a list, or that it is empty. -/
def atMostOne {α : Type} : List α → Option (Option α)
  | [] => some none
  | [a] => some (some a)
  | _ => none

/-- The options of the command `compile`. -/
def compileOptions : List OptionSpec :=
  [⟨"policies", some 'p', true⟩, ⟨"field", some 'f', true⟩, ⟨"max-filters", none, true⟩,
    ⟨"literal", none, false⟩, ⟨"inline", none, false⟩, ⟨"pretty", none, false⟩]

/-- The command `compile` with the given arguments, and the number of filters that the environment
allows, if it states one. -/
def CompileCommand.ofArguments? (environment : Option String) (args : List String) :
    Option CompileCommand := do
  let a ← readArguments compileOptions args
  let query ← atMostOne a.plain
  let policies ← atMostOne (a.values "policies")
  let max ← atMostOne (a.values "max-filters")
  let literal ← atMostOne (a.values "literal")
  let inline ← atMostOne (a.values "inline")
  let pretty ← atMostOne (a.values "pretty")
  let maxFilters ← match max.or environment with
    | some text => count? text
    | none => some Options.standard.maxFilters
  let mode ← match literal, inline with
    | none, none => some .escaped
    | some _, none => some .literal
    | none, some _ => some .inline
    | some _, some _ => none
  if policies = some "" then none
  else
    some { query, policies, specs := a.values "field", maxFilters, mode, pretty := pretty.isSome }

/-- The command that arguments stand for, if they are well formed. -/
def Command.ofArguments? (environment : Option String) : List String → Option Command
  | "compile" :: args => (CompileCommand.ofArguments? environment args).map .compile
  | "check" :: args => do
    let a ← readArguments [] args
    (atMostOne a.plain).map .check
  | "policies" :: args => do
    let a ← readArguments [] args
    if a.plain.isEmpty then some .policies else none
  | arg :: _ =>
    match Argument.ofText arg with
    | .long "version" none | .short 'V' _ => some .version
    | _ => none
  | [] => none

/-- The file that a command reads. -/
def Command.file? : Command → Option String
  | .compile command => command.policies
  | _ => none

/-- Whether a command reads its query from standard input. -/
def Command.readsStdin : Command → Bool
  | .compile command => command.query.isNone
  | .check query => query.isNone
  | _ => false

/-- The texts that a command may ask for: that of its file, or why it cannot be read, and that of
standard input, if there is one. -/
structure Inputs where
  file : Except String String
  stdin : Option String

/-- The query given as an argument, or else what is on standard input without the blanks at its
end. -/
def Inputs.query (i : Inputs) (query : Option String) : Except Error String :=
  match query, i.stdin with
  | some q, _ => .ok q
  | none, some text => .ok (Text.trimEnd text)
  | none, none => .error .noInput

/-- The text of a compiled query. -/
def Output.text (pretty : Bool) : Output → String
  | .sql text => text
  | .document json => if pretty then json.pretty else json.compact

/-- The name and version of the program. -/
def versionText : String := "facets 0.3.0"

/-- What a command prints. -/
def Command.run [Pattern.Engine] (i : Inputs) : Command → Except Error String
  | .version => .ok versionText
  | .compile command => do
    let table ← match command.policies with
      | some _ => i.file.mapError Error.file |>.map some
      | none => .ok none
    let query ← i.query command.query
    let output ← Cli.compile
      ⟨query, table, command.specs, ⟨command.maxFilters⟩, command.mode⟩
    return output.text command.pretty
  | .check query => do
    Cli.check (← i.query query)
    return "Syntax is valid"
  | .policies => .ok (Policy.tableToJson Policy.builtin).pretty

end FilterQuery.Cli
