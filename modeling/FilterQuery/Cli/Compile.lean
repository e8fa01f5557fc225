import FilterQuery.Cli.Error
import FilterQuery.Compiler.Basic
import FilterQuery.Policy.Json
import FilterQuery.Sql.Placeholder
import FilterQuery.Value.Json

/-!
# Compiling from the command line

The fields of a query come from the text of a table and from specifications `NAME=POLICY`, which win
over the table. A specification can name a built-in policy only.
-/

namespace FilterQuery.Cli

/-- The field and the policy that the specification `spec` names: what stands before and after its
first equals sign. Both must be there. -/
def parseField (spec : String) : Except Error (String × Standard) :=
  let cs := spec.toList
  let name := cs.takeWhile (· != '=')
  match name, cs.dropWhile (· != '=') with
  | _ :: _, _ :: c :: policy => .ok (String.ofList name, .named (String.ofList (c :: policy)))
  | _, _ => .error (.invalidField spec)

/-- Put the fields of specifications into a table, one after the other. -/
def addFields (fields : Fields) : List String → Except Error Fields
  | [] => .ok fields
  | spec :: specs => do
    let (name, standard) ← parseField spec
    addFields (fields.insert name standard) specs

/-- The fields of an optional table and of specifications. -/
def assembleFields [Pattern.Engine] (table : Option String) (specs : List String) :
    Except Error Fields := do
  let loaded ← match table with
    | some text => (Fields.load text Policy.builtin).mapError .config
    | none => pure ∅
  let fields ← addFields loaded specs
  (Fields.validate fields Policy.builtin).mapError .config
  return fields

/-- How a compiled query is shown. -/
inductive Mode
  /-- The statement with placeholders, and the parameters, as a document. -/
  | escaped
  /-- The plain text of the values in their places. -/
  | literal
  /-- The literals of the values in their places. -/
  | inline
deriving DecidableEq, Repr

/-- A query to be compiled. -/
structure Request where
  query : String
  table : Option String
  specs : List String
  options : Options
  mode : Mode

/-- A compiled query. -/
inductive Output
  | sql (text : String)
  | document (json : Json)

/-- The statement with placeholders of the query `source`, and its parameters. -/
def compileParams [Pattern.Engine] (c : Compiler) (fields : Fields) (source : String) :
    Except Error (String × List Value) :=
  match c.sql fields #[] source with
  | (.ok sql, params) => .ok (sql, params.toList)
  | (.error e, _) => .error (.compile e)

/-- Compile a query. -/
def compile [Pattern.Engine] (r : Request) : Except Error Output := do
  let fields ← assembleFields r.table r.specs
  let c := { Compiler.standard with options := r.options }
  match r.mode with
  | .literal => return .sql (← (c.plain fields r.query).mapError .compile)
  | .inline =>
    let (sql, params) ← compileParams c fields r.query
    return .sql (Sql.fill sql params)
  | .escaped =>
    let (sql, params) ← compileParams c fields r.query
    return .document (.object [("params", .array (Value.toJsons params)), ("sql", .string sql)])

/-- Check whether a query can be read. -/
def check (source : String) : Except Error Unit := do
  let _ ← (parseQuery source 0).mapError .parse

end FilterQuery.Cli
