import FilterQuery.Compiler.Error
import FilterQuery.Compiler.Options

/-!
# Compiling queries

A compiler turns a query into a term. It checks the number of filters first, and then each filter
from left to right: its field must have a policy, its value must be of the kind and match the
pattern that the policy asks for, and its operator must be one of the policy's. The first fault ends
the compilation.
-/

namespace FilterQuery

/-- What a compilation depends on besides the fields that a query may use. -/
structure Compiler where
  options : Options
  available : Table Policy
  builders : Sql.Builders

variable [Pattern.Engine]

/-- Whether every scalar of `v` matches the pattern, which must be one that can be read. -/
def Pattern.accepts (p : Pattern) (v : Value) : Bool :=
  match Engine.read? p.source with
  | some isMatch => v.scalars.all fun s => isMatch s.text
  | none => false

/-- The operator of the policy that the operator `op` of a filter stands for. -/
def Policy.operatorFor? (p : Policy) (op : String) : Option String :=
  if op = defaultOperator then p.firstOperator
  else if p.allows op then some op
  else none

/-- Allow a condition with at most `max` filters, or any condition if `max` is 0. -/
def Condition.checkLimit (c : Condition) (max : Nat) : Except CompileError Condition :=
  if max = 0 then .ok c
  else if c.count > max then .error (.tooManyFilters c.count max)
  else .ok c

/-- The term of a filter under the policy of its field. -/
def Filter.applyPolicy (f : Filter) (p : Policy) : Except CompileError Sql.Term :=
  if f.value.kind ≠ p.kind then .error (.wrongKind f p.kind)
  else
    match p.pattern.filter fun pattern => !pattern.accepts f.value with
    | some pattern => .error (.patternMismatch f pattern)
    | none =>
      match p.operatorFor? f.operator with
      | some op => .ok (p.term.build f.field op f.value)
      | none => .error (.forbiddenOperator f)

namespace Compiler

/-- The compiler without any configuration. -/
def standard : Compiler := ⟨.standard, Policy.builtin, .standard⟩

/-- The term of a filter. -/
def compileFilter (c : Compiler) (fields : Fields) (f : Filter) : Except CompileError Sql.Term :=
  match Fields.policy? fields c.available f.field with
  | some p => f.applyPolicy p
  | none => .error (.unknownField f)

/-- The term of a condition. -/
def compileCondition (c : Compiler) (fields : Fields) :
    Condition → Except CompileError Sql.Term
  | .filter f => c.compileFilter fields f
  | .and l r => do
    let left ← c.compileCondition fields l
    let right ← c.compileCondition fields r
    return c.builders.and left right
  | .or l r => do
    let left ← c.compileCondition fields l
    let right ← c.compileCondition fields r
    return c.builders.or left right

/-- The term of a query. -/
def build (c : Compiler) (fields : Fields) : Query → Except CompileError Sql.Term
  | none => .ok c.builders.empty
  | some condition => do
    c.compileCondition fields (← condition.checkLimit c.options.maxFilters)

/-- The term of a part of a query. The number of filters is checked for a whole query only, and a
value has no term of its own. -/
def compileNode (c : Compiler) (fields : Fields) : Node → Except CompileError Sql.Term
  | .query q => c.build fields q
  | .condition condition => c.compileCondition fields condition
  | .value v => .error (.unsupportedNode (.value v))

/-- Render what was compiled, with its values behind `params`. Without a term the parameters stay as
they are. -/
def renderOnto (params : Array Value) :
    Except CompileError Sql.Term → Except CompileError String × Array Value
  | .ok term => let (sql, params) := term.render params; (.ok sql, params)
  | .error e => (.error e, params)

/-- The query with the plain text of its values. -/
def plainQuery (c : Compiler) (fields : Fields) (q : Query) : Except CompileError String :=
  (c.build fields q).map Sql.Term.plain

/-- The query with placeholders, and the parameters with its values behind them. -/
def sqlQuery (c : Compiler) (fields : Fields) (params : Array Value) (q : Query) :
    Except CompileError String × Array Value :=
  renderOnto params (c.build fields q)

/-- The query written as `source`. It is the parser that counts its filters. -/
def parse (c : Compiler) (source : String) : Except CompileError Query :=
  match parseQuery source c.options.maxFilters with
  | .ok q => .ok q
  | .error (.tooManyFilters observed max) => .error (.tooManyFilters observed max)
  | .error e => .error (.malformed e)

/-- The query written as `source` with the plain text of its values. -/
def plain (c : Compiler) (fields : Fields) (source : String) : Except CompileError String := do
  c.plainQuery fields (← c.parse source)

/-- The query written as `source` with placeholders, and the parameters with its values behind
them. If the query cannot be compiled the parameters stay as they are. -/
def sql (c : Compiler) (fields : Fields) (params : Array Value) (source : String) :
    Except CompileError String × Array Value :=
  match c.parse source with
  | .ok q => c.sqlQuery fields params q
  | .error e => (.error e, params)

end Compiler

end FilterQuery
