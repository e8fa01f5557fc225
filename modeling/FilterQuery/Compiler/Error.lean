import FilterQuery.Policy.Basic
import FilterQuery.Query.Parser

/-!
# Why a query cannot be compiled
-/

namespace FilterQuery

/-- A part of a query. -/
inductive Node
  | query (q : Query)
  | condition (c : Condition)
  | value (v : Value)
deriving DecidableEq

/-- The kind of a part, as messages name it. -/
def Node.kindName : Node → String
  | query _ => "Conditions"
  | condition (.and _ _) => "And"
  | condition (.or _ _) => "Or"
  | condition (.filter _) => "Filter"
  | value (.list _) => "List"
  | value _ => "Literal"

/-- Why a query cannot be compiled. -/
inductive CompileError
  | tooManyFilters (observed max : Nat)
  /-- The field may not be used, or its standard cannot be resolved. -/
  | unknownField (filter : Filter)
  /-- The policy has no such operator, or none at all. -/
  | forbiddenOperator (filter : Filter)
  /-- The value is not of the kind that the policy asks for. -/
  | wrongKind (filter : Filter) (expected : Kind)
  /-- Some scalar of the value does not match the pattern, or the pattern cannot be read. -/
  | patternMismatch (filter : Filter) (pattern : Pattern)
  /-- The part of a query cannot be compiled on its own. -/
  | unsupportedNode (node : Node)
  | malformed (error : ParseError)
deriving DecidableEq

/-- The message for a query that cannot be compiled. -/
def CompileError.message : CompileError → String
  | tooManyFilters observed max =>
    s!"too many filters specified, max: {max} received: {observed}"
  | unknownField f =>
    s!"unknown field '{f.field}' (operator '{f.operator}', value '{f.value.text}')"
  | forbiddenOperator f =>
    s!"field '{f.field}' does not allow operator '{f.operator}' (value '{f.value.text}')"
  | wrongKind f expected =>
    s!"field '{f.field}' must be type '{expected.name}', " ++
      s!"got '{f.value.kind.name}' (value '{f.value.text}')"
  | patternMismatch f pattern =>
    s!"value '{f.value.text}' for field '{f.field}' does not match the pattern {pattern.source}"
  | unsupportedNode node => s!"unsupported node kind '{node.kindName}'"
  | malformed e => s!"invalid syntax: {e.message}"

end FilterQuery
