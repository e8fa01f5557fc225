import FilterQuery.Pattern.Basic
import FilterQuery.Sql.Term
import FilterQuery.Table

/-!
# Policies

The policy of a field says which values a filter on it may have, which operators it may use, and how
it becomes a term. Fields refer to shared policies by name or have one of their own.
-/

namespace FilterQuery

/-- How a filter becomes a term. -/
inductive TermKind
  /-- A comparison with the operator of the filter. -/
  | operator
  /-- A search for the text of the value. -/
  | like
deriving DecidableEq, Repr

namespace TermKind

/-- The name of a kind of term. -/
def name : TermKind → String
  | operator => "operator"
  | like => "like"

/-- The kind of term of the given name. -/
def ofName? (s : String) : Option TermKind := [operator, like].find? (·.name == s)

/-- The term of a comparison. -/
def build (k : TermKind) (field symbol : String) (value : Value) : Sql.Term :=
  match k with
  | operator => .operator field symbol value
  | like => .like field value

end TermKind

/-- What filters on a field must be like. -/
structure Policy where
  kind : Kind
  operators : List String
  term : TermKind
  pattern : Option Pattern
deriving DecidableEq, Repr

namespace Policy

/-- The operator of a filter that is written without one. -/
def firstOperator (p : Policy) : Option String := p.operators.head?

/-- Whether a filter may use the operator `op`. -/
def allows (p : Policy) (op : String) : Bool := p.operators.contains op

/-- The six comparisons, equality first. -/
def comparisons : List String := ["=", "!=", ">", ">=", "<", "<="]

/-- The shared policies that are there without any configuration. -/
def builtin : Table Policy :=
  .ofList [
    ("number", ⟨.number, comparisons, .operator, none⟩),
    ("string", ⟨.string, ["="], .like, none⟩),
    ("boolean", ⟨.boolean, ["="], .operator, none⟩),
    ("date", ⟨.date, comparisons, .operator, none⟩)]

end Policy

/-- The standard of a field: a shared policy by its name, or a policy of its own. -/
inductive Standard
  | named (name : String)
  | own (policy : Policy)
deriving DecidableEq, Repr

namespace Standard

/-- The policy that a standard stands for, if it names a shared one that is there. -/
def resolve? (available : Table Policy) : Standard → Option Policy
  | named name => available.get? name
  | own policy => some policy

end Standard

/-- The fields that a query may use, with their standards. -/
abbrev Fields := Table Standard

/-- The policy of a field, if the field may be used and its standard can be resolved. -/
def Fields.policy? (fields : Fields) (available : Table Policy) (field : String) : Option Policy :=
  (fields.get? field).bind (·.resolve? available)

end FilterQuery
