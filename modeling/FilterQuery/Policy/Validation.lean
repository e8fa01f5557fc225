import FilterQuery.Policy.Basic

/-!
# Validation of fields

A table of fields can be used if each standard resolves to a policy that has an operator and whose
pattern, if there is one, can be read. Of several faults the one of the least field is reported.
-/

namespace FilterQuery

/-- What is wrong with a configuration. -/
inductive ConfigError
  /-- The text of a table cannot be read. -/
  | json (detail : String)
  | unknownPolicy (field name : String)
  | noOperators (field : String)
  | invalidPattern (field : String) (pattern : Pattern)
deriving DecidableEq, Repr

/-- The message for a fault of a configuration. -/
def ConfigError.message : ConfigError → String
  | json detail => s!"invalid policy JSON: {detail}"
  | unknownPolicy field name => s!"field '{field}' refers to unknown policy '{name}'"
  | noOperators field => s!"field '{field}' declares no operators"
  | invalidPattern field pattern => s!"field '{field}' has an invalid pattern: {pattern.source}"

variable [Pattern.Engine]

/-- What is wrong with the policy of a field. -/
def Policy.fault? (field : String) (p : Policy) : Option ConfigError :=
  if p.operators.isEmpty then some (.noOperators field)
  else
    match p.pattern with
    | some pattern => if pattern.isValid then none else some (.invalidPattern field pattern)
    | none => none

/-- What is wrong with the standard of a field. -/
def Standard.fault? (available : Table Policy) (field : String) : Standard → Option ConfigError
  | named name =>
    match available.get? name with
    | some p => p.fault? field
    | none => some (.unknownPolicy field name)
  | own p => p.fault? field

/-- Check the standards of all fields in the order of their names. -/
def Fields.validate (fields : Fields) (available : Table Policy) : Except ConfigError Unit :=
  match fields.sorted.findSome? fun (field, standard) => standard.fault? available field with
  | some e => .error e
  | none => .ok ()

end FilterQuery
