import FilterQuery.Json.Printer
import FilterQuery.Json.Reader
import FilterQuery.Policy.Validation

/-!
# Policies as JSON

A policy is an object with the members `type`, `operators`, `term` and `pattern`, of which the last
two may be missing, or an array of the same things in this order. Members of other names are not
looked at, but none of the four may be given twice. A name out of a fixed choice is a string, or an
object whose only member has that name and no value. A standard is a string or a policy, and a table
of fields is an object of standards, where the last of several members of one name counts.
-/

namespace FilterQuery

namespace Json

/-- The string that a document is. -/
def string? : Json → Option String
  | string s => some s
  | _ => none

/-- The strings that a document is an array of. -/
def strings? : Json → Option (List String)
  | array items => items.mapM string?
  | _ => none

/-- The name that a document chooses: a string, or the only member of an object, without a value. -/
def choice? : Json → Option String
  | string s => some s
  | object [(name, null)] => some name
  | _ => none

/-- The string that a document is, if it is not without a value. -/
def optional? : Json → Option (Option String)
  | null => some none
  | string s => some (some s)
  | _ => none

/-- The member of the given name, if there is no more than one. -/
def unique? (members : List (String × Json)) (name : String) : Option (Option Json) :=
  match members.filter (·.1 == name) with
  | [] => some none
  | [(_, j)] => some (some j)
  | _ => none

/-- An object with its members in the order of their names. -/
def byName : Json → Json
  | object members => object (members.mergeSort fun a b => a.1 ≤ b.1)
  | j => j

end Json

namespace Policy

/-- The policy of the given parts, of which the last two may be missing. -/
def ofParts? (type operators : Json) (term pattern : Option Json) : Option Policy := do
  let kind ← type.choice?.bind Kind.ofName?
  let operators ← operators.strings?
  let term ← match term with
    | some term => term.choice?.bind TermKind.ofName?
    | none => some .operator
  let pattern ← match pattern with
    | some pattern => pattern.optional?
    | none => some none
  return ⟨kind, operators, term, pattern.map Pattern.mk⟩

/-- The policy that a document describes. -/
def ofJson? : Json → Option Policy
  | .object members => do
    let type ← Json.unique? members "type"
    let operators ← Json.unique? members "operators"
    let term ← Json.unique? members "term"
    let pattern ← Json.unique? members "pattern"
    ofParts? (← type) (← operators) term pattern
  | .array [type, operators] => ofParts? type operators none none
  | .array [type, operators, term] => ofParts? type operators term none
  | .array [type, operators, term, pattern] => ofParts? type operators term pattern
  | _ => none

/-- The document that describes a policy. -/
def toJson (p : Policy) : Json :=
  .object <|
    [("type", .string p.kind.name), ("operators", Json.strings p.operators),
      ("term", .string p.term.name)] ++
    match p.pattern with
    | some pattern => [("pattern", .string pattern.source)]
    | none => []

/-- The document that describes shared policies, with the members of every object in the order of
their names. -/
def tableToJson (policies : Table Policy) : Json :=
  .object (policies.sorted.map fun (name, p) => (name, p.toJson.byName))

end Policy

namespace Standard

/-- The standard that a document describes. -/
def ofJson? : Json → Option Standard
  | .string name => some (.named name)
  | j => (Policy.ofJson? j).map .own

/-- The document that describes a standard. -/
def toJson : Standard → Json
  | named name => .string name
  | own policy => policy.toJson

end Standard

namespace Fields

/-- The fields that a document describes. -/
def ofJson? : Json → Option Fields
  | .object members => do
    let entries ← members.mapM fun (field, j) => (Standard.ofJson? j).map fun s => (field, s)
    return .ofList entries
  | _ => none

/-- The document that describes fields, in the order of their names. -/
def toJson (fields : Fields) : Json :=
  .object (fields.sorted.map fun (field, standard) => (field, standard.toJson))

/-- The fields written as `text`, without a check of their policies. -/
def read (text : String) : Except ConfigError Fields :=
  match Json.parse? text Json.defaultDepth with
  | none => .error (.json "the text is not JSON")
  | some j =>
    match ofJson? j with
    | none => .error (.json "the document is not a table of fields")
    | some fields => .ok fields

/-- The fields written as `text`, which must be valid. -/
def load [Pattern.Engine] (text : String) (available : Table Policy) :
    Except ConfigError Fields := do
  let fields ← read text
  Fields.validate fields available
  return fields

end Fields

end FilterQuery
