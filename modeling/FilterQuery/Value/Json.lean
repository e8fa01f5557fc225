import FilterQuery.Decimal.Numeral
import FilterQuery.Json.Reader
import FilterQuery.Value

/-!
# Values as JSON

Parameters are handed on as JSON. A number keeps its text and so its trailing zeros, a date is
written as a string, and a list as an array.
-/

namespace FilterQuery.Value

mutual

/-- The document for a value. A number is written as one if its text is a number of JSON. -/
def toJson : Value → Json
  | string s => .string s
  | number n => if Json.isNumber n.chars then .number n.text else .string n.text
  | boolean b => .bool b
  | date d => .string d.text
  | list members => .array (toJsons members)

/-- The documents for the members of a list. -/
def toJsons : List Value → List Json
  | [] => []
  | v :: vs => toJson v :: toJsons vs

end

mutual

/-- The value that a document stands for. A date comes back as a string. -/
def ofJson? : Json → Option Value
  | .string s => some (string s)
  | .number text => (Decimal.ofText? text).map number
  | .bool b => some (boolean b)
  | .array items => (ofJsons? items).map list
  | _ => none

/-- The values that documents stand for. -/
def ofJsons? : List Json → Option (List Value)
  | [] => some []
  | j :: js => do return (← ofJson? j) :: (← ofJsons? js)

end

end FilterQuery.Value
