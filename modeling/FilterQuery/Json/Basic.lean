/-!
# JSON documents

A document keeps the text of its numbers and the members of its objects as they are written, in
their order and with repetitions. What a repeated member or a number means is for the reader of the
document to say.
-/

namespace FilterQuery

/-- A JSON document. -/
inductive Json
  | null
  | bool (value : Bool)
  | number (text : String)
  | string (text : String)
  | array (items : List Json)
  | object (members : List (String × Json))

namespace Json

/-- The array of the given strings. -/
def strings (texts : List String) : Json := .array (texts.map .string)

/-- The first member of the given name, if the document is an object that has one. -/
def member? (name : String) : Json → Option Json
  | object members => members.lookup name
  | _ => none

end Json

/-- A mark or scalar of a JSON text. -/
inductive Json.Lexeme
  | openArray
  | closeArray
  | openObject
  | closeObject
  | comma
  | colon
  | null
  | bool (value : Bool)
  | number (text : String)
  | string (text : String)
deriving DecidableEq, Repr

end FilterQuery
