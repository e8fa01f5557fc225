import FilterQuery.Sql.Identifier
import FilterQuery.Value

/-!
# Terms

A term is a condition of an SQL statement. It is rendered in two ways: with the plain text of its
values, to be read by people, and with a placeholder for each value, which goes to a list of
parameters in the order of the placeholders.
-/

namespace FilterQuery.Sql

/-- What joins two terms. -/
inductive Connective
  | and | or
deriving DecidableEq, Repr

/-- A connective as it is written. -/
def Connective.keyword : Connective → String
  | and => "AND"
  | or => "OR"

/-- Two conditions as they are joined, each in parentheses. -/
def Connective.join (c : Connective) (left right : String) : String :=
  "(" ++ left ++ ") " ++ c.keyword ++ " (" ++ right ++ ")"

/-- A condition of an SQL statement. -/
inductive Term
  /-- No condition. -/
  | empty
  /-- A field compared with a value. -/
  | operator (field symbol : String) (value : Value)
  /-- A field that contains the text of a value. -/
  | like (field : String) (value : Value)
  /-- Two joined terms. -/
  | junction (connective : Connective) (left right : Term)
  /-- A term that builders bring along, known by its two renderings only. -/
  | custom (plain : String) (render : Array Value → String × Array Value)

namespace Term

/-- The term with the plain text of its values. The text is not escaped. -/
def plain : Term → String
  | empty => ""
  | operator field symbol value => field ++ " " ++ symbol ++ " " ++ value.text
  | like field value => field ++ " LIKE '%" ++ value.text ++ "%'"
  | junction connective left right => connective.join left.plain right.plain
  | custom plain _ => plain

/-- The term with a placeholder for each value, and the list of parameters with the values behind
those of `params`. -/
def render (params : Array Value) : Term → String × Array Value
  | empty => ("", params)
  | operator field symbol value =>
    (identifier field ++ " " ++ symbol ++ " ?", params.push value)
  | like field value => (field ++ " LIKE CONCAT('%', ?, '%')", params.push value)
  | junction connective left right =>
    let (l, params) := left.render params
    let (r, params) := right.render params
    (connective.join l r, params)
  | custom _ render => render params

end Term

/-- How the parts of a query become terms. -/
structure Builders where
  and : Term → Term → Term
  or : Term → Term → Term
  empty : Term

namespace Builders

/-- A query becomes the condition that it states. -/
def standard : Builders := ⟨.junction .and, .junction .or, .empty⟩

end Builders

end FilterQuery.Sql
