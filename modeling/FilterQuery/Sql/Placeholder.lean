import FilterQuery.Sql.Literal
import FilterQuery.Sql.Term

/-!
# Placeholders

In the text of a statement each question mark stands for a parameter. `fill` puts the literals of
the parameters in their places, in order and in one pass: a question mark inside a literal is never
taken for a placeholder. Placeholders without a parameter stay, and parameters without a placeholder
are not used.
-/

namespace FilterQuery.Sql

/-- Fill the placeholders of a text behind what was written already (in reverse). -/
def fillFrom (written : List Char) : List Char → List Value → List Char
  | [], _ => written.reverse
  | c :: cs, params =>
    if c = '?' then
      match params with
      | v :: vs => fillFrom ((literalChars v).reverse ++ written) cs vs
      | [] => fillFrom (c :: written) cs []
    else fillFrom (c :: written) cs params

/-- The statement `sql` with the literals of `params` for its placeholders. -/
def fill (sql : String) (params : List Value) : String :=
  String.ofList (fillFrom [] sql.toList params)

/-- The term with the literals of its values in their places. -/
def Term.inline : Term → String
  | empty => ""
  | operator field symbol value => identifier field ++ " " ++ symbol ++ " " ++ literal value
  | like field value => field ++ " LIKE CONCAT('%', " ++ literal value ++ ", '%')"
  | junction .and left right => "(" ++ left.inline ++ ") AND (" ++ right.inline ++ ")"
  | junction .or left right => "(" ++ left.inline ++ ") OR (" ++ right.inline ++ ")"
  | custom _ render => let (sql, params) := render #[]; fill sql params.toList

end FilterQuery.Sql
