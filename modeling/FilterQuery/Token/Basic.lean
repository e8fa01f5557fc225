import FilterQuery.Date
import FilterQuery.Decimal.Basic
import FilterQuery.Text.Quoted

/-!
# Tokens

A query is read as a sequence of tokens: words, quoted strings, numbers, dates and booleans, the two
keywords, punctuation and comparisons, and a last token for the end of the query.
-/

namespace FilterQuery

/-- The comparisons that can stand before a value. -/
inductive Comparison
  | gt | gtEq | lt | ltEq | eq | notEq
deriving DecidableEq, Repr

namespace Comparison

/-- The comparison as it is written in a query and in SQL. -/
def symbol : Comparison → String
  | gt => ">" | gtEq => ">=" | lt => "<" | ltEq => "<=" | eq => "=" | notEq => "!="

/-- The comparison as messages name it. -/
def name : Comparison → String
  | gt => "Gt" | gtEq => "GtEq" | lt => "Lt" | ltEq => "LtEq" | eq => "Eq" | notEq => "NotEq"

end Comparison

/-- A token of a query. -/
inductive Token
  | word (text : String)
  | string (text : String)
  | number (value : Decimal)
  | date (value : Date)
  | boolean (value : Bool)
  | and
  | or
  | colon
  | comma
  | openBracket
  | closeBracket
  | comparison (op : Comparison)
  | eof
deriving DecidableEq

namespace Token

/-- The kind of a token as messages name it. -/
def kindName : Token → String
  | word _ => "Word"
  | string _ => "String"
  | number _ => "Number"
  | date _ => "Date"
  | boolean _ => "Boolean"
  | and => "And"
  | or => "Or"
  | colon => "Colon"
  | comma => "Comma"
  | openBracket => "LBracket"
  | closeBracket => "RBracket"
  | comparison op => op.name
  | eof => "Eof"

/-- The text that a token carries, if it is of a kind that carries one. -/
def text? : Token → Option String
  | word s | string s => some s
  | number n => some n.text
  | date d => some d.text
  | boolean b => some (if b then "true" else "false")
  | _ => none

/-- A token as messages show it: its kind and, if it carries a text, the text behind it; the text of
a word or a string is quoted. -/
def shown (t : Token) : String :=
  match t with
  | word s | string s => t.kindName ++ "(" ++ Text.quoted s ++ ")"
  | _ =>
    match t.text? with
    | some s => t.kindName ++ "(" ++ s ++ ")"
    | none => t.kindName

end Token

end FilterQuery
