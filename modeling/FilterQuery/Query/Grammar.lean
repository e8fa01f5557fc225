import FilterQuery.Query.Basic
import FilterQuery.Token.Basic

/-!
# The grammar of queries

    query  := (nothing) | or
    or     := and (OR and)*
    and    := filter ([AND] filter)*
    filter := word ':' [comparison] value
    value  := word | string | number | date | boolean | '[' ']' | '[' value (',' value)* [','] ']'

A derivation is a tree with a node for each rule that is used. It remembers what the query itself
does not: whether an `AND` is written, and whether a list ends in a comma. Every derivation has its
tokens, in the order of the text, and what it stands for: conditions nest to the left, and filters
side by side are joined as by `AND`.
-/

namespace FilterQuery.Grammar

/-- A derivation of a value. -/
inductive ValueTree
  | word (text : String)
  | string (text : String)
  | number (value : Decimal)
  | date (value : Date)
  | boolean (value : Bool)
  | emptyList
  | list (first : ValueTree) (more : List ValueTree) (trailingComma : Bool)

namespace ValueTree

/-- The tokens at the end of a list with members. -/
def listEnd (trailingComma : Bool) : List Token :=
  if trailingComma then [.comma, .closeBracket] else [.closeBracket]

mutual

/-- The tokens of a value. -/
def tokens : ValueTree → List Token
  | word text => [.word text]
  | string text => [.string text]
  | number value => [.number value]
  | date value => [.date value]
  | boolean value => [.boolean value]
  | emptyList => [.openBracket, .closeBracket]
  | list first more trailingComma =>
    .openBracket :: (first.tokens ++ moreTokens more ++ listEnd trailingComma)

/-- The tokens of the members behind the first, each with a comma before it. -/
def moreTokens : List ValueTree → List Token
  | [] => []
  | v :: vs => .comma :: (v.tokens ++ moreTokens vs)

end

mutual

/-- The value that is derived. -/
def value : ValueTree → Value
  | word text | string text => .string text
  | number value => .number value
  | date value => .date value
  | boolean value => .boolean value
  | emptyList => .list []
  | list first more _ => .list (first.value :: values more)

/-- The values that are derived, in order. -/
def values : List ValueTree → List Value
  | [] => []
  | v :: vs => v.value :: values vs

end

end ValueTree

/-- The operator that a comparison stands for. -/
def operator : Comparison → String
  | .gt => ">"
  | .gtEq => ">="
  | .lt => "<"
  | .ltEq => "<="
  | .eq => "="
  | .notEq => "!="

/-- A derivation of a filter. -/
structure FilterTree where
  field : String
  comparison : Option Comparison
  value : ValueTree

namespace FilterTree

/-- The tokens of a filter. -/
def tokens (f : FilterTree) : List Token :=
  .word f.field :: .colon :: ((f.comparison.map Token.comparison).toList ++ f.value.tokens)

/-- The filter that is derived. Without a comparison it has the default operator. -/
def filter (f : FilterTree) : Filter :=
  ⟨f.field, (f.comparison.map operator).getD defaultOperator, f.value.value⟩

end FilterTree

/-- A derivation of filters of which all must hold. Those behind the first come with whether an
`AND` is written before them. -/
structure AndTree where
  first : FilterTree
  more : List (Bool × FilterTree)

namespace AndTree

/-- The tokens of a filter behind the first. -/
def nextTokens (next : Bool × FilterTree) : List Token :=
  if next.1 then .and :: next.2.tokens else next.2.tokens

/-- The tokens of filters of which all must hold. -/
def tokens (a : AndTree) : List Token := a.first.tokens ++ a.more.flatMap nextTokens

/-- A condition joined with one more filter. -/
def join (c : Condition) (next : Bool × FilterTree) : Condition := .and c (.filter next.2.filter)

/-- The condition that is derived. -/
def condition (a : AndTree) : Condition := a.more.foldl join (.filter a.first.filter)

end AndTree

/-- A derivation of alternatives of which at least one must hold. -/
structure OrTree where
  first : AndTree
  more : List AndTree

namespace OrTree

/-- The tokens of an alternative behind the first. -/
def nextTokens (next : AndTree) : List Token := .or :: next.tokens

/-- The tokens of alternatives. -/
def tokens (o : OrTree) : List Token := o.first.tokens ++ o.more.flatMap nextTokens

/-- A condition with one more alternative. -/
def join (c : Condition) (next : AndTree) : Condition := .or c next.condition

/-- The condition that is derived. -/
def condition (o : OrTree) : Condition := o.more.foldl join o.first.condition

end OrTree

/-- A derivation of a query. -/
inductive QueryTree
  | empty
  | condition (o : OrTree)

namespace QueryTree

/-- The tokens of a query. -/
def tokens : QueryTree → List Token
  | empty => []
  | condition o => o.tokens

/-- The query that is derived. -/
def query : QueryTree → Query
  | empty => none
  | condition o => some o.condition

end QueryTree

end FilterQuery.Grammar
