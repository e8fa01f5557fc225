import FilterQuery.Text.Quoted

/-!
# Patterns

A pattern is kept as it is written, whether or not it can be read. What reads it is an engine. All
that is asked of an engine is which patterns it can read and which texts they match, so that it is a
parameter of whatever makes use of patterns.
-/

namespace FilterQuery

/-- A pattern as it is written. -/
structure Pattern where
  source : String
deriving DecidableEq, Repr

namespace Pattern

/-- What reads patterns and matches texts with them. -/
class Engine where
  /-- Whether a text matches the pattern written as `source`, if this can be read. -/
  read? (source : String) : Option (String → Bool)

/-- The pattern as messages show it. -/
def shown (p : Pattern) : String := "Pattern(" ++ Text.quoted p.source ++ ")"

variable [Engine]

/-- Whether the pattern can be read. -/
def isValid (p : Pattern) : Bool := (Engine.read? p.source).isSome

/-- Whether `text` matches, if the pattern can be read. -/
def isMatch? (p : Pattern) (text : String) : Option Bool :=
  (Engine.read? p.source).map (· text)

end Pattern

end FilterQuery
