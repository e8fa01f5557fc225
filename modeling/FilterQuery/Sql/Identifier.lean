/-!
# Quoted identifiers

A field name is written as an SQL identifier between backticks. A dot separates the parts of a
qualified name, each of which has backticks of its own; a backtick inside a part is doubled.
-/

namespace FilterQuery.Sql

/-- How a character of a name is written inside backticks. -/
def identifierChar (c : Char) : List Char :=
  if c = '\x60' then ['\x60', '\x60']
  else if c = '.' then ['\x60', '.', '\x60']
  else [c]

/-- The characters of a name as an identifier. -/
def identifierChars (name : List Char) : List Char :=
  '\x60' :: name.flatMap identifierChar ++ ['\x60']

/-- A name as an identifier. -/
def identifier (name : String) : String := String.ofList (identifierChars name.toList)

end FilterQuery.Sql
