import FilterQuery.Value

/-!
# Literals

A value is written as an SQL literal: text between single quotes with a backslash before whatever
could end it or be misread, numbers and booleans as they are, dates as text, lists in parentheses.
-/

namespace FilterQuery.Sql

/-- How a character of a text is written between single quotes. -/
def stringChar (c : Char) : List Char :=
  if c = '\x00' then ['\\', '0']
  else if c = '\x08' then ['\\', 'b']
  else if c = '\t' then ['\\', 't']
  else if c = '\n' then ['\\', 'n']
  else if c = '\r' then ['\\', 'r']
  else if c = '\x1a' then ['\\', 'Z']
  else if c = '"' then ['\\', '"']
  else if c = '\x27' then ['\\', '\x27']
  else if c = '\\' then ['\\', '\\']
  else [c]

/-- The characters of a text between single quotes. -/
def stringChars (text : List Char) : List Char :=
  '\x27' :: text.flatMap stringChar ++ ['\x27']

/-- A text between single quotes. -/
def stringLiteral (text : String) : String := String.ofList (stringChars text.toList)

mutual

/-- The characters of a value as a literal. -/
def literalChars : Value → List Char
  | .string s => stringChars s.toList
  | .number n => n.chars
  | .boolean true => ['t', 'r', 'u', 'e']
  | .boolean false => ['f', 'a', 'l', 's', 'e']
  | .date d => '\x27' :: d.chars ++ ['\x27']
  | .list [] => ['(', ')']
  | .list (v :: vs) => '(' :: literalChars v ++ moreLiterals vs

/-- The characters of a list behind one of its members. -/
def moreLiterals : List Value → List Char
  | [] => [')']
  | v :: vs => ',' :: ' ' :: literalChars v ++ moreLiterals vs

end

/-- A value as a literal. -/
def literal (v : Value) : String := String.ofList (literalChars v)

end FilterQuery.Sql
