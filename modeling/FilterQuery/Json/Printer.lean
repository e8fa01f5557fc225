import FilterQuery.Json.Basic

/-!
# Writing JSON

`Json.compact` writes a document without blanks, `Json.pretty` on several lines. In strings the
quote, the backslash and the characters below the space are escaped, and nothing else is.
-/

namespace FilterQuery.Json

/-- How the character `c` is written in a string. -/
def stringChar (c : Char) : List Char :=
  if c = '"' then ['\\', '"']
  else if c = '\\' then ['\\', '\\']
  else if c = '\x08' then ['\\', 'b']
  else if c = '\x0c' then ['\\', 'f']
  else if c = '\n' then ['\\', 'n']
  else if c = '\r' then ['\\', 'r']
  else if c = '\t' then ['\\', 't']
  else if c.toNat < 0x20 then
    ['\\', 'u', '0', '0'] ++ (Nat.toDigits 16 c.toNat).leftpad 2 '0'
  else [c]

/-- How a text is written as a string. -/
def stringChars (s : String) : List Char :=
  '"' :: s.toList.flatMap stringChar ++ ['"']

/-- How a lexeme is written. -/
def Lexeme.chars : Lexeme → List Char
  | openArray => ['[']
  | closeArray => [']']
  | openObject => ['\x7b']
  | closeObject => ['\x7d']
  | comma => [',']
  | colon => [':']
  | null => ['n', 'u', 'l', 'l']
  | bool true => ['t', 'r', 'u', 'e']
  | bool false => ['f', 'a', 'l', 's', 'e']
  | number text => text.toList
  | string text => stringChars text

mutual

/-- The lexemes of a document, with `rest` behind them. -/
def lexemes (rest : List Lexeme) : Json → List Lexeme
  | null => .null :: rest
  | bool b => .bool b :: rest
  | number text => .number text :: rest
  | string text => .string text :: rest
  | array [] => .openArray :: .closeArray :: rest
  | array (v :: vs) => .openArray :: lexemes (moreItems rest vs) v
  | object [] => .openObject :: .closeObject :: rest
  | object ((k, v) :: ms) =>
    .openObject :: .string k :: .colon :: lexemes (moreMembers rest ms) v

/-- The lexemes of an array behind one of its items, with `rest` behind them. -/
def moreItems (rest : List Lexeme) : List Json → List Lexeme
  | [] => .closeArray :: rest
  | v :: vs => .comma :: lexemes (moreItems rest vs) v

/-- The lexemes of an object behind one of its members, with `rest` behind them. -/
def moreMembers (rest : List Lexeme) : List (String × Json) → List Lexeme
  | [] => .closeObject :: rest
  | (k, v) :: ms => .comma :: .string k :: .colon :: lexemes (moreMembers rest ms) v

end

/-- The document in as few characters as possible. -/
def compact (j : Json) : String :=
  String.ofList ((j.lexemes []).flatMap Lexeme.chars)

/-- A new line, indented for the given depth. -/
def newLine (depth : Nat) : List Char := '\n' :: List.replicate (2 * depth) ' '

mutual

/-- The document on several lines, each item and member on a line of its own. -/
def prettyChars (depth : Nat) : Json → List Char
  | array [] => ['[', ']']
  | array (v :: vs) =>
    '[' :: newLine (depth + 1) ++ prettyChars (depth + 1) v ++ prettyItems depth vs
  | object [] => ['\x7b', '\x7d']
  | object ((k, v) :: ms) =>
    '\x7b' :: newLine (depth + 1) ++ stringChars k ++ [':', ' '] ++ prettyChars (depth + 1) v ++
      prettyMembers depth ms
  | null => Lexeme.null.chars
  | bool b => (Lexeme.bool b).chars
  | number text => (Lexeme.number text).chars
  | string text => (Lexeme.string text).chars

/-- The lines of an array behind one of its items. -/
def prettyItems (depth : Nat) : List Json → List Char
  | [] => newLine depth ++ [']']
  | v :: vs =>
    ',' :: newLine (depth + 1) ++ prettyChars (depth + 1) v ++ prettyItems depth vs

/-- The lines of an object behind one of its members. -/
def prettyMembers (depth : Nat) : List (String × Json) → List Char
  | [] => newLine depth ++ ['\x7d']
  | (k, v) :: ms =>
    ',' :: newLine (depth + 1) ++ stringChars k ++ [':', ' '] ++ prettyChars (depth + 1) v ++
      prettyMembers depth ms

end

/-- The document on several lines, indented by two spaces. -/
def pretty (j : Json) : String := String.ofList (j.prettyChars 0)

end FilterQuery.Json
