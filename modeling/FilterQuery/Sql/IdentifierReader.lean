import FilterQuery.Sql.Identifier

/-!
# Reading identifiers

How a database reads a qualified identifier: parts in backticks with a dot between them, where a
doubled backtick inside a part stands for one and a single backtick ends the part.
-/

namespace FilterQuery.Sql

/-- Read a part behind its opening backtick and what was read of it (in reverse), up to and with its
closing backtick. The result is the part and what is left. -/
def readPart (read : List Char) : List Char → Option (List Char × List Char)
  | [] => none
  | c :: cs =>
    if c = '\x60' then
      match cs with
      | d :: ds => if d = '\x60' then readPart ('\x60' :: read) ds else some (read.reverse, cs)
      | [] => some (read.reverse, [])
    else readPart (c :: read) cs

theorem length_of_readPart {read cs part rest : List Char}
    (h : readPart read cs = some (part, rest)) : rest.length < cs.length := by
  fun_induction readPart read cs with
  | case1 => simp at h
  | case2 read ds ih =>
    have := ih h
    simp
    omega
  | case3 read d ds hd => simp_all
  | case4 => simp_all
  | case5 read c cs hc ih =>
    have := ih h
    simp
    omega

/-- Read an identifier: its parts and what is left behind it. -/
def readIdentifier : List Char → Option (List (List Char) × List Char)
  | '\x60' :: cs =>
    match h : readPart [] cs with
    | some (part, '.' :: '\x60' :: rest) =>
      have := length_of_readPart h
      match readIdentifier ('\x60' :: rest) with
      | some (parts, rest) => some (part :: parts, rest)
      | none => none
    | some (part, rest) => some ([part], rest)
    | none => none
  | _ => none
termination_by cs => cs.length
decreasing_by simp_all; omega

end FilterQuery.Sql
