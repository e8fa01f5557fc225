import FilterQuery.Decimal.Numeral
import FilterQuery.Sql.Literal

/-!
# Reading literals

How a database reads a literal: a text between single quotes, which ends at the first quote without
a backslash before it, a numeral, a boolean, or a list in parentheses. A date has no literal of its
own and is read as the text that it is written as.
-/

namespace FilterQuery.Sql

/-- The character that a character behind a backslash stands for. -/
def unescape? : Char → Option Char
  | '0' => some '\x00'
  | 'b' => some '\x08'
  | 't' => some '\t'
  | 'n' => some '\n'
  | 'r' => some '\r'
  | 'Z' => some '\x1a'
  | '"' => some '"'
  | '\x27' => some '\x27'
  | '\\' => some '\\'
  | _ => none

/-- Read a text behind its opening quote and what was read of it (in reverse), up to and with its
closing quote. The result is the text and what is left. -/
def readText (read : List Char) : List Char → Option (List Char × List Char)
  | [] => none
  | '\x27' :: cs => some (read.reverse, cs)
  | '\\' :: c :: cs =>
    match unescape? c with
    | some x => readText (x :: read) cs
    | none => none
  | c :: cs => readText (c :: read) cs

/-- Read the digits of a numeral and, behind a point, those of its fraction. -/
def readDigits (negative : Bool) (cs : List Char) : Option (Decimal × List Char) :=
  let whole := cs.takeWhile Char.isDigit
  let (fraction, rest) := match cs.dropWhile Char.isDigit with
    | '.' :: ds => (ds.takeWhile Char.isDigit, ds.dropWhile Char.isDigit)
    | rest => ([], rest)
  if whole = [] then none
  else (Decimal.ofNumeral? ⟨negative, whole, fraction⟩).map fun d => (d, rest)

/-- Read a literal that is not a list. -/
def readScalar : List Char → Option (Value × List Char)
  | '\x27' :: cs => (readText [] cs).map fun (text, rest) => (.string (String.ofList text), rest)
  | 't' :: 'r' :: 'u' :: 'e' :: cs => some (.boolean true, cs)
  | 'f' :: 'a' :: 'l' :: 's' :: 'e' :: cs => some (.boolean false, cs)
  | '-' :: cs => (readDigits true cs).map fun (d, rest) => (.number d, rest)
  | cs => (readDigits false cs).map fun (d, rest) => (.number d, rest)

theorem length_of_readText {read cs text rest : List Char}
    (h : readText read cs = some (text, rest)) : rest.length < cs.length := by
  fun_induction readText read cs with
  | case1 => simp at h
  | case2 read cs => simp_all
  | case3 read c cs x hx ih =>
    have := ih h
    simp
    omega
  | case4 => simp at h
  | case5 read c cs _ _ ih =>
    have := ih h
    simp
    omega

theorem length_of_readDigits {negative : Bool} {cs rest : List Char} {d : Decimal}
    (h : readDigits negative cs = some (d, rest)) : rest.length < cs.length := by
  have hle := List.takeWhile_append_dropWhile (p := Char.isDigit) (l := cs)
  have hlen := congrArg List.length hle
  unfold readDigits at h
  simp only at h
  split at h
  · simp at h
  · next hw =>
    have hpos : 0 < (cs.takeWhile Char.isDigit).length := List.length_pos_iff.2 hw
    obtain ⟨a, -, ha⟩ := Option.map_eq_some_iff.1 h
    obtain ⟨-, rfl⟩ := Prod.mk.inj ha
    rw [List.length_append] at hlen
    split
    · next ds hd =>
      have := (List.dropWhile_sublist Char.isDigit (l := ds)).length_le
      rw [hd, List.length_cons] at hlen
      simp only
      omega
    · next hd =>
      simp only
      omega

theorem length_of_readScalar {cs rest : List Char} {v : Value}
    (h : readScalar cs = some (v, rest)) : rest.length < cs.length := by
  unfold readScalar at h
  split at h
  · obtain ⟨⟨text, r⟩, ht, he⟩ := Option.map_eq_some_iff.1 h
    obtain ⟨-, rfl⟩ := Prod.mk.inj he
    have := length_of_readText ht
    simp
    omega
  · obtain ⟨-, rfl⟩ := Prod.mk.inj (Option.some.inj h)
    simp
    omega
  · obtain ⟨-, rfl⟩ := Prod.mk.inj (Option.some.inj h)
    simp
    omega
  · obtain ⟨⟨d, r⟩, hd, he⟩ := Option.map_eq_some_iff.1 h
    obtain ⟨-, rfl⟩ := Prod.mk.inj he
    have := length_of_readDigits hd
    simp
    omega
  · obtain ⟨⟨d, r⟩, hd, he⟩ := Option.map_eq_some_iff.1 h
    obtain ⟨-, rfl⟩ := Prod.mk.inj he
    exact length_of_readDigits hd

mutual

/-- Read a literal inside the open lists of `stack`, of which each has its members so far in
reverse, up to the end of the outermost. -/
def readLiteralIn (stack : List (List Value)) (cs : List Char) : Option (Value × List Char) :=
  match cs with
  | '(' :: ')' :: rest => readAfter stack (.list []) rest
  | '(' :: rest => readLiteralIn ([] :: stack) rest
  | cs =>
    match h : readScalar cs with
    | some (v, rest) =>
      have := length_of_readScalar h
      readAfter stack v rest
    | none => none
termination_by (cs.length, 1)

/-- Go on behind the literal of `v`. -/
def readAfter (stack : List (List Value)) (v : Value) (cs : List Char) :
    Option (Value × List Char) :=
  match stack with
  | [] => some (v, cs)
  | members :: stack =>
    match cs with
    | ')' :: rest => readAfter stack (.list (v :: members).reverse) rest
    | ',' :: ' ' :: rest => readLiteralIn ((v :: members) :: stack) rest
    | _ => none
termination_by (cs.length, 0)

end

/-- Read a literal: its value and what is left behind it. -/
def readLiteral (cs : List Char) : Option (Value × List Char) := readLiteralIn [] cs

end FilterQuery.Sql
