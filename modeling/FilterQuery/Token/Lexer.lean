import FilterQuery.Decimal.Numeral
import FilterQuery.Text.Blank
import FilterQuery.Token.Basic

/-!
# The lexer

A lexer holds what is left of a query and how many characters were read before it. `Lexer.next`
skips blanks and reads one token. It can be called again whatever it answered: after a faulty number
or date the lexer stands behind it, after a faulty escape at the character that cannot be escaped,
after an unfinished string at the end, and a character that starts no token stays where it is.
-/

namespace FilterQuery

/-- What can be wrong with the text of a query. Positions count characters from 0. -/
inductive LexError
  /-- A character that no token starts with. -/
  | unexpectedChar (char : Char) (position : Nat)
  /-- A string without its closing quote; the position is that of the opening quote. -/
  | unterminatedString (position : Nat)
  /-- A backslash in a string before a character that cannot be escaped; the position is that of
  the character. -/
  | invalidEscape (char : Char) (position : Nat)
  /-- A numeral out of range. -/
  | invalidNumber (text : String) (position : Nat)
  /-- A text of the form of a date that names no day. -/
  | invalidDate (text : String) (position : Nat)
deriving DecidableEq, Repr

/-- The message for an error in the text of a query. -/
def LexError.message : LexError → String
  | unexpectedChar c p => s!"unexpected character '{c}' at position {p}"
  | unterminatedString p => s!"unterminated string starting at position {p}"
  | invalidEscape c p => s!"invalid escape sequence '\\{c}' at position {p}"
  | invalidNumber text p => s!"invalid number '{text}' at position {p}"
  | invalidDate text p => s!"invalid date '{text}' at position {p}"

/-- What is left of a query, and the number of characters before it. -/
structure Lexer where
  rest : List Char
  position : Nat
deriving DecidableEq, Repr

namespace Lexer

/-- The lexer at the start of `source`. -/
def ofSource (source : String) : Lexer := ⟨source.toList, 0⟩

/-- Pass over `n` characters. -/
def skip (l : Lexer) (n : Nat) : Lexer :=
  ⟨l.rest.drop n, l.position + n⟩

/-- Pass over blanks. -/
def skipBlanks (l : Lexer) : Lexer :=
  l.skip (l.rest.takeWhile Text.isBlank).length

/-- Whether `c` ends a word: a blank, a quote, a bracket, a parenthesis, a colon or a comma. -/
def isDelimiter (c : Char) : Bool :=
  Text.isBlank c || c == ':' || c == '"' || c == '[' || c == ']' || c == ',' || c == '(' ||
    c == ')'

/-- The punctuation or comparison at the start of a text, with its length. -/
def symbol? : List Char → Option (Token × Nat)
  | '>' :: '=' :: _ => some (.comparison .gtEq, 2)
  | '<' :: '=' :: _ => some (.comparison .ltEq, 2)
  | '!' :: '=' :: _ => some (.comparison .notEq, 2)
  | '>' :: _ => some (.comparison .gt, 1)
  | '<' :: _ => some (.comparison .lt, 1)
  | '=' :: _ => some (.comparison .eq, 1)
  | ':' :: _ => some (.colon, 1)
  | ',' :: _ => some (.comma, 1)
  | '[' :: _ => some (.openBracket, 1)
  | ']' :: _ => some (.closeBracket, 1)
  | _ => none

/-- The token that the word `text` at `position` stands for: a keyword, a boolean, a date, a number,
or the word itself. -/
def classify (text : String) (position : Nat) : Except LexError Token :=
  if text = "AND" then .ok .and
  else if text = "OR" then .ok .or
  else if text = "true" then .ok (.boolean true)
  else if text = "false" then .ok (.boolean false)
  else
    match Date.parts? text.toList with
    | some (year, month, day) =>
      match Date.ofParts? year month day with
      | some d => .ok (.date d)
      | none => .error (.invalidDate text position)
    | none =>
      match Numeral.ofChars? text.toList with
      | some n =>
        match Decimal.ofNumeral? n with
        | some d => .ok (.number d)
        | none => .error (.invalidNumber text position)
      | none => .ok (.word text)

/-- Read the word at the front. -/
def nextWord (l : Lexer) : Except LexError Token × Lexer :=
  let word := l.rest.takeWhile fun c => !isDelimiter c
  (classify (String.ofList word) l.position, l.skip word.length)

/-- How the inside of a string ends. -/
inductive StringEnd
  /-- At a closing quote. -/
  | closed
  /-- At the end of the text. -/
  | unterminated
  /-- Before a character that a backslash cannot escape. -/
  | badEscape (char : Char)
deriving DecidableEq, Repr

/-- Read the inside of a string, of which `read` was read already in reverse: its text, the number
of characters passed over (`count` of them before), and how it ends. A closing quote is passed over,
a character that cannot be escaped is not. -/
def readString (read : List Char) (count : Nat) : List Char → List Char × Nat × StringEnd
  | [] => (read.reverse, count, .unterminated)
  | '"' :: _ => (read.reverse, count + 1, .closed)
  | '\\' :: [] => (read.reverse, count + 1, .unterminated)
  | '\\' :: c :: cs =>
    if c = '"' ∨ c = '\\' then readString (c :: read) (count + 2) cs
    else (read.reverse, count + 1, .badEscape c)
  | c :: cs => readString (c :: read) (count + 1) cs

/-- Read the string whose opening quote is at the front. -/
def nextString (l : Lexer) : Except LexError Token × Lexer :=
  let (text, count, ending) := readString [] 0 (l.rest.drop 1)
  let after := l.skip (1 + count)
  match ending with
  | .closed => (.ok (.string (String.ofList text)), after)
  | .unterminated => (.error (.unterminatedString l.position), after)
  | .badEscape c => (.error (.invalidEscape c after.position), after)

/-- Read the next token, and the lexer behind it. -/
def next (l : Lexer) : Except LexError Token × Lexer :=
  let l := l.skipBlanks
  match l.rest with
  | [] => (.ok .eof, l)
  | c :: cs =>
    match symbol? (c :: cs) with
    | some (t, n) => (.ok t, l.skip n)
    | none =>
      if c = '"' then l.nextString
      else if c = '!' ∨ c = '(' ∨ c = ')' then (.error (.unexpectedChar c l.position), l)
      else l.nextWord

/-! ### Progress

A token other than the end takes at least one character. -/

theorem length_rest_skip (l : Lexer) (n : Nat) :
    (l.skip n).rest.length = l.rest.length - n := by
  simp [skip]

theorem rest_skipBlanks (l : Lexer) :
    l.skipBlanks.rest = l.rest.dropWhile Text.isBlank := by
  have h := List.takeWhile_append_dropWhile (p := Text.isBlank) (l := l.rest)
  calc l.skipBlanks.rest
      = (l.rest.takeWhile Text.isBlank ++ l.rest.dropWhile Text.isBlank).drop
          (l.rest.takeWhile Text.isBlank).length := by rw [h]; rfl
    _ = l.rest.dropWhile Text.isBlank := List.drop_left

/-- What is left after blanks does not start with one. -/
theorem not_isBlank_of_rest_skipBlanks {l : Lexer} {c : Char} {cs : List Char}
    (h : l.skipBlanks.rest = c :: cs) : Text.isBlank c = false := by
  rw [rest_skipBlanks] at h
  have hc := List.head?_dropWhile_not Text.isBlank l.rest
  rw [h] at hc
  simpa using hc

theorem length_rest_skipBlanks_le (l : Lexer) :
    l.skipBlanks.rest.length ≤ l.rest.length := by
  rw [skipBlanks, length_rest_skip]; omega

/-- A punctuation mark or comparison is not the end, and has a length. -/
theorem symbol?_eq_some {cs : List Char} {t : Token} {n : Nat} (h : symbol? cs = some (t, n)) :
    t ≠ .eof ∧ 0 < n := by
  unfold symbol? at h
  split at h <;> simp at h <;> obtain ⟨rfl, rfl⟩ := h <;> simp

/-- A character that starts a word does not end it. -/
theorem not_isDelimiter_of_symbol?_eq_none {c : Char} {cs : List Char}
    (hb : Text.isBlank c = false) (hs : symbol? (c :: cs) = none) (hq : c ≠ '"')
    (hu : ¬ (c = '!' ∨ c = '(' ∨ c = ')')) : isDelimiter c = false := by
  simp only [not_or] at hu
  have h : c ≠ ':' ∧ c ≠ '[' ∧ c ≠ ']' ∧ c ≠ ',' := by
    refine ⟨?_, ?_, ?_, ?_⟩ <;> rintro rfl <;> simp [symbol?] at hs
  simp [isDelimiter, hb, hq, hu, h]

theorem length_rest_next_add_le {l l' : Lexer} {t : Token} (h : l.next = (.ok t, l')) :
    l'.rest.length + (if t = .eof then 0 else 1) ≤ l.rest.length := by
  have hle := length_rest_skipBlanks_le l
  unfold next at h
  generalize hl : l.skipBlanks = m at h hle
  simp only at h
  split at h
  · obtain ⟨rfl, rfl⟩ : Token.eof = t ∧ m = l' := by simpa using h
    simpa using hle
  · next c cs hcs =>
    rw [hcs] at hle
    split at h
    · next t' n hs =>
      obtain ⟨rfl, rfl⟩ : t' = t ∧ m.skip n = l' := by simpa using h
      obtain ⟨ht, hn⟩ := symbol?_eq_some hs
      rw [length_rest_skip, hcs, if_neg ht]
      simp at hle ⊢
      omega
    · next hs =>
      split at h
      · next hq =>
        unfold nextString at h
        simp only at h
        split at h <;> simp at h
        obtain ⟨rfl, rfl⟩ := h
        rw [length_rest_skip, hcs]
        simp at hle ⊢
        omega
      · next hq =>
        split at h
        · simp at h
        · next hu =>
          have hd := not_isDelimiter_of_symbol?_eq_none
            (not_isBlank_of_rest_skipBlanks (hl ▸ hcs)) hs hq hu
          obtain ⟨-, rfl⟩ := Prod.mk.inj h
          rw [length_rest_skip, hcs]
          simp [hd] at hle ⊢
          split <;> omega

/-! ### All tokens -/

/-- The tokens up to the end or the first error, without the one for the end, and that error. -/
def tokens (l : Lexer) : List Token × Option LexError :=
  match h : l.next with
  | (.error e, _) => ([], some e)
  | (.ok t, l') =>
    if ht : t = .eof then ([], none)
    else
      have : l'.rest.length < l.rest.length := by
        have := length_rest_next_add_le h
        rw [if_neg ht] at this
        omega
      let (ts, e) := tokens l'
      (t :: ts, e)
termination_by l.rest.length

end Lexer

end FilterQuery
