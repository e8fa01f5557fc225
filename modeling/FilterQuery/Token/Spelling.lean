import FilterQuery.Decimal.Numeral
import FilterQuery.Text.Blank
import FilterQuery.Token.Basic

/-!
# Spelling of tokens

The reverse of lexing: `Token.spelling` writes a token as it can stand in a query, and
`Token.SpelledAs` a list of tokens with blanks between them. Not every word can be spelled, since
some texts are read as something else; `Token.WellFormed` says which tokens the lexer can give.
-/

namespace FilterQuery

/-- How a character is written inside the quotes of a string. -/
def Token.stringChar (c : Char) : List Char :=
  if c = '"' ∨ c = '\\' then ['\\', c] else [c]

/-- The token as it is written in a query. -/
def Token.spelling : Token → List Char
  | word text => text.toList
  | string text => '"' :: text.toList.flatMap stringChar ++ ['"']
  | number d => d.chars
  | date d => d.chars
  | boolean true => ['t', 'r', 'u', 'e']
  | boolean false => ['f', 'a', 'l', 's', 'e']
  | and => ['A', 'N', 'D']
  | or => ['O', 'R']
  | colon => [':']
  | comma => [',']
  | openBracket => ['[']
  | closeBracket => [']']
  | comparison op => op.symbol.toList
  | eof => []

/-- The form of a number: an optional minus sign, digits, and optionally a point with digits behind
it. -/
def HasNumberForm (cs : List Char) : Prop :=
  ∃ n : Numeral, n.WellFormed ∧ n.chars = cs

/-- The form of a date: four digits, two and two, with a dash before each of the pairs. There need
not be such a day. -/
def HasDateForm (cs : List Char) : Prop :=
  ∃ year month day : List Char, cs = year ++ '-' :: (month ++ '-' :: day) ∧
    year.length = 4 ∧ month.length = 2 ∧ day.length = 2 ∧
    ∀ c ∈ year ++ month ++ day, c.isDigit = true

/-- A text that is read as a word: it is not empty, holds neither a blank nor punctuation, does not
start like a comparison, and is neither a keyword nor a boolean nor of the form of a date or a
number. -/
structure IsWord (text : String) : Prop where
  ne_nil : text.toList ≠ []
  not_isBlank : ∀ c ∈ text.toList, Text.isBlank c = false
  not_punctuation : ∀ c ∈ text.toList, c ∉ [':', '"', '[', ']', ',', '(', ')']
  head_not_comparison : ∀ c ∈ text.toList.head?, c ∉ ['=', '>', '<', '!']
  not_reserved : text ∉ ["AND", "OR", "true", "false"]
  not_date : ¬HasDateForm text.toList
  not_number : ¬HasNumberForm text.toList

/-- Whether a token other than the end can be given by the lexer. -/
def Token.WellFormed : Token → Prop
  | word text => IsWord text
  | eof => False
  | _ => True

/-- `SpelledAs ts cs`: the text `cs` is the spellings of `ts` in order, with at least one blank
between neighbours. -/
inductive Token.SpelledAs : List Token → List Char → Prop
  | nil : SpelledAs [] []
  | single (t : Token) : SpelledAs [t] t.spelling
  | cons {t u : Token} {ts : List Token} {gap cs : List Char} (hne : gap ≠ [])
    (hblank : ∀ c ∈ gap, Text.isBlank c = true) (h : SpelledAs (u :: ts) cs) :
    SpelledAs (t :: u :: ts) (t.spelling ++ (gap ++ cs))

end FilterQuery
