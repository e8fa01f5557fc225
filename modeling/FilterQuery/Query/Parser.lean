import FilterQuery.Query.Basic
import FilterQuery.Token.Lexer

/-!
# Reading a query

A parser looks one token ahead. It reads

    query  := (nothing) | or
    or     := and (OR and)*
    and    := filter ([AND] filter)*
    filter := word ':' [comparison] value
    value  := word | string | number | date | boolean | '[' [value (',' value)* [',']] ']'

and builds conditions that nest to the left. A parser with a limit stops joining conditions once it
has read more filters than allowed, but goes on reading and counting, so that an error further on is
still found.

A parser can be asked again after it has answered. It goes on at its current token; a word that
started a filter, or a token that started a value, is not seen again.
-/

namespace FilterQuery

/-- What the grammar asks for at some place of a query. -/
inductive Expected
  | fieldName
  | value
  | token (t : Token)
deriving DecidableEq

/-- What is expected, as messages name it. -/
def Expected.name : Expected → String
  | fieldName => "field name"
  | value => "value"
  | token t => t.kindName

/-- Why a query cannot be read. -/
inductive ParseError
  | lex (error : LexError)
  | unexpectedToken (expected : Expected) (found : Token)
  | tooManyFilters (observed max : Nat)
deriving DecidableEq

/-- The message for a query that cannot be read. -/
def ParseError.message : ParseError → String
  | lex e => e.message
  | unexpectedToken expected found => s!"expected {expected.name}, got {found.shown}"
  | tooManyFilters observed max =>
    s!"too many filters specified, max: {max} received: {observed}"

/-- The value that a token stands for on its own. -/
def Token.literal? : Token → Option Value
  | word s | string s => some (.string s)
  | number n => some (.number n)
  | boolean b => some (.boolean b)
  | date d => some (.date d)
  | _ => none

/-- Whether a token is a word. -/
def Token.isWord : Token → Bool
  | word _ => true
  | _ => false

/-- A reader of queries: the text left to be read, the token it looks at, the number of filters
allowed (0 for no limit), and the number of filters read so far. -/
structure Parser where
  lexer : Lexer
  current : Token
  maxFilters : Nat
  filters : Nat
deriving DecidableEq

namespace Parser

/-- The number of tokens left, at most: a character for each, and the current one. -/
def remaining (p : Parser) : Nat :=
  p.lexer.rest.length + (if p.current = .eof then 0 else 1)

/-- What comes of reading a part of a query: a value and a parser with fewer than `bound` tokens
left, or an error and the parser as it is left behind. -/
inductive Outcome (bound : Nat) (α : Type)
  | done (value : α) (parser : Parser) (lt : parser.remaining < bound)
  | fail (error : ParseError) (parser : Parser)

namespace Outcome

variable {m n : Nat} {α β : Type}

/-- Go on with what was read. -/
@[inline] def bind (o : Outcome m α)
    (f : α → (p : Parser) → p.remaining < m → Outcome n β) : Outcome n β :=
  match o with
  | done a p lt => f a p lt
  | fail e p => fail e p

/-- The value or error, and the parser, without the bound. -/
def result : Outcome n α → Except ParseError α × Parser
  | done a p _ => (.ok a, p)
  | fail e p => (.error e, p)

end Outcome

/-- Read the next token. On an error the current token becomes `fallback`. -/
def shift (p : Parser) (fallback : Token) (h : p.current ≠ .eof) : Outcome p.remaining Unit :=
  match hn : p.lexer.next with
  | (.ok t, l) => .done () { p with lexer := l, current := t } (by
      have := Lexer.length_rest_next_add_le hn
      simp only [remaining, if_neg h]
      omega)
  | (.error e, l) => .fail (.lex e) { p with lexer := l, current := fallback }

/-- Pass over the token `t`, which is not the end of the query. -/
def expect (p : Parser) (t : Token) (h : t ≠ .eof) : Outcome p.remaining Unit :=
  if hc : p.current = t then p.shift p.current (hc ▸ h)
  else .fail (.unexpectedToken (.token t) p.current) p

/-- Pass over the end of the query. -/
def expectEnd (p : Parser) : Except ParseError Unit × Parser :=
  if p.current = .eof then
    match p.lexer.next with
    | (.ok t, l) => (.ok (), { p with lexer := l, current := t })
    | (.error e, l) => (.error (.lex e), { p with lexer := l })
  else
    (.error (.unexpectedToken (.token .eof) p.current), p)

theorem ne_eof_of_literal? {t : Token} {v : Value} (h : t.literal? = some v) : t ≠ .eof := by
  rintro rfl; simp [Token.literal?] at h

mutual

/-- Read a value. -/
def parseValue (p : Parser) : Outcome p.remaining Value :=
  match h : p.current.literal? with
  | some v => (p.shift .eof (ne_eof_of_literal? h)).bind fun _ q lt => .done v q lt
  | none =>
    if hb : p.current = .openBracket then
      (p.shift .eof (by simp [hb])).bind fun _ q lt => parseMembers p.remaining [] q lt
    else
      .fail (.unexpectedToken .value p.current) p
termination_by (p.remaining, 0)

/-- Read the members of a list behind those read already (in reverse), and its closing bracket. -/
def parseMembers (bound : Nat) (members : List Value) (p : Parser) (lt : p.remaining < bound) :
    Outcome bound Value :=
  if p.current = .closeBracket then
    (p.expect .closeBracket (by simp)).bind fun _ q hq =>
      .done (.list members.reverse) q (Nat.lt_trans hq lt)
  else
    (parseValue p).bind fun v q hq =>
      if q.current = .closeBracket then
        parseMembers bound (v :: members) q (Nat.lt_trans hq lt)
      else
        (q.expect .comma (by simp)).bind fun _ r hr =>
          parseMembers bound (v :: members) r (Nat.lt_trans hr (Nat.lt_trans hq lt))
termination_by (p.remaining, 1)

end

/-- Read the value of a filter and count the filter. -/
def parseOperand (field operator : String) (p : Parser) : Outcome p.remaining Condition :=
  p.parseValue.bind fun v q lt =>
    .done (.filter ⟨field, operator, v⟩) { q with filters := q.filters + 1 } lt

/-- Read what stands behind the colon of a filter: a value, perhaps with a comparison before it. -/
def parseComparison (field : String) (p : Parser) : Outcome p.remaining Condition :=
  match h : p.current with
  | .comparison op =>
    (p.shift p.current (by simp [h])).bind fun _ q hq =>
    (q.parseOperand field op.symbol).bind fun c r hr => .done c r (Nat.lt_trans hr hq)
  | _ => p.parseOperand field defaultOperator

/-- Read a filter. -/
def parseFilter (p : Parser) : Outcome p.remaining Condition :=
  match h : p.current with
  | .word field =>
    (p.shift .eof (by simp [h])).bind fun _ q hq =>
    (q.expect .colon (by simp)).bind fun _ r hr =>
    (r.parseComparison field).bind fun c s hs => .done c s (Nat.lt_trans hs (Nat.lt_trans hr hq))
  | t => .fail (.unexpectedToken .fieldName t) p

/-- Whether more filters were read than allowed. -/
def overLimit (p : Parser) : Bool :=
  p.maxFilters != 0 && p.filters > p.maxFilters

/-- Join two conditions, or keep the first alone once more filters were read than allowed. -/
def join (p : Parser) (f : Condition → Condition → Condition) (left right : Condition) :
    Condition :=
  if p.overLimit then left else f left right

/-- Read the filters that follow `left` up to the next `OR`, with or without `AND` between them. -/
def parseAndTail (bound : Nat) (left : Condition) (p : Parser) (lt : p.remaining < bound) :
    Outcome bound Condition :=
  if ha : p.current = .and then
    (p.shift p.current (by simp [ha])).bind fun _ q hq =>
      q.parseFilter.bind fun right r hr =>
        parseAndTail bound (r.join .and left right) r (by omega)
  else if p.current.isWord then
    p.parseFilter.bind fun right r hr =>
      parseAndTail bound (r.join .and left right) r (by omega)
  else
    .done left p lt
termination_by p.remaining

/-- Read filters of which all must hold. -/
def parseAnd (p : Parser) : Outcome p.remaining Condition :=
  p.parseFilter.bind fun left q hq => q.parseAndTail p.remaining left hq

/-- Read the alternatives that follow `left`. -/
def parseOrTail (bound : Nat) (left : Condition) (p : Parser) (lt : p.remaining < bound) :
    Outcome bound Condition :=
  if ho : p.current = .or then
    (p.shift p.current (by simp [ho])).bind fun _ q hq =>
      q.parseAnd.bind fun right r hr =>
        parseOrTail bound (r.join .or left right) r (by omega)
  else
    .done left p lt
termination_by p.remaining

/-- Read alternatives of which at least one must hold. -/
def parseOr (p : Parser) : Outcome p.remaining Condition :=
  p.parseAnd.bind fun left q hq => q.parseOrTail p.remaining left hq

/-- Read a whole query, and check the number of its filters. -/
def parse (p : Parser) : Except ParseError Query × Parser :=
  if p.current = .eof then
    (.ok none, p)
  else
    match p.parseOr.result with
    | (.error e, q) => (.error e, q)
    | (.ok c, q) =>
      match q.expectEnd with
      | (.error e, r) => (.error e, r)
      | (.ok (), r) =>
        if r.overLimit then (.error (.tooManyFilters r.filters r.maxFilters), r)
        else (.ok (some c), r)

/-- The parser at the start of `source`, which allows `maxFilters` filters (0 for no limit). It
looks at the first token, so that there must be one. -/
def ofSource (source : String) (maxFilters : Nat) : Except ParseError Parser :=
  match (Lexer.ofSource source).next with
  | (.ok t, l) => .ok { lexer := l, current := t, maxFilters, filters := 0 }
  | (.error e, _) => .error (.lex e)

end Parser

/-- The query written as `source`, with at most `maxFilters` filters (0 for no limit). -/
def parseQuery (source : String) (maxFilters : Nat) : Except ParseError Query := do
  let p ← Parser.ofSource source maxFilters
  p.parse.1

end FilterQuery
