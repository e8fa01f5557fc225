import FilterQuery.Proofs.Lexing.Step
import FilterQuery.Query.Parser

/-!
# The tokens ahead of a parser

A parser holds a lexer and the one token it looks at. What it reads depends on both only through the
tokens that lie ahead (`Parser.ahead`) and the error that ends them, if there is one
(`Parser.fault?`).

Reading is described from both sides. `p.Passes ts n q` says that a reading which has come from `p`
to `q` has passed over `ts` and counted `n` filters; `p.Sees ts us` says that `p` can pass over `ts`
and will then have `us` ahead.
The steps of a parser, `shift` and `expect`, are tied to both, and the proofs about the grammar use
nothing else about lexers.
-/

namespace FilterQuery

namespace Lexer

variable {l l' : Lexer} {t : Token} {e : LexError}

/-! ### Unfolding `tokens` -/

theorem tokens_of_next_error (h : l.next = (.error e, l')) : l.tokens = ([], some e) := by
  rw [tokens]
  split
  · next e' l'' h' => rw [h] at h'; cases h'; rfl
  · next t' l'' h' => rw [h] at h'; cases h'

theorem tokens_of_next_eof (h : l.next = (.ok .eof, l')) : l.tokens = ([], none) := by
  rw [tokens]
  split
  · next e' l'' h' => rw [h] at h'; cases h'
  · next t' l'' h' => rw [h] at h'; cases h'; rfl

theorem tokens_of_next_ok (h : l.next = (.ok t, l')) (ht : t ≠ .eof) :
    l.tokens = (t :: l'.tokens.1, l'.tokens.2) := by
  rw [tokens]
  split
  · next e' l'' h' => rw [h] at h'; cases h'
  · next t' l'' h' => rw [h] at h'; cases h'; rw [dif_neg ht]

/-! ### The end of the text -/

/-- The lexer says that the text has ended only when nothing is left. -/
theorem rest_of_next_eof (h : l.next = (.ok .eof, l')) : l'.rest = [] := by
  obtain ⟨gap, run, hstep⟩ := l.exists_step
  rw [h] at hstep
  obtain ⟨rest, position⟩ := l'
  cases hstep.reads with
  | ending => rfl
  | symbol hs => exact absurd rfl (symbol?_eq_some hs).1
  | word _ _ hword => exact absurd hword (classify_ne_eof _ _)

theorem next_of_rest_eq_nil (h : l.rest = []) : l.next = (.ok .eof, l) := by
  obtain ⟨rest, position⟩ := l
  subst h
  rfl

end Lexer

namespace Parser

/-! ### What lies ahead -/

/-- The tokens from the one that `p` looks at up to the end of the text or the first error. -/
def ahead (p : Parser) : List Token :=
  if p.current = .eof then [] else p.current :: p.lexer.tokens.1

/-- The error behind the tokens ahead. -/
def fault? (p : Parser) : Option LexError :=
  if p.current = .eof then none else p.lexer.tokens.2

/-- A parser that looks at the end of the text has indeed come to it. After an error that need not
be so. -/
def Synced (p : Parser) : Prop := p.current = .eof → p.lexer.rest = []

variable {p q r : Parser} {t : Token} {ts us vs : List Token} {m n : Nat}

theorem ahead_eq_nil_iff : p.ahead = [] ↔ p.current = .eof := by
  unfold ahead
  split <;> simp [*]

theorem current_of_ahead_eq_cons (h : p.ahead = t :: ts) : p.current = t ∧ t ≠ .eof := by
  unfold ahead at h
  split at h
  · cases h
  · next hne =>
    obtain ⟨ht, -⟩ := List.cons.inj h
    exact ⟨ht, ht ▸ hne⟩

/-- After a token the parser has ahead what the lexer had, and the token it looks at tells the
truth. -/
theorem ahead_of_next_ok {l l' : Lexer} (h : l.next = (.ok t, l')) :
    l.tokens = (ahead ⟨l', t, m, n⟩, fault? ⟨l', t, m, n⟩) ∧ Synced ⟨l', t, m, n⟩ := by
  by_cases ht : t = .eof
  · subst ht
    exact ⟨Lexer.tokens_of_next_eof h, fun _ => Lexer.rest_of_next_eof h⟩
  · refine ⟨?_, fun hc => absurd hc ht⟩
    rw [Lexer.tokens_of_next_ok h ht]
    simp [ahead, fault?, ht]

/-! ### Passing over tokens -/

/-- A reading from `p` to `q` that has passed over `ts` and counted `n` filters. -/
structure Passes (p : Parser) (ts : List Token) (n : Nat) (q : Parser) : Prop where
  ahead_eq : p.ahead = ts ++ q.ahead
  fault?_eq : p.fault? = q.fault?
  filters_eq : q.filters = p.filters + n
  maxFilters_eq : q.maxFilters = p.maxFilters
  synced : p.Synced → q.Synced

theorem Passes.refl (p : Parser) : p.Passes [] 0 p := ⟨rfl, rfl, rfl, rfl, id⟩

theorem Passes.trans (hpq : p.Passes ts m q) (hqr : q.Passes us n r) :
    p.Passes (ts ++ us) (m + n) r where
  ahead_eq := by rw [hpq.ahead_eq, hqr.ahead_eq, List.append_assoc]
  fault?_eq := hpq.fault?_eq.trans hqr.fault?_eq
  filters_eq := by rw [hqr.filters_eq, hpq.filters_eq, Nat.add_assoc]
  maxFilters_eq := hqr.maxFilters_eq.trans hpq.maxFilters_eq
  synced h := hqr.synced (hpq.synced h)

/-- To count one more filter is not to pass over anything. -/
theorem Passes.count (h : p.Passes ts n q) :
    p.Passes ts (n + 1) { q with filters := q.filters + 1 } where
  ahead_eq := h.ahead_eq
  fault?_eq := h.fault?_eq
  filters_eq := by simp only [h.filters_eq, Nat.add_assoc]
  maxFilters_eq := h.maxFilters_eq
  synced := h.synced

theorem Passes.filters_le (h : p.Passes ts n q) : p.filters ≤ q.filters := by
  rw [h.filters_eq]
  exact Nat.le_add_right _ _

/-- `p` can pass over `ts`, and will then have `us` ahead: no error lies in between. -/
structure Sees (p : Parser) (ts us : List Token) : Prop where
  ahead_eq : p.ahead = ts ++ us
  clear : us ≠ [] ∨ p.fault? = none

theorem Sees.current (h : p.Sees (t :: ts) us) : p.current = t :=
  (current_of_ahead_eq_cons h.ahead_eq).1

/-- To see more is to see the first part of it. -/
theorem Sees.split (h : p.Sees (ts ++ us) vs) : p.Sees ts (us ++ vs) where
  ahead_eq := by rw [h.ahead_eq, List.append_assoc]
  clear := by
    rcases h.clear with hvs | hf
    · exact .inl (by simp [hvs])
    · exact .inr hf

theorem Passes.ahead_of_sees (h : p.Passes ts n q) (hs : p.Sees ts us) : q.ahead = us :=
  List.append_cancel_left (h.ahead_eq.symm.trans hs.ahead_eq)

/-- What was seen behind the tokens passed over is seen still. -/
theorem Passes.sees (h : p.Passes ts n q) (hs : p.Sees (ts ++ us) vs) : q.Sees us vs where
  ahead_eq := h.ahead_of_sees hs.split
  clear := by rw [← h.fault?_eq]; exact hs.clear

/-! ### Steps -/

theorem Outcome.bind_eq_done_iff {α β : Type} {o : Outcome m α}
    {f : α → (p : Parser) → p.remaining < m → Outcome n β} {b : β} {lt : r.remaining < n} :
    o.bind f = .done b r lt ↔ ∃ a q hq, o = .done a q hq ∧ f a q hq = .done b r lt := by
  cases o with
  | done a q hq =>
    constructor
    · intro h
      exact ⟨a, q, hq, rfl, h⟩
    · rintro ⟨a', q', hq', h, hf⟩
      cases h
      exact hf
  | fail e q => simp [Outcome.bind]

theorem Outcome.result_eq_ok_iff {α : Type} {o : Outcome n α} {a : α} :
    o.result = (.ok a, q) ↔ ∃ lt, o = .done a q lt := by
  cases o with
  | done a' q' lt =>
    constructor
    · intro h
      cases h
      exact ⟨lt, rfl⟩
    · rintro ⟨lt', h⟩
      cases h
      rfl
  | fail e q' => simp [Outcome.result]

theorem remaining_lt_of_next_ok {l : Lexer} (hne : p.current ≠ .eof)
    (hn : p.lexer.next = (.ok t, l)) :
    { p with lexer := l, current := t : Parser }.remaining < p.remaining := by
  have hlength := Lexer.length_rest_next_add_le hn
  simp only [remaining, if_neg hne]
  omega

theorem shift_of_next_ok {fallback : Token} {hne : p.current ≠ .eof} {l : Lexer}
    (hn : p.lexer.next = (.ok t, l)) :
    p.shift fallback hne =
      .done () { p with lexer := l, current := t } (remaining_lt_of_next_ok hne hn) := by
  unfold shift
  split
  · next t' l' hn' => rw [hn] at hn'; cases hn'; rfl
  · next e' l' hn' => rw [hn] at hn'; cases hn'

theorem shift_of_next_error {fallback : Token} {hne : p.current ≠ .eof} {l : Lexer}
    {e : LexError} (hn : p.lexer.next = (.error e, l)) :
    p.shift fallback hne = .fail (.lex e) { p with lexer := l, current := fallback } := by
  unfold shift
  split
  · next t' l' hn' => rw [hn] at hn'; cases hn'
  · next e' l' hn' => rw [hn] at hn'; cases hn'; rfl

theorem expect_of_eq (hc : p.current = t) (ht : t ≠ .eof) :
    p.expect t ht = p.shift p.current (hc ▸ ht) := by
  rw [expect, dif_pos hc]

theorem expect_of_ne (hc : p.current ≠ t) (ht : t ≠ .eof) :
    p.expect t ht = .fail (.unexpectedToken (.token t) p.current) p := by
  rw [expect, dif_neg hc]

variable {fallback : Token} {hne : p.current ≠ .eof}

theorem passes_of_shift_eq_done {lt : q.remaining < p.remaining}
    (h : p.shift fallback hne = .done () q lt) : p.Passes [p.current] 0 q := by
  rcases hn : p.lexer.next with ⟨e | t, l⟩
  · rw [shift_of_next_error hn] at h
    cases h
  · rw [shift_of_next_ok hn] at h
    cases h
    obtain ⟨htokens, hsynced⟩ := ahead_of_next_ok (m := p.maxFilters) (n := p.filters) hn
    refine ⟨?_, ?_, rfl, rfl, fun _ => hsynced⟩
    · rw [ahead, if_neg hne, htokens]; rfl
    · rw [fault?, if_neg hne, htokens]

/-- A step fails if the token was the last before an error. -/
theorem fault?_of_shift_eq_fail {e : ParseError} (h : p.shift fallback hne = .fail e q) :
    ∃ e', e = .lex e' ∧ p.ahead = [p.current] ∧ p.fault? = some e' := by
  rcases hn : p.lexer.next with ⟨e' | t, l⟩
  · rw [shift_of_next_error hn] at h
    cases h
    have htokens := Lexer.tokens_of_next_error hn
    exact ⟨e', rfl, by simp [ahead, hne, htokens], by simp [fault?, hne, htokens]⟩
  · rw [shift_of_next_ok hn] at h
    cases h

theorem shift_of_sees (fallback : Token) (hne : p.current ≠ .eof) (h : p.Sees (t :: ts) us) :
    ∃ q lt, p.shift fallback hne = .done () q lt ∧ p.Passes [t] 0 q := by
  obtain rfl : p.current = t := h.current
  cases hs : p.shift fallback hne with
  | done a q lt => exact ⟨q, lt, rfl, passes_of_shift_eq_done hs⟩
  | fail e q =>
    obtain ⟨e', -, hlast, hfault⟩ := fault?_of_shift_eq_fail hs
    have hnil : ts ++ us = [] := (List.cons.inj (h.ahead_eq.symm.trans hlast)).2
    rcases h.clear with hus | hf
    · exact absurd (List.append_eq_nil_iff.1 hnil).2 hus
    · rw [hf] at hfault; cases hfault

theorem passes_of_expect_eq_done {ht : t ≠ .eof} {lt : q.remaining < p.remaining}
    (h : p.expect t ht = .done () q lt) : p.Passes [t] 0 q := by
  by_cases hc : p.current = t
  · rw [expect_of_eq hc] at h
    exact hc ▸ passes_of_shift_eq_done h
  · rw [expect_of_ne hc] at h
    cases h

theorem expect_of_sees (ht : t ≠ .eof) (h : p.Sees (t :: ts) us) :
    ∃ q lt, p.expect t ht = .done () q lt ∧ p.Passes [t] 0 q := by
  rw [expect_of_eq h.current]
  exact shift_of_sees _ _ h

/-! ### Unfolding the parser -/

section

variable {v : Value} {field : String} {op : Comparison} {bound : Nat} {members : List Value}
  {left : Condition} {lt : p.remaining < bound}

theorem parseValue_of_literal? (h : p.current.literal? = some v) :
    p.parseValue = (p.shift .eof (ne_eof_of_literal? h)).bind fun _ q lt => .done v q lt := by
  rw [parseValue]
  split
  · next w hw =>
    obtain rfl : v = w := Option.some.inj (h.symm.trans hw)
    rfl
  · next hnone => rw [h] at hnone; cases hnone

theorem parseValue_of_openBracket (h : p.current = .openBracket) :
    p.parseValue = (p.shift .eof (by simp [h])).bind fun _ q lt =>
      parseMembers p.remaining [] q lt := by
  rw [parseValue]
  split
  · next w hw => rw [h] at hw; cases hw
  · rw [dif_pos h]

theorem parseValue_of_ne (h : p.current.literal? = none) (hb : p.current ≠ .openBracket) :
    p.parseValue = .fail (.unexpectedToken .value p.current) p := by
  rw [parseValue]
  split
  · next w hw => rw [h] at hw; cases hw
  · rw [dif_neg hb]

/-- At a closing bracket the loop over the members of a list ends. -/
theorem parseMembers_of_closeBracket (hc : p.current = .closeBracket) :
    parseMembers bound members p lt = (p.expect .closeBracket (by simp)).bind fun _ q hq =>
      .done (.list members.reverse) q (Nat.lt_trans hq lt) := by
  rw [parseMembers, if_pos hc]

theorem parseMembers_of_ne (hc : p.current ≠ .closeBracket) :
    parseMembers bound members p lt = p.parseValue.bind fun v q hq =>
      if q.current = .closeBracket then
        parseMembers bound (v :: members) q (Nat.lt_trans hq lt)
      else
        (q.expect .comma (by simp)).bind fun _ r hr =>
          parseMembers bound (v :: members) r (Nat.lt_trans hr (Nat.lt_trans hq lt)) := by
  rw [parseMembers, if_neg hc]

theorem parseComparison_of_comparison (h : p.current = .comparison op) :
    p.parseComparison field = (p.shift p.current (by simp [h])).bind fun _ q hq =>
      (q.parseOperand field op.symbol).bind fun c r hr => .done c r (Nat.lt_trans hr hq) := by
  unfold parseComparison
  split
  · next op' h' =>
    obtain rfl : op = op' := Token.comparison.inj (h.symm.trans h')
    rfl
  · next hne => exact absurd h (hne op)

theorem parseComparison_of_ne (h : ∀ op, p.current ≠ .comparison op) :
    p.parseComparison field = p.parseOperand field defaultOperator := by
  unfold parseComparison
  split
  · next op h' => exact absurd h' (h op)
  · rfl

theorem parseFilter_of_word (h : p.current = .word field) :
    p.parseFilter = (p.shift .eof (by simp [h])).bind fun _ q hq =>
      (q.expect .colon (by simp)).bind fun _ r hr =>
        (r.parseComparison field).bind fun c s hs =>
          .done c s (Nat.lt_trans hs (Nat.lt_trans hr hq)) := by
  unfold parseFilter
  split
  · next field' h' =>
    obtain rfl : field = field' := Token.word.inj (h.symm.trans h')
    rfl
  · next hne => exact absurd h (hne field)

theorem parseFilter_of_ne (h : ∀ text, p.current ≠ .word text) :
    p.parseFilter = .fail (.unexpectedToken .fieldName p.current) p := by
  unfold parseFilter
  split
  · next field h' => exact absurd h' (h field)
  · rfl

theorem parseAndTail_of_and (h : p.current = .and) :
    parseAndTail bound left p lt = (p.shift p.current (by simp [h])).bind fun _ q hq =>
      q.parseFilter.bind fun right r hr =>
        parseAndTail bound (r.join .and left right) r (by omega) := by
  rw [parseAndTail, dif_pos h]

theorem parseAndTail_of_word (h : p.current.isWord) :
    parseAndTail bound left p lt = p.parseFilter.bind fun right r hr =>
      parseAndTail bound (r.join .and left right) r (by omega) := by
  rw [parseAndTail, dif_neg (by intro hc; simp [hc, Token.isWord] at h), if_pos h]

theorem parseAndTail_of_ne (ha : p.current ≠ .and) (hw : p.current.isWord = false) :
    parseAndTail bound left p lt = .done left p lt := by
  rw [parseAndTail, dif_neg ha, if_neg (by simp [hw])]

theorem parseOrTail_of_or (h : p.current = .or) :
    parseOrTail bound left p lt = (p.shift p.current (by simp [h])).bind fun _ q hq =>
      q.parseAnd.bind fun right r hr =>
        parseOrTail bound (r.join .or left right) r (by omega) := by
  rw [parseOrTail, dif_pos h]

theorem parseOrTail_of_ne (h : p.current ≠ .or) :
    parseOrTail bound left p lt = .done left p lt := by
  rw [parseOrTail, dif_neg h]

end

/-! ### The end and the start -/

/-- The end of the text is passed over where nothing lies ahead. -/
theorem expectEnd_of_ahead_eq_nil (h : p.ahead = []) (hp : p.Synced) : p.expectEnd = (.ok (), p) := by
  have hc : p.current = .eof := ahead_eq_nil_iff.1 h
  unfold expectEnd
  rw [if_pos hc, Lexer.next_of_rest_eq_nil (hp hc), ← hc]

theorem ahead_of_expectEnd_eq_ok (h : p.expectEnd = (.ok (), q)) :
    p.ahead = [] ∧ p.fault? = none := by
  unfold expectEnd at h
  split at h
  · next hc => exact ⟨ahead_eq_nil_iff.2 hc, by rw [fault?, if_pos hc]⟩
  · cases (Prod.mk.inj h).1

/-- A parser starts with the tokens of the text ahead. -/
theorem ofSource_eq_ok {source : String} {max : Nat} (h : ofSource source max = .ok p) :
    (Lexer.ofSource source).tokens = (p.ahead, p.fault?) ∧ p.Synced ∧ p.maxFilters = max ∧
      p.filters = 0 := by
  unfold ofSource at h
  split at h
  · next t l hn =>
    cases h
    obtain ⟨htokens, hsynced⟩ := ahead_of_next_ok (m := max) (n := 0) hn
    exact ⟨htokens, hsynced, rfl, rfl⟩
  · cases h

/-- There is no parser for a text that starts with an error. -/
theorem ofSource_eq_error {source : String} {max : Nat} {e : ParseError}
    (h : ofSource source max = .error e) :
    ∃ e', e = .lex e' ∧ (Lexer.ofSource source).tokens = ([], some e') := by
  unfold ofSource at h
  split at h
  · cases h
  · next e' l hn =>
    cases h
    exact ⟨e', rfl, Lexer.tokens_of_next_error hn⟩

end Parser

end FilterQuery
