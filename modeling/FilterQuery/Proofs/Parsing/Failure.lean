import FilterQuery.Proofs.Lexing.Spelling
import FilterQuery.Proofs.Parsing.FirstTokens
import FilterQuery.Proofs.Parsing.Limit

/-!
# Where parsing fails

A text that is no query ceases to be the beginning of one at some token, unless an error of the
lexer comes first. Parsing fails right there: no token is passed over behind which the text could
not go on to be a query, and no error of the lexer hides a token before it that is wrong already.

Let `L` be the language of what may lie ahead of a parser, up to and with the end of the text.
`p.FailsIn L e` says that the error `e` marks the place where what lies ahead of `p` leaves the
texts of `L`. Each part of the parser reads its own part of `L` and hands the rest on: if
`o.Explains p L K` for the outcome `o` of a reading from `p`, then it either fails as `L` demands,
or comes to a parser where a failure for the rest `K` is one for `L` as well.
-/

namespace FilterQuery

open Grammar

/-! ### Beginnings -/

/-- Some text of `L` starts with `ts`. -/
def Grammar.Viable (L : Language Token) (ts : List Token) : Prop := ∃ us, ts ++ us ∈ L

namespace Parser

variable {p q : Parser} {K L M : Language Token} {t found : Token} {before ts : List Token}
  {e : ParseError} {m n : Nat} {α β : Type}

/-- Behind the tokens `before` the parser finds `found`: a token, or the end of the text. -/
inductive Meets (p : Parser) (before : List Token) : Token → Prop
  | token {found : Token} {rest : List Token} (h : p.ahead = before ++ found :: rest) :
    Meets p before found
  | ending (h : p.ahead = before) (hfault : p.fault? = none) : Meets p before .eof

theorem meets_current (p : Parser) : p.Meets [] p.current := by
  by_cases hc : p.current = .eof
  · rw [hc]
    exact .ending (ahead_eq_nil_iff.2 hc) (by rw [fault?, if_pos hc])
  · exact .token (by rw [ahead, if_neg hc, List.nil_append])

/-- What is found first is the current token. -/
theorem Meets.exists_eq_cons (h : p.Meets before found) :
    ∃ ts, before ++ [found] = p.current :: ts := by
  cases h with
  | @token _ rest h =>
    cases before with
    | nil => exact ⟨[], by rw [(current_of_ahead_eq_cons h).1, List.nil_append]⟩
    | cons t ts => exact ⟨ts ++ [found], by rw [(current_of_ahead_eq_cons h).1, List.cons_append]⟩
  | ending h =>
    cases before with
    | nil => exact ⟨[], by rw [ahead_eq_nil_iff.1 h, List.nil_append]⟩
    | cons t ts => exact ⟨ts ++ [.eof], by rw [(current_of_ahead_eq_cons h).1, List.cons_append]⟩

theorem Passes.meets (h : p.Passes ts n q) (hq : q.Meets before found) :
    p.Meets (ts ++ before) found := by
  cases hq with
  | token hq => exact .token (by rw [h.ahead_eq, hq, List.append_assoc])
  | ending hq hfault => exact .ending (by rw [h.ahead_eq, hq]) (h.fault?_eq.trans hfault)

/-- The error `e` marks the place where what lies ahead of `p` leaves `L`: all tokens up to the
error of the lexer, or up to the token that is not expected, are the beginning of a text of `L`, and
with that token they are not. -/
inductive FailsIn (L : Language Token) (p : Parser) : ParseError → Prop
  | lex {e : LexError} (hfault : p.fault? = some e) (hviable : Viable L p.ahead) :
    FailsIn L p (.lex e)
  | unexpectedToken {expected : Expected} {found : Token} {before : List Token}
    (hmeets : p.Meets before found) (hviable : Viable L before)
    (hdead : ¬Viable L (before ++ [found])) : FailsIn L p (.unexpectedToken expected found)

/-- The current token is wrong if no text of `L` starts with it. -/
theorem failsIn_current {expected : Expected} (hL : ∃ w, w ∈ L)
    (hdead : ∀ us, p.current :: us ∉ L) :
    p.FailsIn L (.unexpectedToken expected p.current) := by
  refine .unexpectedToken p.meets_current hL ?_
  rintro ⟨us, hus⟩
  exact hdead us hus

/-- A failure behind a token that was passed over. -/
theorem FailsIn.of_passes (h : p.Passes [t] n q) (hnext : ∀ us, t :: us ∈ L ↔ us ∈ K)
    (hq : q.FailsIn K e) : p.FailsIn L e := by
  have hviable : ∀ ts, Viable L ([t] ++ ts) ↔ Viable K ts :=
    fun ts => exists_congr fun us => hnext (ts ++ us)
  cases hq with
  | lex hfault hahead =>
    refine .lex (h.fault?_eq.trans hfault) ?_
    rw [h.ahead_eq]
    exact (hviable _).2 hahead
  | unexpectedToken hmeets hbefore hdead =>
    refine .unexpectedToken (h.meets hmeets) ((hviable _).2 hbefore) ?_
    rw [List.append_assoc, hviable]
    exact hdead

/-- Whether `L` is left depends only on those of its texts that start with the current token. -/
theorem FailsIn.congr (h : p.FailsIn M e) (hL : ∃ w, w ∈ L)
    (hcurrent : ∀ us, p.current :: us ∈ L ↔ p.current :: us ∈ M) : p.FailsIn L e := by
  have hviable : ∀ ts, Viable L (p.current :: ts) ↔ Viable M (p.current :: ts) :=
    fun ts => exists_congr fun us => hcurrent (ts ++ us)
  cases h with
  | lex hfault hahead =>
    refine .lex hfault ?_
    have hne : p.current ≠ .eof := by
      intro hc
      rw [fault?, if_pos hc] at hfault
      cases hfault
    rw [ahead, if_neg hne] at hahead ⊢
    exact (hviable _).2 hahead
  | @unexpectedToken _ found before hmeets hbefore hdead =>
    obtain ⟨ts, hts⟩ := hmeets.exists_eq_cons
    refine .unexpectedToken hmeets ?_ (by rwa [hts, hviable, ← hts])
    cases before with
    | nil => exact hL
    | cons t us =>
      obtain rfl : t = p.current := (List.cons.inj hts).1
      exact (hviable us).2 hbefore

/-! ### Readings -/

/-- A reading from `p`, where a text of `L` is to lie ahead, and then one of `K` if it succeeds: it
fails in `L`, or goes on to where a failure in `K` is one in `L`. -/
def Outcome.Explains (p : Parser) (L K : Language Token) : Outcome n α → Prop
  | .done _ q _ => ∀ e, q.FailsIn K e → p.FailsIn L e
  | .fail e _ => p.FailsIn L e

theorem Outcome.Explains.bind {o : Outcome m α}
    {f : α → (q : Parser) → q.remaining < m → Outcome n β} (h : o.Explains p L K)
    (hf : ∀ a q lt, (f a q lt).Explains q K M) : (o.bind f).Explains p L M := by
  cases o with
  | fail e q => exact h
  | done a q lt =>
    have hrest := hf a q lt
    show (f a q lt).Explains p L M
    cases hfa : f a q lt with
    | fail e r =>
      rw [hfa] at hrest
      exact h e hrest
    | done b r lt' =>
      rw [hfa] at hrest
      exact fun e he => h e (hrest e he)

/-- A reading is looked at through the texts that start with the current token. -/
theorem Outcome.Explains.congr {o : Outcome n α} (h : o.Explains p M K) (hL : ∃ w, w ∈ L)
    (hcurrent : ∀ us, p.current :: us ∈ L ↔ p.current :: us ∈ M) : o.Explains p L K := by
  cases o with
  | fail e q => exact FailsIn.congr h hL hcurrent
  | done a q lt => exact fun e he => (h e he).congr hL hcurrent

theorem explains_done {a : α} {lt : p.remaining < n} :
    (Outcome.done a p lt).Explains p K K :=
  fun _ he => he

theorem shift_explains {fallback : Token} (hne : p.current ≠ .eof)
    (hnext : ∀ us, p.current :: us ∈ L ↔ us ∈ K) (hK : ∃ w, w ∈ K) :
    (p.shift fallback hne).Explains p L K := by
  cases hs : p.shift fallback hne with
  | done a q lt => exact fun e he => he.of_passes (passes_of_shift_eq_done hs) hnext
  | fail e q =>
    obtain ⟨e', rfl, hahead, hfault⟩ := fault?_of_shift_eq_fail hs
    obtain ⟨w, hw⟩ := hK
    refine .lex hfault ⟨w, ?_⟩
    rw [hahead]
    exact (hnext w).2 hw

/-- What is expected is the only token that texts of `L` start with, unless the parser has seen that
it is not at one of the others. -/
theorem expect_explains (ht : t ≠ .eof) (hnext : ∀ us, t :: us ∈ L ↔ us ∈ K) (hK : ∃ w, w ∈ K)
    (hdead : p.current ≠ t → ∀ us, p.current :: us ∉ L) : (p.expect t ht).Explains p L K := by
  by_cases hc : p.current = t
  · rw [expect_of_eq hc]
    exact shift_explains _ (by rwa [hc]) hK
  · rw [expect_of_ne hc]
    obtain ⟨w, hw⟩ := hK
    exact failsIn_current ⟨t :: w, (hnext w).2 hw⟩ (hdead hc)

/-! ### Values -/

mutual

theorem parseValue_explains {K : Language Token} (p : Parser) (hK : ∃ w, w ∈ K) :
    p.parseValue.Explains p (valueTexts * K) K := by
  cases hl : p.current.literal? with
  | some v =>
    rw [parseValue_of_literal? hl]
    have hnext : ∀ us, p.current :: us ∈ valueTexts * K ↔ us ∈ K := by
      intro us
      have hne : p.current ≠ .openBracket := by
        intro hc
        rw [hc] at hl
        cases hl
      simp [cons_mem_valueTexts_mul, hl, hne]
    exact (shift_explains _ hnext hK).bind fun _ _ _ => explains_done
  | none =>
    by_cases hb : p.current = .openBracket
    · rw [parseValue_of_openBracket hb]
      have hnext : ∀ us, p.current :: us ∈ valueTexts * K ↔ us ∈ memberTexts * K := by
        intro us
        simp [cons_mem_valueTexts_mul, hb, Token.literal?]
      exact (shift_explains _ hnext (exists_mem_mul exists_mem_memberTexts hK)).bind
        fun _ q lt => parseMembers_explains [] q lt hK
    · rw [parseValue_of_ne hl hb]
      refine failsIn_current (exists_mem_mul exists_mem_valueTexts hK) fun us => ?_
      simp [cons_mem_valueTexts_mul, hl, hb]
termination_by (p.remaining, 0)

theorem parseMembers_explains {K : Language Token} {bound : Nat} (read : List Value) (p : Parser)
    (lt : p.remaining < bound) (hK : ∃ w, w ∈ K) :
    (parseMembers bound read p lt).Explains p (memberTexts * K) K := by
  by_cases hc : p.current = .closeBracket
  · rw [parseMembers_of_closeBracket hc]
    have hnext : ∀ us, .closeBracket :: us ∈ memberTexts * K ↔ us ∈ K := by
      intro us
      simp [cons_mem_memberTexts_mul, cons_mem_valueTexts_mul, Token.literal?]
    exact (expect_explains _ hnext hK (absurd hc)).bind fun _ _ _ => explains_done
  · rw [parseMembers_of_ne hc]
    have hends : ∃ w, w ∈ memberEndTexts * K := exists_mem_mul exists_mem_memberEndTexts hK
    have hmembers : ∃ w, w ∈ memberTexts * K := exists_mem_mul exists_mem_memberTexts hK
    have hcurrent : ∀ us, p.current :: us ∈ memberTexts * K ↔
        p.current :: us ∈ valueTexts * (memberEndTexts * K) := by
      intro us
      simp [cons_mem_memberTexts_mul, hc]
    apply ((parseValue_explains p hends).congr hmembers hcurrent).bind
    intro v q hq
    -- Behind a member only the closing bracket and a comma are looked for.
    by_cases hqc : q.current = .closeBracket
    · rw [if_pos hqc, parseMembers_of_closeBracket hqc]
      have hnext : ∀ us, .closeBracket :: us ∈ memberEndTexts * K ↔ us ∈ K := by
        intro us
        simp [cons_mem_memberEndTexts_mul]
      exact (expect_explains _ hnext hK (absurd hqc)).bind fun _ _ _ => explains_done
    · rw [if_neg hqc]
      have hnext : ∀ us, .comma :: us ∈ memberEndTexts * K ↔ us ∈ memberTexts * K := by
        intro us
        simp [cons_mem_memberEndTexts_mul]
      have hdead : q.current ≠ .comma → ∀ us, q.current :: us ∉ memberEndTexts * K := by
        intro hcomma us
        simp [cons_mem_memberEndTexts_mul, hqc, hcomma]
      exact (expect_explains _ hnext hmembers hdead).bind fun _ r hr =>
        parseMembers_explains (v :: read) r _ hK
termination_by (p.remaining, 1)

end

/-! ### Filters -/

theorem parseOperand_explains (field operator : String) (p : Parser) (hK : ∃ w, w ∈ K) :
    (p.parseOperand field operator).Explains p (valueTexts * K) K := by
  rw [parseOperand]
  apply (parseValue_explains p hK).bind
  intro v q hq e he
  -- Neither the tokens ahead nor the error behind them depend on the count.
  cases he with
  | lex hfault hviable => exact .lex hfault hviable
  | unexpectedToken hmeets hviable hdead =>
    exact .unexpectedToken ((Passes.refl q).count.meets hmeets) hviable hdead

theorem parseComparison_explains (field : String) (p : Parser) (hK : ∃ w, w ∈ K) :
    (p.parseComparison field).Explains p (operandTexts * K) K := by
  have hvalues : ∃ w, w ∈ valueTexts * K := exists_mem_mul exists_mem_valueTexts hK
  by_cases hop : ∃ op, p.current = .comparison op
  · have hnext : ∀ us, p.current :: us ∈ operandTexts * K ↔ us ∈ valueTexts * K := by
      obtain ⟨op, hop⟩ := hop
      intro us
      simp [cons_mem_operandTexts_mul, cons_mem_valueTexts_mul, hop, Token.literal?]
    obtain ⟨op, hop⟩ := hop
    rw [parseComparison_of_comparison hop]
    exact (shift_explains _ hnext hvalues).bind fun _ q _ =>
      (parseOperand_explains field _ q hK).bind fun _ _ _ => explains_done
  · rw [parseComparison_of_ne (not_exists.1 hop)]
    apply (parseOperand_explains field _ p hK).congr (exists_mem_mul exists_mem_operandTexts hK)
    intro us
    simp [cons_mem_operandTexts_mul, hop]

theorem parseFilter_explains (p : Parser) (hK : ∃ w, w ∈ K) :
    p.parseFilter.Explains p (filterTexts * K) K := by
  have hoperands : ∃ w, w ∈ operandTexts * K := exists_mem_mul exists_mem_operandTexts hK
  by_cases hw : ∃ field, p.current = .word field
  · have hword : ∀ us, p.current :: us ∈ filterTexts * K ↔
        us ∈ oneOf (· = .colon) * (operandTexts * K) := by
      intro us
      simp [cons_mem_filterTexts_mul, hw]
    have hcolon : ∀ us, .colon :: us ∈ oneOf (· = .colon) * (operandTexts * K) ↔
        us ∈ operandTexts * K := by
      intro us
      simp [cons_mem_oneOf_mul]
    obtain ⟨field, hw⟩ := hw
    rw [parseFilter_of_word hw]
    apply (shift_explains _ hword (exists_mem_mul ⟨_, _, rfl, rfl⟩ hoperands)).bind
    intro _ q _
    apply (expect_explains _ hcolon hoperands ?_).bind
    · intro _ r _
      exact (parseComparison_explains field r hK).bind fun _ _ _ => explains_done
    · intro hne us
      simp [cons_mem_oneOf_mul, hne]
  · rw [parseFilter_of_ne (not_exists.1 hw)]
    refine failsIn_current (exists_mem_mul exists_mem_filterTexts hK) fun us => ?_
    simp [cons_mem_filterTexts_mul, hw]

/-! ### Conditions -/

/-- Where a text that stops a conjunction may lie ahead, there is no telling it from one more filter
but by the current token. -/
theorem parseAndTail_explains {bound : Nat} {left : Condition} (p : Parser)
    (hK : ∃ w, w ∈ K) (hstops : ∀ w ∈ K, AndTree.Stops w) (lt : p.remaining < bound) :
    (parseAndTail bound left p lt).Explains p (andTailTexts * K) K := by
  have hmore : ∃ w, w ∈ andTailTexts * K := exists_mem_mul exists_mem_andTailTexts hK
  have hand : ∀ us, .and :: us ∉ K := fun us h => (hstops _ h .and rfl).1 rfl
  have hword : ∀ text us, .word text :: us ∉ K :=
    fun text us h => (hstops _ h (.word text) rfl).2 text rfl
  by_cases ha : p.current = .and
  · rw [parseAndTail_of_and ha]
    have hnext : ∀ us, p.current :: us ∈ andTailTexts * K ↔
        us ∈ filterTexts * (andTailTexts * K) := by
      intro us
      simp [cons_mem_andTailTexts_mul, cons_mem_filterTexts_mul, ha, hand]
    apply (shift_explains _ hnext (exists_mem_mul exists_mem_filterTexts hmore)).bind
    intro _ q hq
    apply (parseFilter_explains q hmore).bind
    intro right r hr
    exact parseAndTail_explains r hK hstops _
  · cases hw : p.current.isWord with
    | true =>
      rw [parseAndTail_of_word hw]
      have hcurrent : ∀ us, p.current :: us ∈ andTailTexts * K ↔
          p.current :: us ∈ filterTexts * (andTailTexts * K) := by
        intro us
        cases hc : p.current with
        | word text => simp [cons_mem_andTailTexts_mul, hword]
        | _ => simp [hc, Token.isWord] at hw
      apply ((parseFilter_explains p hmore).congr hmore hcurrent).bind
      intro right r hr
      exact parseAndTail_explains r hK hstops _
    | false =>
      rw [parseAndTail_of_ne ha hw]
      apply explains_done.congr hmore
      intro us
      have hne : ¬∃ field, p.current = .word field := by
        rintro ⟨field, hc⟩
        rw [hc] at hw
        cases hw
      simp [cons_mem_andTailTexts_mul, cons_mem_filterTexts_mul, ha, hne]
termination_by p.remaining

theorem parseAnd_explains (p : Parser) (hK : ∃ w, w ∈ K) (hstops : ∀ w ∈ K, AndTree.Stops w) :
    p.parseAnd.Explains p (andTexts * K) K := by
  rw [parseAnd, andTexts_eq, mul_assoc]
  apply (parseFilter_explains p (exists_mem_mul exists_mem_andTailTexts hK)).bind
  intro left q hq
  exact parseAndTail_explains q hK hstops hq

/-- The language of the end alone. -/
def ending : Language Token := oneOf (· = .eof)

theorem cons_mem_ending {us : List Token} : t :: us ∈ ending ↔ t = .eof ∧ us = [] := by
  constructor
  · rintro ⟨_, rfl, h⟩
    obtain ⟨rfl, rfl⟩ := List.cons.inj h
    exact ⟨rfl, rfl⟩
  · rintro ⟨rfl, rfl⟩
    exact ⟨_, rfl, rfl⟩

theorem exists_mem_ending : ∃ w, w ∈ ending := ⟨_, _, rfl, rfl⟩

/-- Behind a conjunction comes an `OR` or the end. -/
theorem stops_of_mem_orTailTexts_mul_ending :
    ∀ w ∈ orTailTexts * ending, AndTree.Stops w := by
  intro w hw t ht
  obtain ⟨us, rfl⟩ := List.head?_eq_some_iff.1 ht
  rw [cons_mem_orTailTexts_mul, cons_mem_ending] at hw
  rcases hw with ⟨rfl, -⟩ | ⟨rfl, -⟩ <;> simp

theorem parseOrTail_explains {bound : Nat} {left : Condition} (p : Parser)
    (lt : p.remaining < bound) :
    (parseOrTail bound left p lt).Explains p (orTailTexts * ending) ending := by
  have hmore : ∃ w, w ∈ orTailTexts * ending :=
    exists_mem_mul exists_mem_orTailTexts exists_mem_ending
  by_cases ho : p.current = .or
  · rw [parseOrTail_of_or ho]
    have hnext : ∀ us, p.current :: us ∈ orTailTexts * ending ↔
        us ∈ andTexts * (orTailTexts * ending) := by
      intro us
      simp [cons_mem_orTailTexts_mul, cons_mem_ending, ho]
    apply (shift_explains _ hnext (exists_mem_mul exists_mem_andTexts hmore)).bind
    intro _ q hq
    apply (parseAnd_explains q hmore stops_of_mem_orTailTexts_mul_ending).bind
    intro right r hr
    exact parseOrTail_explains r _
  · rw [parseOrTail_of_ne ho]
    apply explains_done.congr hmore
    intro us
    simp [cons_mem_orTailTexts_mul, ho]
termination_by p.remaining

theorem parseOr_explains (p : Parser) : p.parseOr.Explains p (orTexts * ending) ending := by
  rw [parseOr, orTexts_eq, mul_assoc]
  apply (parseAnd_explains p (exists_mem_mul exists_mem_orTailTexts exists_mem_ending)
    stops_of_mem_orTailTexts_mul_ending).bind
  intro left q hq
  exact parseOrTail_explains q hq

/-! ### Queries -/

/-- Where a parser without a limit fails, what lies ahead of it ceases to be a query. -/
theorem failsIn_of_parse_eq_error (hp : p.Synced) (hmax : p.maxFilters = 0)
    (h : p.parse.1 = .error e) : p.FailsIn (queryTexts * ending) e := by
  by_cases hc : p.current = .eof
  · rw [parse_of_eof hc] at h
    cases h
  have hqueries : ∃ w, w ∈ queryTexts * ending :=
    exists_mem_mul exists_mem_queryTexts exists_mem_ending
  have hcurrent : ∀ us, p.current :: us ∈ queryTexts * ending ↔
      p.current :: us ∈ orTexts * ending := by
    intro us
    simp [cons_mem_queryTexts_mul, cons_mem_ending, hc]
  refine FailsIn.congr ?_ hqueries hcurrent
  have hor := parseOr_explains p
  cases ho : p.parseOr with
  | fail e' q =>
    rw [ho] at hor
    rw [parse_of_fail hc ho] at h
    cases h
    exact hor
  | done c q lt =>
    rw [ho] at hor
    rw [parse_of_done hc ho] at h
    obtain ⟨o, -, hpass⟩ := parseOr_sound hmax ho
    by_cases hqc : q.current = .eof
    · -- At the end nothing can fail any more.
      have hlimit : q.overLimit = false := by
        simp [overLimit, hpass.maxFilters_eq, hmax]
      rw [expectEnd_of_ahead_eq_nil (ahead_eq_nil_iff.2 hqc) (hpass.synced hp)] at h
      simp [hlimit] at h
    · rw [expectEnd, if_neg hqc] at h
      cases h
      exact hor _ (failsIn_current exists_mem_ending fun us => by simp [cons_mem_ending, hqc])

end Parser

/-- Some query starts with the tokens `ts`. -/
def Grammar.StartsQuery (ts : List Token) : Prop := ∃ d : QueryTree, ts <+: d.tokens

theorem Grammar.viable_iff_startsQuery {ts : List Token} (h : .eof ∉ ts) :
    Viable (queryTexts * Parser.ending) ts ↔ StartsQuery ts := by
  constructor
  · rintro ⟨us, hus⟩
    obtain ⟨_, ⟨d, rfl⟩, _, ⟨_, rfl, rfl⟩, hd⟩ := Language.mem_mul.1 hus
    rcases List.prefix_concat_iff.1 ⟨us, hd.symm⟩ with rfl | hprefix
    · exact absurd (List.mem_append_right _ List.mem_cons_self) h
    · exact ⟨d, hprefix⟩
  · rintro ⟨d, us, hd⟩
    refine ⟨us ++ [.eof], ?_⟩
    rw [← List.append_assoc, hd]
    exact Language.append_mem_mul ⟨d, rfl⟩ ⟨_, rfl, rfl⟩

theorem Grammar.viable_eof_of_tokens_eq {ts : List Token} {d : QueryTree} (h : d.tokens = ts) :
    Viable (queryTexts * Parser.ending) (ts ++ [.eof]) := by
  refine ⟨[], ?_⟩
  rw [List.append_nil, ← h]
  exact Language.append_mem_mul ⟨d, rfl⟩ ⟨_, rfl, rfl⟩

/-- The failure of a whole query at a token, or at the end of the text. -/
theorem Parser.FailsIn.startsQuery_before {p : Parser} {expected : Expected} {found : Token}
    (h : p.FailsIn (queryTexts * ending) (.unexpectedToken expected found))
    (hne : .eof ∉ p.ahead) :
    ∃ before, StartsQuery before ∧
      ((∃ rest, p.ahead = before ++ found :: rest ∧ ¬StartsQuery (before ++ [found])) ∨
        (found = .eof ∧ p.ahead = before ∧ p.fault? = none ∧
          ∀ d : QueryTree, d.tokens ≠ before)) := by
  cases h with
  | @unexpectedToken _ _ before hmeets hviable hdead =>
    cases hmeets with
    | @token _ rest hahead =>
      have hfound : .eof ∉ before ++ [found] := by
        rw [hahead, List.append_cons] at hne
        exact fun hmem => hne (List.mem_append_left _ hmem)
      have hbefore : .eof ∉ before := fun hmem => hfound (List.mem_append_left _ hmem)
      refine ⟨before, (viable_iff_startsQuery hbefore).1 hviable, .inl ⟨rest, hahead, ?_⟩⟩
      rwa [← viable_iff_startsQuery hfound]
    | ending hahead hfault =>
      have hbefore : .eof ∉ before := hahead ▸ hne
      refine ⟨before, (viable_iff_startsQuery hbefore).1 hviable, .inr ⟨rfl, hahead, hfault, ?_⟩⟩
      intro d hd
      exact hdead (viable_eof_of_tokens_eq hd)

/-- A text that the parser cannot start with has an error in front; otherwise it fails where its
tokens cease to be the beginning of a query. -/
theorem failsIn_of_parseQuery_eq_error {source : String} {e : ParseError}
    (h : parseQuery source 0 = .error e) :
    (∃ e', e = .lex e' ∧ (Lexer.ofSource source).tokens = ([], some e')) ∨
      ∃ p : Parser, (Lexer.ofSource source).tokens = (p.ahead, p.fault?) ∧ .eof ∉ p.ahead ∧
        p.FailsIn (queryTexts * Parser.ending) e := by
  cases hp : Parser.ofSource source 0 with
  | error e' =>
    rw [parseQuery, hp] at h
    cases h
    exact .inl (Parser.ofSource_eq_error hp)
  | ok p =>
    rw [parseQuery, hp] at h
    obtain ⟨htokens, hsynced, hmax, -⟩ := Parser.ofSource_eq_ok hp
    refine .inr ⟨p, htokens, ?_, Parser.failsIn_of_parse_eq_error hsynced hmax h⟩
    intro hmem
    have hmem : .eof ∈ (Lexer.ofSource source).tokens.1 := by rwa [htokens]
    exact (Lexer.wellFormed_of_mem_tokens hmem).ne_eof rfl

/-- Errors are reported as early as possible. The tokens before one that is not expected are the
beginning of a query, and with it they are not; at the end of the text they are no query. All tokens
before an error of the lexer are the beginning of a query. Parsing without a limit fails in no other
way. -/
theorem parse_fails_at_earliest_token (source : String) :
    (∀ expected found, parseQuery source 0 = .error (.unexpectedToken expected found) →
      ∃ before, StartsQuery before ∧
        ((∃ rest, (Lexer.ofSource source).tokens.1 = before ++ found :: rest ∧
            ¬StartsQuery (before ++ [found])) ∨
          (found = .eof ∧ (Lexer.ofSource source).tokens = (before, none) ∧
            ∀ d : QueryTree, d.tokens ≠ before))) ∧
    (∀ e, parseQuery source 0 = .error (.lex e) →
      (Lexer.ofSource source).tokens.2 = some e ∧
        StartsQuery (Lexer.ofSource source).tokens.1) ∧
    ∀ e, parseQuery source 0 = .error e →
      (∃ expected found, e = .unexpectedToken expected found) ∨ ∃ e', e = .lex e' := by
  refine ⟨?_, ?_, ?_⟩
  · intro expected found h
    rcases failsIn_of_parseQuery_eq_error h with ⟨e', he', -⟩ | ⟨p, htokens, hne, hfails⟩
    · cases he'
    · obtain ⟨before, hbefore, hfound | ⟨rfl, hahead, hfault, hd⟩⟩ := hfails.startsQuery_before hne
      · refine ⟨before, hbefore, .inl ?_⟩
        rwa [htokens]
      · refine ⟨before, hbefore, .inr ⟨rfl, ?_, hd⟩⟩
        rw [htokens, hahead, hfault]
  · intro e h
    rcases failsIn_of_parseQuery_eq_error h with ⟨e', he', htokens⟩ | ⟨p, htokens, hne, hfails⟩
    · cases he'
      rw [htokens]
      exact ⟨rfl, .empty, List.nil_prefix⟩
    · rw [htokens]
      cases hfails with
      | lex hfault hviable => exact ⟨hfault, (viable_iff_startsQuery hne).1 hviable⟩
  · intro e h
    cases e with
    | lex e' => exact .inr ⟨e', rfl⟩
    | unexpectedToken expected found => exact .inl ⟨expected, found, rfl⟩
    | tooManyFilters observed max =>
      exact absurd h (parseQuery_zero_ne_tooManyFilters source observed max)

/-- A bracket in place of a value is reported although the lexer fails behind it, and the failure of
the lexer in place of a value is reported although no value is there. -/
theorem parse_fails_at_earliest_token_of_unclosed_strings :
    (parseQuery "a : ] \"" 0 = .error (.unexpectedToken .value .closeBracket) ∧
      ∃ before rest, (Lexer.ofSource "a : ] \"").tokens.1 = before ++ .closeBracket :: rest ∧
        StartsQuery before ∧ ¬StartsQuery (before ++ [.closeBracket])) ∧
    (parseQuery "a : \"" 0 = .error (.lex (.unterminatedString 4)) ∧
      (Lexer.ofSource "a : \"").tokens.2 = some (.unterminatedString 4) ∧
      StartsQuery (Lexer.ofSource "a : \"").tokens.1) := by
  have hbracket : parseQuery "a : ] \"" 0 = .error (.unexpectedToken .value .closeBracket) := by
    have hor : (Parser.mk ⟨[' ', ':', ' ', ']', ' ', '"'], 1⟩ (.word "a") 0 0).parseOr =
        .fail (.unexpectedToken .value .closeBracket) ⟨⟨[' ', '"'], 5⟩, .closeBracket, 0, 0⟩ := by
      rw [Parser.parseOr, Parser.parseAnd, Parser.parseFilter_of_word rfl,
        Parser.shift_of_next_ok rfl]
      simp only [Parser.Outcome.bind]
      rw [Parser.expect_of_eq rfl, Parser.shift_of_next_ok rfl]
      simp only
      rw [Parser.parseComparison_of_ne (by simp), Parser.parseOperand,
        Parser.parseValue_of_ne rfl (by simp)]
      rfl
    exact congrArg Prod.fst (Parser.parse_of_fail (by simp) hor)
  have hquote : parseQuery "a : \"" 0 = .error (.lex (.unterminatedString 4)) := by
    have hor : (Parser.mk ⟨[' ', ':', ' ', '"'], 1⟩ (.word "a") 0 0).parseOr =
        .fail (.lex (.unterminatedString 4)) ⟨⟨[], 5⟩, .colon, 0, 0⟩ := by
      rw [Parser.parseOr, Parser.parseAnd, Parser.parseFilter_of_word rfl,
        Parser.shift_of_next_ok rfl]
      simp only [Parser.Outcome.bind]
      rw [Parser.expect_of_eq rfl, Parser.shift_of_next_error rfl]
      rfl
    exact congrArg Prod.fst (Parser.parse_of_fail (by simp) hor)
  refine ⟨⟨hbracket, ?_⟩, hquote, (parse_fails_at_earliest_token _).2.1 _ hquote⟩
  obtain ⟨before, hbefore, ⟨rest, htokens, hfound⟩ | ⟨hend, -⟩⟩ :=
    (parse_fails_at_earliest_token _).1 _ _ hbracket
  · exact ⟨before, rest, htokens, hbefore, hfound⟩
  · cases hend

end FilterQuery
