import FilterQuery.Proofs.Lexing.Spelling

/-!
# Parsing with a limit

A limit does not change how a parser reads: it passes over the same tokens, counts the same filters
and fails with the same errors. Only conditions are no longer joined once there are too many
filters, and then the query is refused at its end. So to parse with a limit is to parse without one
and to count the filters of the query (`parseQuery_eq_bind_allow`).

The two runs are compared step by step. `Outcome.Agrees` says that they have come to the same place,
with results in a given relation: for values and filters they are equal, for conditions they are
equal as long as the limit is not passed.
-/

namespace FilterQuery

/-- Allow a query with at most `max` filters, or any query if `max` is 0. -/
def Query.allow (max : Nat) : Query → Except ParseError Query
  | none => .ok none
  | some c =>
    if max ≠ 0 ∧ max < c.size then .error (.tooManyFilters c.size max) else .ok (some c)

theorem Query.bind_allow_zero (x : Except ParseError Query) : x.bind (Query.allow 0) = x := by
  rcases x with e | _ | c <;> rfl

namespace Parser

/-- The parser with another limit. -/
def withMax (p : Parser) (max : Nat) : Parser := { p with maxFilters := max }

variable {p q : Parser} {max m n : Nat} {α β : Type}

theorem current_withMax : (p.withMax max).current = p.current := rfl

/-! ### Two runs -/

/-- The outcomes of one reading, first without and then with the limit `max`: the same error, which
is never about the limit, or the same parser but for the limit, with results that `R` relates. -/
inductive Outcome.Agrees (max : Nat) (R : Parser → α → α → Prop) :
    Outcome m α → Outcome n α → Prop
  | done {a b : α} {q : Parser} {lt : q.remaining < m} {lt' : (q.withMax max).remaining < n} :
      R q a b → Agrees max R (.done a q lt) (.done b (q.withMax max) lt')
  | fail {e : ParseError} {q : Parser} : (∀ observed limit, e ≠ .tooManyFilters observed limit) →
      Agrees max R (.fail e q) (.fail e (q.withMax max))

/-- The results are equal. -/
def Same (_ : Parser) (a b : α) : Prop := a = b

/-- Two runs that agree go on to agree, if they do so from each place they can have come to. -/
theorem Outcome.Agrees.bind {m' n' : Nat} {R : Parser → α → α → Prop} {S : Parser → β → β → Prop}
    {o : Outcome m α} {o' : Outcome n α}
    {f : α → (p : Parser) → p.remaining < m → Outcome m' β}
    {f' : α → (p : Parser) → p.remaining < n → Outcome n' β} (h : o.Agrees max R o')
    (hf : ∀ a b q lt lt', o = .done a q lt → R q a b →
      (f a q lt).Agrees max S (f' b (q.withMax max) lt')) :
    (o.bind f).Agrees max S (o'.bind f') := by
  cases h with
  | done hR => exact hf _ _ _ _ _ rfl hR
  | fail he => exact .fail he

/-! ### Values and filters

They are read without a look at the limit. -/

theorem shift_agrees (fallback : Token) (h : p.current ≠ .eof)
    (h' : (p.withMax max).current ≠ .eof) :
    (p.shift fallback h).Agrees max Same ((p.withMax max).shift fallback h') := by
  rcases hn : p.lexer.next with ⟨e | t, l⟩
  · rw [shift_of_next_error hn, shift_of_next_error (p := p.withMax max) hn]
    exact .fail (by simp)
  · rw [shift_of_next_ok hn, shift_of_next_ok (p := p.withMax max) hn]
    exact .done rfl

theorem expect_agrees (t : Token) (ht : t ≠ .eof) :
    (p.expect t ht).Agrees max Same ((p.withMax max).expect t ht) := by
  by_cases hc : p.current = t
  · have hc' : (p.withMax max).current = t := hc
    rw [expect_of_eq hc, expect_of_eq hc']
    exact shift_agrees _ _ _
  · have hc' : (p.withMax max).current ≠ t := hc
    rw [expect_of_ne hc, expect_of_ne hc']
    exact .fail (by simp)

mutual

theorem parseValue_agrees (p : Parser) :
    p.parseValue.Agrees max Same (p.withMax max).parseValue := by
  cases hl : p.current.literal? with
  | some v =>
    have hl' : (p.withMax max).current.literal? = some v := hl
    rw [parseValue_of_literal? hl, parseValue_of_literal? hl']
    exact (shift_agrees _ _ _).bind fun _ _ _ _ _ _ _ => .done rfl
  | none =>
    by_cases hb : p.current = .openBracket
    · have hb' : (p.withMax max).current = .openBracket := hb
      rw [parseValue_of_openBracket hb, parseValue_of_openBracket hb']
      exact (shift_agrees _ _ _).bind fun _ _ q lt lt' _ _ => parseMembers_agrees [] q lt lt'
    · have hl' : (p.withMax max).current.literal? = none := hl
      have hb' : (p.withMax max).current ≠ .openBracket := hb
      rw [parseValue_of_ne hl hb, parseValue_of_ne hl' hb']
      exact .fail (by simp)
termination_by (p.remaining, 0)

theorem parseMembers_agrees {m n : Nat} (members : List Value) (p : Parser)
    (lt : p.remaining < m) (lt' : (p.withMax max).remaining < n) :
    (parseMembers m members p lt).Agrees max Same
      (parseMembers n members (p.withMax max) lt') := by
  by_cases hc : p.current = .closeBracket
  · have hc' : (p.withMax max).current = .closeBracket := hc
    rw [parseMembers_of_closeBracket hc, parseMembers_of_closeBracket hc']
    exact (expect_agrees _ _).bind fun _ _ _ _ _ _ _ => .done rfl
  · have hc' : (p.withMax max).current ≠ .closeBracket := hc
    rw [parseMembers_of_ne hc, parseMembers_of_ne hc']
    apply (parseValue_agrees p).bind
    rintro v _ q hq hq' - rfl
    by_cases hqc : q.current = .closeBracket
    · have hqc' : (q.withMax max).current = .closeBracket := hqc
      rw [if_pos hqc, if_pos hqc']
      exact parseMembers_agrees _ q _ _
    · have hqc' : (q.withMax max).current ≠ .closeBracket := hqc
      rw [if_neg hqc, if_neg hqc']
      exact (expect_agrees _ _).bind fun _ _ r hr _ _ _ => parseMembers_agrees _ r _ _
termination_by (p.remaining, 1)

end

theorem parseOperand_agrees (field operator : String) (p : Parser) :
    (p.parseOperand field operator).Agrees max Same
      ((p.withMax max).parseOperand field operator) := by
  rw [parseOperand, parseOperand]
  apply (parseValue_agrees p).bind
  rintro v _ q hq hq' - rfl
  exact .done (q := { q with filters := q.filters + 1 }) rfl

theorem parseComparison_agrees (field : String) (p : Parser) :
    (p.parseComparison field).Agrees max Same ((p.withMax max).parseComparison field) := by
  by_cases hop : ∃ op, p.current = .comparison op
  · obtain ⟨op, hop⟩ := hop
    have hop' : (p.withMax max).current = .comparison op := hop
    rw [parseComparison_of_comparison hop, parseComparison_of_comparison hop']
    apply (shift_agrees _ _ _).bind
    rintro _ _ q hq hq' - -
    apply (parseOperand_agrees field _ q).bind
    rintro c _ r hr hr' - rfl
    exact .done rfl
  · have hop' : ∀ op, (p.withMax max).current ≠ .comparison op := not_exists.1 hop
    rw [parseComparison_of_ne (not_exists.1 hop), parseComparison_of_ne hop']
    exact parseOperand_agrees field _ p

theorem parseFilter_agrees (p : Parser) :
    p.parseFilter.Agrees max Same (p.withMax max).parseFilter := by
  by_cases hw : ∃ field, p.current = .word field
  · obtain ⟨field, hw⟩ := hw
    have hw' : (p.withMax max).current = .word field := hw
    rw [parseFilter_of_word hw, parseFilter_of_word hw']
    apply (shift_agrees _ _ _).bind
    rintro _ _ q hq hq' - -
    apply (expect_agrees _ _).bind
    rintro _ _ r hr hr' - -
    apply (parseComparison_agrees field r).bind
    rintro c _ s hs hs' - rfl
    exact .done rfl
  · have hw' : ∀ field, (p.withMax max).current ≠ .word field := not_exists.1 hw
    rw [parseFilter_of_ne (not_exists.1 hw), parseFilter_of_ne hw']
    exact .fail (by simp)

/-! ### Conditions

A parser with a limit holds the right condition as long as it has not read too many filters. The
number of filters never falls, so that it was right before if it still is. -/

/-- The conditions are equal unless the limit is passed. -/
def EqualWithin (max : Nat) (q : Parser) (c c' : Condition) : Prop := q.filters ≤ max → c = c'

theorem EqualWithin.join {f : Condition → Condition → Condition} {r : Parser}
    {left left' right right' : Condition} (hr : r.maxFilters = 0) (hle : p.filters ≤ r.filters)
    (hleft : EqualWithin max p left left') (hright : EqualWithin max r right right') :
    EqualWithin max r (r.join f left right) ((r.withMax max).join f left' right') := by
  intro hfilters
  have hlimit : (r.withMax max).overLimit = false := by
    simp only [overLimit, withMax, Bool.and_eq_false_iff]
    exact .inr (decide_eq_false (Nat.not_lt.2 hfilters))
  -- The left condition was complete when there were no more filters than now.
  rw [join_of_maxFilters_eq_zero hr, Parser.join, hlimit, hleft (Nat.le_trans hle hfilters),
    hright hfilters]
  rfl

theorem parseAndTail_agrees {m n : Nat} {left left' : Condition} (p : Parser)
    (hp : p.maxFilters = 0) (hleft : EqualWithin max p left left')
    (lt : p.remaining < m) (lt' : (p.withMax max).remaining < n) :
    (parseAndTail m left p lt).Agrees max (EqualWithin max)
      (parseAndTail n left' (p.withMax max) lt') := by
  by_cases ha : p.current = .and
  · have ha' : (p.withMax max).current = .and := ha
    rw [parseAndTail_of_and ha, parseAndTail_of_and ha']
    apply (shift_agrees _ _ _).bind
    rintro _ _ q hq hq' hshift -
    apply (parseFilter_agrees q).bind
    rintro right _ r hr hr' hfilter rfl
    obtain ⟨f, -, hf⟩ := parseFilter_sound hfilter
    have hround := (passes_of_shift_eq_done hshift).trans hf
    have hrmax : r.maxFilters = 0 := hround.maxFilters_eq.trans hp
    exact parseAndTail_agrees r hrmax (hleft.join hrmax hround.filters_le fun _ => rfl) _ _
  · have ha' : (p.withMax max).current ≠ .and := ha
    cases hw : p.current.isWord with
    | true =>
      have hw' : (p.withMax max).current.isWord := hw
      rw [parseAndTail_of_word hw, parseAndTail_of_word hw']
      apply (parseFilter_agrees p).bind
      rintro right _ r hr hr' hfilter rfl
      obtain ⟨f, -, hround⟩ := parseFilter_sound hfilter
      have hrmax : r.maxFilters = 0 := hround.maxFilters_eq.trans hp
      exact parseAndTail_agrees r hrmax (hleft.join hrmax hround.filters_le fun _ => rfl) _ _
    | false =>
      have hw' : (p.withMax max).current.isWord = false := hw
      rw [parseAndTail_of_ne ha hw, parseAndTail_of_ne ha' hw']
      exact .done hleft
termination_by p.remaining

theorem parseAnd_agrees (p : Parser) (hp : p.maxFilters = 0) :
    p.parseAnd.Agrees max (EqualWithin max) (p.withMax max).parseAnd := by
  rw [parseAnd, parseAnd]
  apply (parseFilter_agrees p).bind
  rintro left _ q hq hq' hfilter rfl
  obtain ⟨f, -, hf⟩ := parseFilter_sound hfilter
  exact parseAndTail_agrees q (hf.maxFilters_eq.trans hp) (fun _ => rfl) _ _

theorem parseOrTail_agrees {m n : Nat} {left left' : Condition} (p : Parser)
    (hp : p.maxFilters = 0) (hleft : EqualWithin max p left left')
    (lt : p.remaining < m) (lt' : (p.withMax max).remaining < n) :
    (parseOrTail m left p lt).Agrees max (EqualWithin max)
      (parseOrTail n left' (p.withMax max) lt') := by
  by_cases ho : p.current = .or
  · have ho' : (p.withMax max).current = .or := ho
    rw [parseOrTail_of_or ho, parseOrTail_of_or ho']
    apply (shift_agrees _ _ _).bind
    rintro _ _ q hq hq' hshift -
    have hq0 := (passes_of_shift_eq_done hshift).maxFilters_eq.trans hp
    apply (parseAnd_agrees q hq0).bind
    rintro right right' r hr hr' hand hright
    obtain ⟨a, -, ha⟩ := parseAnd_sound hq0 hand
    have hround := (passes_of_shift_eq_done hshift).trans ha
    have hrmax : r.maxFilters = 0 := hround.maxFilters_eq.trans hp
    exact parseOrTail_agrees r hrmax (hleft.join hrmax hround.filters_le hright) _ _
  · have ho' : (p.withMax max).current ≠ .or := ho
    rw [parseOrTail_of_ne ho, parseOrTail_of_ne ho']
    exact .done hleft
termination_by p.remaining

theorem parseOr_agrees (p : Parser) (hp : p.maxFilters = 0) :
    p.parseOr.Agrees max (EqualWithin max) (p.withMax max).parseOr := by
  rw [parseOr, parseOr]
  apply (parseAnd_agrees p hp).bind
  rintro left left' q hq hq' hand hleft
  obtain ⟨a, -, ha⟩ := parseAnd_sound hp hand
  exact parseOrTail_agrees q (ha.maxFilters_eq.trans hp) hleft _ _

/-! ### Queries -/

theorem expectEnd_withMax (p : Parser) :
    (p.withMax max).expectEnd = (p.expectEnd.1, p.expectEnd.2.withMax max) := by
  unfold expectEnd
  rw [current_withMax]
  split
  · simp only [withMax]
    split <;> rfl
  · rfl

theorem filters_of_expectEnd_eq_ok {r : Parser} (h : q.expectEnd = (.ok (), r)) :
    r.filters = q.filters ∧ r.maxFilters = q.maxFilters := by
  unfold expectEnd at h
  split at h
  · split at h
    · cases h; exact ⟨rfl, rfl⟩
    · cases (Prod.mk.inj h).1
  · cases (Prod.mk.inj h).1

theorem parse_of_eof (h : p.current = .eof) : p.parse = (.ok none, p) := by
  rw [parse, if_pos h]

theorem parse_of_fail {e : ParseError} (h : p.current ≠ .eof) (hor : p.parseOr = .fail e q) :
    p.parse = (.error e, q) := by
  rw [parse, if_neg h, hor]
  rfl

theorem parse_of_done {c : Condition} {lt : q.remaining < p.remaining} (h : p.current ≠ .eof)
    (hor : p.parseOr = .done c q lt) :
    p.parse = match q.expectEnd with
      | (.error e, r) => (.error e, r)
      | (.ok (), r) =>
        if r.overLimit then (.error (.tooManyFilters r.filters r.maxFilters), r)
        else (.ok (some c), r) := by
  rw [parse, if_neg h, hor]
  rfl

theorem withMax_zero (h : p.maxFilters = 0) : p.withMax 0 = p := by
  obtain ⟨lexer, current, maxFilters, filters⟩ := p
  exact congrArg (Parser.mk lexer current · filters) h.symm

/-- A fresh parser with a limit reads the query that one without a limit reads, if it has not too
many filters. -/
theorem parse_withMax (hmax : p.maxFilters = 0) (hfilters : p.filters = 0) :
    (p.withMax max).parse.1 = p.parse.1.bind (Query.allow max) := by
  by_cases h0 : max = 0
  · subst h0
    rw [withMax_zero hmax, Query.bind_allow_zero]
  by_cases hc : p.current = .eof
  · have hc' : (p.withMax max).current = .eof := hc
    rw [parse_of_eof hc, parse_of_eof hc']
    rfl
  have hc' : (p.withMax max).current ≠ .eof := hc
  have hor : p.parseOr.Agrees max (EqualWithin max) (p.withMax max).parseOr := parseOr_agrees p hmax
  generalize ho : p.parseOr = o at hor
  generalize ho' : (p.withMax max).parseOr = o' at hor
  cases hor with
  | fail =>
    rw [parse_of_fail hc ho, parse_of_fail hc' ho']
    rfl
  | @done c c' q lt lt' hcc =>
    rw [parse_of_done hc ho, parse_of_done hc' ho', expectEnd_withMax]
    -- The parser has counted each filter of the condition that it read without a limit.
    obtain ⟨o, rfl, hpass⟩ := parseOr_sound hmax ho
    have hsize : q.filters = o.condition.size := by rw [hpass.filters_eq, hfilters, Nat.zero_add]
    rcases hend : q.expectEnd with ⟨e | ⟨⟩, r⟩
    · rfl
    · obtain ⟨hr, hrmax⟩ := filters_of_expectEnd_eq_ok hend
      have hlimit : r.overLimit = false := by
        simp [overLimit, hrmax, hpass.maxFilters_eq, hmax]
      have hlimit' : (r.withMax max).overLimit = decide (max < o.condition.size) := by
        simp [overLimit, withMax, h0, hr, hsize]
      simp only [hlimit, hlimit']
      by_cases hlt : max < o.condition.size
      · simp [hlt, h0, Query.allow, Except.bind, withMax, hr, hsize]
      · obtain rfl := hcc (by omega)
        simp [hlt, Query.allow, Except.bind]

theorem expectEnd_ne_tooManyFilters (observed limit : Nat) :
    p.expectEnd.1 ≠ .error (.tooManyFilters observed limit) := by
  unfold expectEnd
  repeat' split
  all_goals simp

/-- Without a limit there are never too many filters. -/
theorem parse_ne_tooManyFilters (hmax : p.maxFilters = 0) (observed limit : Nat) :
    p.parse.1 ≠ .error (.tooManyFilters observed limit) := by
  by_cases hc : p.current = .eof
  · rw [parse_of_eof hc]
    simp
  have hor : p.parseOr.Agrees 0 (EqualWithin 0) (p.withMax 0).parseOr := parseOr_agrees p hmax
  generalize ho : p.parseOr = o at hor
  generalize (p.withMax 0).parseOr = o' at hor
  cases hor with
  | fail he =>
    rw [parse_of_fail hc ho]
    exact fun h => he observed limit (Except.error.inj h)
  | @done c c' q lt lt' _ =>
    rw [parse_of_done hc ho]
    obtain ⟨_, _, hpass⟩ := parseOr_sound hmax ho
    rcases hend : q.expectEnd with ⟨e | ⟨⟩, r⟩
    · have he := expectEnd_ne_tooManyFilters (p := q) observed limit
      rw [hend] at he
      exact fun h => he (congrArg Except.error (Except.error.inj h))
    · obtain ⟨-, hrmax⟩ := filters_of_expectEnd_eq_ok hend
      simp [overLimit, hrmax, hpass.maxFilters_eq, hmax]

end Parser

/-- To parse with a limit is to parse without one and to count the filters then. -/
theorem parseQuery_eq_bind_allow (source : String) (max : Nat) :
    parseQuery source max = (parseQuery source 0).bind (Query.allow max) := by
  have hsource : Parser.ofSource source max =
      (Parser.ofSource source 0).map (·.withMax max) := by
    unfold Parser.ofSource
    split <;> rfl
  cases hp : Parser.ofSource source 0 with
  | error e =>
    rw [parseQuery, parseQuery, hsource, hp]
    rfl
  | ok p =>
    obtain ⟨-, -, hmax, hfilters⟩ := Parser.ofSource_eq_ok hp
    rw [parseQuery, parseQuery, hsource, hp]
    exact Parser.parse_withMax hmax hfilters

/-- Parsing with a limit fails as parsing without one does, if that fails. Otherwise it reads the same
query if the limit allows as many filters, and reports their number if it does not. -/
theorem limited_parse_is_parse_then_count (source : String) (max : Nat) :
    (∀ e, parseQuery source 0 = .error e → parseQuery source max = .error e) ∧
    (parseQuery source 0 = .ok none → parseQuery source max = .ok none) ∧
    ∀ c, parseQuery source 0 = .ok (some c) →
      (max = 0 ∨ c.size ≤ max → parseQuery source max = .ok (some c)) ∧
      (0 < max ∧ max < c.size →
        parseQuery source max = .error (.tooManyFilters c.size max)) := by
  rw [parseQuery_eq_bind_allow source max]
  refine ⟨?_, ?_, ?_⟩
  · intro e h
    rw [h]
    rfl
  · intro h
    rw [h]
    rfl
  · intro c h
    rw [h]
    constructor
    · intro hmax
      exact if_neg (by omega)
    · intro hmax
      exact if_pos (by omega)

/-- Three filters are read with a limit of three, and are counted to the end with a limit of one. -/
theorem limited_parse_is_parse_then_count_of_three_filters :
    let source := "a : x b : [ y , z ] OR c : > w"
    let c : Condition := .or
      (.and (.filter ⟨"a", "default", .string "x"⟩)
        (.filter ⟨"b", "default", .list [.string "y", .string "z"]⟩))
      (.filter ⟨"c", ">", .string "w"⟩)
    parseQuery source 0 = .ok (some c) ∧
      parseQuery source 3 = .ok (some c) ∧
      parseQuery source 1 = .error (.tooManyFilters 3 1) := by
  intro source c
  let d : Grammar.QueryTree := .condition
    ⟨⟨⟨"a", none, .word "x"⟩, [(false, ⟨"b", none, .list (.word "y") [.word "z"] false⟩)]⟩,
      [⟨⟨"c", some .gt, .word "w"⟩, []⟩]⟩
  have hparse : parseQuery source 0 = .ok (some c) := by
    have hsource : source = String.ofList (Token.spaced d.tokens) := by decide +kernel
    rw [hsource]
    exact parseQuery_spaced (d := d) (by decide)
  refine ⟨hparse, ?_, ?_⟩
  · exact ((limited_parse_is_parse_then_count source 3).2.2 c hparse).1 (by decide)
  · exact ((limited_parse_is_parse_then_count source 1).2.2 c hparse).2 (by decide)

theorem parseQuery_zero_ne_tooManyFilters (source : String) (observed max : Nat) :
    parseQuery source 0 ≠ .error (.tooManyFilters observed max) := by
  cases hp : Parser.ofSource source 0 with
  | error e =>
    obtain ⟨e', rfl, -⟩ := Parser.ofSource_eq_error hp
    rw [parseQuery, hp]
    intro h
    cases h
  | ok p =>
    obtain ⟨-, -, hmax, -⟩ := Parser.ofSource_eq_ok hp
    rw [parseQuery, hp]
    exact Parser.parse_ne_tooManyFilters hmax observed max

end FilterQuery
