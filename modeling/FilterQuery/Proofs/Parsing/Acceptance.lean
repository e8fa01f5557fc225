import FilterQuery.Proofs.Parsing.Tokens
import FilterQuery.Proofs.Parsing.Unambiguous

/-!
# The parser accepts the grammar

* **Soundness** (`parse_sound`): what a parser without a limit reads is the query of a derivation,
  and the tokens it has passed over are those of the derivation.
* **Completeness** (`parse_complete`): a parser that has the tokens of a derivation ahead reads its
  query.

Both follow the rules of the grammar, from values up to whole queries. Soundness goes by recursion
on what is left to be read, as the parser itself does; completeness goes by induction on
derivations. The loops of the parser correspond to the repetitions in the grammar: each is described
by the rounds that it still makes. Together with `QueryTree.tokens_injective` they say which queries
can be read (`parseQuery_eq_ok_iff`).
-/

namespace FilterQuery

open Grammar

/-! ### Lists behind their opening bracket -/

namespace Grammar.ValueTree

/-- The tokens behind the opening bracket of a list. -/
def listTokens : List ValueTree → Bool → List Token
  | [], _ => [.closeBracket]
  | v :: vs, trailingComma => v.tokens ++ moreTokens vs ++ listEnd trailingComma

/-- The list with the given members. -/
def ofMembers : List ValueTree → Bool → ValueTree
  | [], _ => emptyList
  | v :: vs, trailingComma => list v vs trailingComma

theorem tokens_ofMembers (vs : List ValueTree) (b : Bool) :
    (ofMembers vs b).tokens = .openBracket :: listTokens vs b := by
  cases vs <;> rfl

theorem value_ofMembers (vs : List ValueTree) (b : Bool) :
    (ofMembers vs b).value = .list (values vs) := by
  cases vs <;> rfl

/-- A member that a closing bracket follows is the last. -/
theorem append_closeBracket (v : ValueTree) :
    v.tokens ++ [.closeBracket] = listTokens [v] false := by
  simp [listTokens, moreTokens, listEnd]

/-- A member that a comma follows is the last if the bracket is closed behind the comma. -/
theorem append_comma (v : ValueTree) (vs : List ValueTree) (b : Bool) :
    v.tokens ++ .comma :: listTokens vs b = listTokens (v :: vs) (b || vs.isEmpty) := by
  cases vs with
  | nil => simp [listTokens, moreTokens, listEnd]
  | cons w vs => simp [listTokens, moreTokens]

/-- A token that stands for a value on its own is the derivation of that value. -/
theorem exists_of_literal? {t : Token} {v : Value} (h : t.literal? = some v) :
    ∃ d : ValueTree, d.tokens = [t] ∧ d.value = v := by
  cases t with
  | word s => exact ⟨word s, rfl, Option.some.inj h⟩
  | string s => exact ⟨string s, rfl, Option.some.inj h⟩
  | number n => exact ⟨number n, rfl, Option.some.inj h⟩
  | boolean b => exact ⟨boolean b, rfl, Option.some.inj h⟩
  | date d => exact ⟨date d, rfl, Option.some.inj h⟩
  | _ => cases h

end Grammar.ValueTree

namespace Parser

variable {p q r : Parser}

/-! ### Soundness -/

mutual

theorem parseValue_sound {p q : Parser} {v : Value} {lt : q.remaining < p.remaining}
    (h : p.parseValue = .done v q lt) : ∃ d : ValueTree, d.value = v ∧ p.Passes d.tokens 0 q := by
  cases hl : p.current.literal? with
  | some w =>
    rw [parseValue_of_literal? hl] at h
    obtain ⟨_, r, hr, hshift, hdone⟩ := Outcome.bind_eq_done_iff.1 h
    cases hdone
    obtain ⟨d, hd, hv⟩ := ValueTree.exists_of_literal? hl
    exact ⟨d, hv, hd ▸ passes_of_shift_eq_done hshift⟩
  | none =>
    by_cases hb : p.current = .openBracket
    · rw [parseValue_of_openBracket hb] at h
      obtain ⟨_, r, hr, hshift, hmembers⟩ := Outcome.bind_eq_done_iff.1 h
      obtain ⟨vs, b, hv, hpass⟩ := parseMembers_sound hmembers
      refine ⟨.ofMembers vs b, ?_, ?_⟩
      · rw [ValueTree.value_ofMembers, hv]; rfl
      · rw [ValueTree.tokens_ofMembers, ← hb]
        exact (passes_of_shift_eq_done hshift).trans hpass
    · rw [parseValue_of_ne hl hb] at h
      cases h
termination_by (p.remaining, 0)

theorem parseMembers_sound {bound : Nat} {members : List Value} {p q : Parser} {v : Value}
    {lt : p.remaining < bound} {lt' : q.remaining < bound}
    (h : parseMembers bound members p lt = .done v q lt') :
    ∃ vs b, v = .list (members.reverse ++ ValueTree.values vs) ∧
      p.Passes (ValueTree.listTokens vs b) 0 q := by
  by_cases hc : p.current = .closeBracket
  · rw [parseMembers_of_closeBracket hc] at h
    obtain ⟨_, r, hr, hexpect, hdone⟩ := Outcome.bind_eq_done_iff.1 h
    cases hdone
    exact ⟨[], false, by simp [ValueTree.values], passes_of_expect_eq_done hexpect⟩
  · rw [parseMembers_of_ne hc] at h
    obtain ⟨w, r, hr, hvalue, hrest⟩ := Outcome.bind_eq_done_iff.1 h
    obtain ⟨d, rfl, hd⟩ := parseValue_sound hvalue
    -- Only a comma leads to another round, so that the list may end behind one.
    split at hrest
    · next hrc =>
      rw [parseMembers_of_closeBracket hrc] at hrest
      obtain ⟨_, s, hs, hexpect, hdone⟩ := Outcome.bind_eq_done_iff.1 hrest
      cases hdone
      refine ⟨[d], false, by simp [ValueTree.values], ?_⟩
      rw [← ValueTree.append_closeBracket]
      exact hd.trans (passes_of_expect_eq_done hexpect)
    · obtain ⟨_, s, hs, hexpect, hmembers⟩ := Outcome.bind_eq_done_iff.1 hrest
      obtain ⟨vs, b, rfl, hvs⟩ := parseMembers_sound hmembers
      refine ⟨d :: vs, b || vs.isEmpty, by simp [ValueTree.values], ?_⟩
      rw [← ValueTree.append_comma]
      exact hd.trans ((passes_of_expect_eq_done hexpect).trans hvs)
termination_by (p.remaining, 1)

end

theorem parseOperand_sound {field operator : String} {c : Condition}
    {lt : q.remaining < p.remaining} (h : p.parseOperand field operator = .done c q lt) :
    ∃ d : ValueTree, c = .filter ⟨field, operator, d.value⟩ ∧ p.Passes d.tokens 1 q := by
  obtain ⟨v, r, hr, hvalue, hdone⟩ := Outcome.bind_eq_done_iff.1 h
  cases hdone
  obtain ⟨d, rfl, hd⟩ := parseValue_sound hvalue
  exact ⟨d, rfl, hd.count⟩

/-- A comparison is passed on as the operator that the grammar gives it. -/
theorem filter_of_comparison (field : String) (op : Comparison) (d : ValueTree) :
    FilterTree.filter ⟨field, some op, d⟩ = ⟨field, op.symbol, d.value⟩ := by
  cases op <;> rfl

theorem parseComparison_sound {field : String} {c : Condition} {lt : q.remaining < p.remaining}
    (h : p.parseComparison field = .done c q lt) :
    ∃ f : FilterTree, c = .filter f.filter ∧ f.field = field ∧
      p.Passes ((f.comparison.map Token.comparison).toList ++ f.value.tokens) 1 q := by
  by_cases hop : ∃ op, p.current = .comparison op
  · obtain ⟨op, hop⟩ := hop
    rw [parseComparison_of_comparison hop] at h
    obtain ⟨_, r, hr, hshift, h⟩ := Outcome.bind_eq_done_iff.1 h
    obtain ⟨c', s, hs, hoperand, hdone⟩ := Outcome.bind_eq_done_iff.1 h
    cases hdone
    obtain ⟨d, rfl, hd⟩ := parseOperand_sound hoperand
    have hcomparison := hop ▸ passes_of_shift_eq_done hshift
    exact ⟨⟨field, some op, d⟩, by rw [filter_of_comparison], rfl, hcomparison.trans hd⟩
  · rw [parseComparison_of_ne (not_exists.1 hop)] at h
    obtain ⟨d, rfl, hd⟩ := parseOperand_sound h
    exact ⟨⟨field, none, d⟩, rfl, rfl, hd⟩

theorem parseFilter_sound {c : Condition} {lt : q.remaining < p.remaining}
    (h : p.parseFilter = .done c q lt) :
    ∃ f : FilterTree, c = .filter f.filter ∧ p.Passes f.tokens 1 q := by
  by_cases hw : ∃ field, p.current = .word field
  · obtain ⟨field, hw⟩ := hw
    rw [parseFilter_of_word hw] at h
    obtain ⟨_, r, hr, hshift, h⟩ := Outcome.bind_eq_done_iff.1 h
    obtain ⟨_, s, hs, hcolon, h⟩ := Outcome.bind_eq_done_iff.1 h
    obtain ⟨c', t, ht, hcomparison, hdone⟩ := Outcome.bind_eq_done_iff.1 h
    cases hdone
    obtain ⟨f, rfl, rfl, hf⟩ := parseComparison_sound hcomparison
    have hword := hw ▸ passes_of_shift_eq_done hshift
    exact ⟨f, rfl, hword.trans ((passes_of_expect_eq_done hcolon).trans hf)⟩
  · rw [parseFilter_of_ne (not_exists.1 hw)] at h
    cases h

/-- Without a limit conditions are always joined. -/
theorem join_of_maxFilters_eq_zero (h : p.maxFilters = 0)
    (f : Condition → Condition → Condition) (left right : Condition) :
    p.join f left right = f left right := by
  simp [join, overLimit, h]

/-- The filters that a conjunction goes on with have derivations, and as many are counted as the
condition grows by. -/
theorem parseAndTail_sound {bound : Nat} {left c : Condition} {p q : Parser}
    {lt : p.remaining < bound} {lt' : q.remaining < bound} (hmax : p.maxFilters = 0)
    (h : parseAndTail bound left p lt = .done c q lt') :
    ∃ (more : List (Bool × FilterTree)) (n : Nat), c = more.foldl AndTree.join left ∧
      c.size = left.size + n ∧ p.Passes (more.flatMap AndTree.nextTokens) n q := by
  -- The two kinds of rounds differ in the `AND` only, which leaves no trace in the condition.
  by_cases ha : p.current = .and
  · rw [parseAndTail_of_and ha] at h
    obtain ⟨_, r, hr, hshift, h⟩ := Outcome.bind_eq_done_iff.1 h
    obtain ⟨right, s, hs, hfilter, h⟩ := Outcome.bind_eq_done_iff.1 h
    obtain ⟨f, rfl, hf⟩ := parseFilter_sound hfilter
    have hround := (ha ▸ passes_of_shift_eq_done hshift).trans hf
    have hsmax : s.maxFilters = 0 := hround.maxFilters_eq.trans hmax
    rw [join_of_maxFilters_eq_zero hsmax] at h
    obtain ⟨more, n, rfl, hsize, hmore⟩ := parseAndTail_sound hsmax h
    exact ⟨(true, f) :: more, 1 + n, rfl, hsize.trans (Nat.add_assoc _ _ _), hround.trans hmore⟩
  · cases hw : p.current.isWord with
    | true =>
      rw [parseAndTail_of_word hw] at h
      obtain ⟨right, s, hs, hfilter, h⟩ := Outcome.bind_eq_done_iff.1 h
      obtain ⟨f, rfl, hround⟩ := parseFilter_sound hfilter
      have hsmax : s.maxFilters = 0 := hround.maxFilters_eq.trans hmax
      rw [join_of_maxFilters_eq_zero hsmax] at h
      obtain ⟨more, n, rfl, hsize, hmore⟩ := parseAndTail_sound hsmax h
      exact ⟨(false, f) :: more, 1 + n, rfl, hsize.trans (Nat.add_assoc _ _ _),
        hround.trans hmore⟩
    | false =>
      rw [parseAndTail_of_ne ha hw] at h
      cases h
      exact ⟨[], 0, rfl, rfl, .refl p⟩
termination_by p.remaining

theorem parseAnd_sound {c : Condition} {lt : q.remaining < p.remaining} (hmax : p.maxFilters = 0)
    (h : p.parseAnd = .done c q lt) :
    ∃ a : AndTree, c = a.condition ∧ p.Passes a.tokens c.size q := by
  obtain ⟨left, r, hr, hfilter, htail⟩ := Outcome.bind_eq_done_iff.1 h
  obtain ⟨f, rfl, hf⟩ := parseFilter_sound hfilter
  obtain ⟨more, n, rfl, hsize, hmore⟩ := parseAndTail_sound (hf.maxFilters_eq.trans hmax) htail
  exact ⟨⟨f, more⟩, rfl, hsize ▸ hf.trans hmore⟩

/-- The alternatives that a disjunction goes on with have derivations, and as many filters are
counted as the condition grows by. -/
theorem parseOrTail_sound {bound : Nat} {left c : Condition} {p q : Parser}
    {lt : p.remaining < bound} {lt' : q.remaining < bound} (hmax : p.maxFilters = 0)
    (h : parseOrTail bound left p lt = .done c q lt') :
    ∃ (more : List AndTree) (n : Nat), c = more.foldl OrTree.join left ∧
      c.size = left.size + n ∧ p.Passes (more.flatMap OrTree.nextTokens) n q := by
  by_cases ho : p.current = .or
  · rw [parseOrTail_of_or ho] at h
    obtain ⟨_, r, hr, hshift, h⟩ := Outcome.bind_eq_done_iff.1 h
    obtain ⟨right, s, hs, hand, h⟩ := Outcome.bind_eq_done_iff.1 h
    have hor := ho ▸ passes_of_shift_eq_done hshift
    obtain ⟨a, rfl, ha⟩ := parseAnd_sound (hor.maxFilters_eq.trans hmax) hand
    have hround := hor.trans ha
    rw [Nat.zero_add] at hround
    have hsmax : s.maxFilters = 0 := hround.maxFilters_eq.trans hmax
    rw [join_of_maxFilters_eq_zero hsmax] at h
    obtain ⟨more, n, rfl, hsize, hmore⟩ := parseOrTail_sound hsmax h
    exact ⟨a :: more, a.condition.size + n, rfl, hsize.trans (Nat.add_assoc _ _ _),
      hround.trans hmore⟩
  · rw [parseOrTail_of_ne ho] at h
    cases h
    exact ⟨[], 0, rfl, rfl, .refl p⟩
termination_by p.remaining

theorem parseOr_sound {c : Condition} {lt : q.remaining < p.remaining} (hmax : p.maxFilters = 0)
    (h : p.parseOr = .done c q lt) :
    ∃ o : OrTree, c = o.condition ∧ p.Passes o.tokens c.size q := by
  obtain ⟨left, r, hr, hand, htail⟩ := Outcome.bind_eq_done_iff.1 h
  obtain ⟨a, rfl, ha⟩ := parseAnd_sound hmax hand
  obtain ⟨more, n, rfl, hsize, hmore⟩ := parseOrTail_sound (ha.maxFilters_eq.trans hmax) htail
  exact ⟨⟨a, more⟩, rfl, hsize ▸ ha.trans hmore⟩

/-- A query that was read has a derivation of all the tokens ahead, and no error ends them. -/
theorem parse_sound {c : Query} (hmax : p.maxFilters = 0) (h : p.parse = (.ok c, r)) :
    ∃ d : QueryTree, d.query = c ∧ p.ahead = d.tokens ∧ p.fault? = none := by
  unfold parse at h
  split at h
  · next hc =>
    cases h
    exact ⟨.empty, rfl, ahead_eq_nil_iff.2 hc, by rw [fault?, if_pos hc]⟩
  · split at h
    · cases (Prod.mk.inj h).1
    · next c' q hor =>
      obtain ⟨lt, hor⟩ := Outcome.result_eq_ok_iff.1 hor
      obtain ⟨o, rfl, ho⟩ := parseOr_sound hmax hor
      split at h
      · cases (Prod.mk.inj h).1
      · next s hend =>
        obtain ⟨hahead, hfault⟩ := ahead_of_expectEnd_eq_ok hend
        -- The number of filters is checked last and leaves the condition as it is.
        have hsize : c = some o.condition := by
          split at h
          · cases (Prod.mk.inj h).1
          · cases h; rfl
        subst hsize
        refine ⟨.condition o, rfl, ?_, ho.fault?_eq.trans hfault⟩
        rw [ho.ahead_eq, hahead, List.append_nil]
        rfl

/-! ### Completeness -/

theorem parseMembers_of_last {bound : Nat} {members : List Value} {lt : p.remaining < bound}
    {v : Value} {hq : q.remaining < p.remaining} (hc : p.current ≠ .closeBracket)
    (hv : p.parseValue = .done v q hq) (hqc : q.current = .closeBracket) :
    parseMembers bound members p lt =
      parseMembers bound (v :: members) q (Nat.lt_trans hq lt) := by
  rw [parseMembers_of_ne hc, hv]
  simp only [Outcome.bind]
  rw [if_pos hqc]

theorem parseMembers_of_comma {bound : Nat} {members : List Value} {lt : p.remaining < bound}
    {v : Value} {hq : q.remaining < p.remaining} {hr : r.remaining < q.remaining}
    (hc : p.current ≠ .closeBracket) (hv : p.parseValue = .done v q hq) (hqc : q.current = .comma)
    (hcomma : q.expect .comma (by simp) = .done () r hr) :
    parseMembers bound members p lt =
      parseMembers bound (v :: members) r (Nat.lt_trans hr (Nat.lt_trans hq lt)) := by
  rw [parseMembers_of_ne hc, hv]
  simp only [Outcome.bind]
  rw [if_neg (by simp [hqc]), hcomma]

/-- Wherever `d` lies ahead and is followed by more tokens or the end, it is read. -/
def ReadsValue (d : ValueTree) : Prop :=
  ∀ {p : Parser} {us : List Token}, p.Sees d.tokens us →
    ∃ q lt, p.parseValue = .done d.value q lt ∧ p.Passes d.tokens 0 q

/-- The loop over the members of a list reads all of them, if each of them is read. -/
theorem parseMembers_complete {bound : Nat} {vs : List ValueTree} {b : Bool} {us : List Token}
    (hvs : ∀ v ∈ vs, ReadsValue v) (members : List Value) {p : Parser} (lt : p.remaining < bound)
    (h : p.Sees (ValueTree.listTokens vs b) us) :
    ∃ q lt', parseMembers bound members p lt =
        .done (.list (members.reverse ++ ValueTree.values vs)) q lt' ∧
      p.Passes (ValueTree.listTokens vs b) 0 q := by
  -- A round changes the parser and the members read so far, and may drop the trailing comma.
  induction vs generalizing members p b with
  | nil =>
    obtain ⟨q, hq, hexpect, hpass⟩ := expect_of_sees (by simp) h
    refine ⟨q, Nat.lt_trans hq lt, ?_, hpass⟩
    rw [parseMembers_of_closeBracket h.current, hexpect]
    simp [Outcome.bind, ValueTree.values]
  | cons v vs ih =>
    have hmembers : (members.reverse ++ ValueTree.values (v :: vs)) =
        (v.value :: members).reverse ++ ValueTree.values vs := by simp [ValueTree.values]
    have hc : p.current ≠ .closeBracket := by
      obtain ⟨t, ts, hv, ht, -⟩ := v.exists_tokens_eq_cons
      have hsee := h.ahead_eq
      rw [ValueTree.listTokens, hv] at hsee
      rw [(current_of_ahead_eq_cons hsee).1]
      exact ht
    -- Behind a member comes either the closing bracket or a comma.
    by_cases hlast : vs = [] ∧ b = false
    · obtain ⟨rfl, rfl⟩ := hlast
      rw [← ValueTree.append_closeBracket] at h ⊢
      obtain ⟨q, hq, hvalue, hpass⟩ := hvs v (by simp) h.split
      obtain ⟨r, hr, hclose, hpass'⟩ := ih (b := false) (by simp) (v.value :: members)
        (Nat.lt_trans hq lt) (hpass.sees h)
      rw [hmembers]
      refine ⟨r, hr, ?_, hpass.trans hpass'⟩
      rw [parseMembers_of_last hc hvalue (hpass.sees h).current, hclose]
    · have hmore : (b || vs.isEmpty) = b := by
        cases b <;> cases vs <;> simp_all
      rw [← hmore, ← ValueTree.append_comma] at h ⊢
      obtain ⟨q, hq, hvalue, hpass⟩ := hvs v (by simp) h.split
      have hcomma := hpass.sees h
      obtain ⟨r, hr, hexpect, hpass'⟩ := expect_of_sees (by simp) hcomma
      obtain ⟨s, hs, hrest, hpass''⟩ := ih (fun w hw => hvs w (by simp [hw]))
        (v.value :: members) (Nat.lt_trans hr (Nat.lt_trans hq lt)) (hpass'.sees hcomma)
      rw [hmembers]
      refine ⟨s, hs, ?_, hpass.trans (hpass'.trans hpass'')⟩
      rw [parseMembers_of_comma hc hvalue hcomma.current hexpect, hrest]

theorem parseValue_of_sees_literal? {v : Value} {t : Token} {us : List Token}
    (ht : t.literal? = some v) (h : p.Sees [t] us) :
    ∃ q lt, p.parseValue = .done v q lt ∧ p.Passes [t] 0 q := by
  obtain rfl : p.current = t := h.current
  obtain ⟨q, hq, hshift, hpass⟩ := shift_of_sees .eof (ne_eof_of_literal? ht) h
  refine ⟨q, hq, ?_, hpass⟩
  rw [parseValue_of_literal? ht, hshift]
  rfl

theorem readsValue_ofMembers (vs : List ValueTree) (b : Bool) (hvs : ∀ v ∈ vs, ReadsValue v) :
    ReadsValue (.ofMembers vs b) := by
  intro p us h
  rw [ValueTree.tokens_ofMembers] at h ⊢
  rw [ValueTree.value_ofMembers]
  obtain ⟨q, hq, hshift, hpass⟩ := shift_of_sees .eof (by simp [h.current]) h
  obtain ⟨r, hr, hmembers, hpass'⟩ := parseMembers_complete hvs [] hq (hpass.sees h)
  refine ⟨r, hr, ?_, hpass.trans hpass'⟩
  rw [parseValue_of_openBracket h.current, hshift]
  exact hmembers

theorem parseValue_complete : (d : ValueTree) → ReadsValue d
  | .word s => parseValue_of_sees_literal? rfl
  | .string s => parseValue_of_sees_literal? rfl
  | .number n => parseValue_of_sees_literal? rfl
  | .date d => parseValue_of_sees_literal? rfl
  | .boolean b => parseValue_of_sees_literal? rfl
  | .emptyList => readsValue_ofMembers [] false (by simp)
  | .list first more trailing => by
    apply readsValue_ofMembers (first :: more) trailing
    simp only [List.mem_cons, forall_eq_or_imp]
    exact ⟨parseValue_complete first, fun v hv => parseValue_complete v⟩
termination_by d => d
decreasing_by
  · simp only [ValueTree.list.sizeOf_spec]
    omega
  · have hlt := List.sizeOf_lt_of_mem hv
    simp only [ValueTree.list.sizeOf_spec]
    omega

theorem parseOperand_complete {field operator : String} {d : ValueTree} {us : List Token}
    (h : p.Sees d.tokens us) :
    ∃ q lt, p.parseOperand field operator = .done (.filter ⟨field, operator, d.value⟩) q lt ∧
      p.Passes d.tokens 1 q := by
  obtain ⟨q, hq, hvalue, hpass⟩ := parseValue_complete d h
  refine ⟨{ q with filters := q.filters + 1 }, hq, ?_, hpass.count⟩
  rw [parseOperand, hvalue]
  rfl

theorem parseComparison_complete {f : FilterTree} {us : List Token}
    (h : p.Sees ((f.comparison.map Token.comparison).toList ++ f.value.tokens) us) :
    ∃ q lt, p.parseComparison f.field = .done (.filter f.filter) q lt ∧
      p.Passes ((f.comparison.map Token.comparison).toList ++ f.value.tokens) 1 q := by
  obtain ⟨field, comparison, d⟩ := f
  cases comparison with
  | some op =>
    have hop : p.current = .comparison op := h.current
    obtain ⟨q, hq, hshift, hpass⟩ := shift_of_sees p.current (by simp [hop]) h
    obtain ⟨r, hr, hoperand, hpass'⟩ := parseOperand_complete (hpass.sees h)
    refine ⟨r, Nat.lt_trans hr hq, ?_, hpass.trans hpass'⟩
    rw [parseComparison_of_comparison hop, hshift]
    simp only [Outcome.bind]
    rw [hoperand, filter_of_comparison]
  | none =>
    have hop : ∀ op, p.current ≠ .comparison op := by
      obtain ⟨t, ts, hd, -, ht⟩ := d.exists_tokens_eq_cons
      have hsee : p.ahead = d.tokens ++ us := h.ahead_eq
      rw [hd] at hsee
      rw [(current_of_ahead_eq_cons hsee).1]
      exact ht
    obtain ⟨q, hq, hoperand, hpass⟩ := parseOperand_complete (d := d) h
    exact ⟨q, hq, (parseComparison_of_ne hop).trans hoperand, hpass⟩

theorem parseFilter_complete {f : FilterTree} {us : List Token} (h : p.Sees f.tokens us) :
    ∃ q lt, p.parseFilter = .done (.filter f.filter) q lt ∧ p.Passes f.tokens 1 q := by
  have hw : p.current = .word f.field := h.current
  obtain ⟨q, hq, hshift, hpass⟩ := shift_of_sees .eof (by simp [hw]) h
  have hcolon := hpass.sees h
  obtain ⟨r, hr, hexpect, hpass'⟩ := expect_of_sees (by simp) hcolon
  obtain ⟨s, hs, hcomparison, hpass''⟩ := parseComparison_complete (hpass'.sees hcolon)
  refine ⟨s, by omega, ?_, hpass.trans (hpass'.trans hpass'')⟩
  rw [parseFilter_of_word hw, hshift]
  simp only [Outcome.bind]
  rw [hexpect]
  simp only
  rw [hcomparison]

/-- What stops a conjunction does not go on with it. -/
theorem current_of_stops {us : List Token} (hus : AndTree.Stops us) (h : p.ahead = us) :
    p.current ≠ .and ∧ p.current.isWord = false := by
  cases us with
  | nil => simp [ahead_eq_nil_iff.1 h, Token.isWord]
  | cons t ts =>
    obtain ⟨hand, hword⟩ := hus t rfl
    rw [(current_of_ahead_eq_cons h).1]
    refine ⟨hand, ?_⟩
    cases t with
    | word s => exact absurd rfl (hword s)
    | _ => rfl

/-- The filters that a conjunction goes on with are read, up to what stops it. -/
theorem parseAndTail_complete {bound : Nat} {more : List (Bool × FilterTree)} {us : List Token}
    (hus : AndTree.Stops us) (left : Condition) {p : Parser} (hmax : p.maxFilters = 0)
    (lt : p.remaining < bound) (h : p.Sees (more.flatMap AndTree.nextTokens) us) :
    ∃ q lt' n, parseAndTail bound left p lt = .done (more.foldl AndTree.join left) q lt' ∧
      p.Passes (more.flatMap AndTree.nextTokens) n q := by
  -- `us` stays fixed: it is what stops the last round, and so the loop.
  induction more generalizing left p with
  | nil =>
    obtain ⟨hand, hword⟩ := current_of_stops hus h.ahead_eq
    refine ⟨p, lt, 0, ?_, .refl p⟩
    exact parseAndTail_of_ne hand hword
  | cons next more ih =>
    obtain ⟨written, f⟩ := next
    rw [List.flatMap_cons] at h ⊢
    cases written with
    | true =>
      have ha : p.current = .and := h.current
      obtain ⟨q, hq, hshift, hpass⟩ := shift_of_sees p.current (by simp [ha]) h
      have hnext := hpass.sees h
      obtain ⟨r, hr, hfilter, hpass'⟩ := parseFilter_complete hnext.split
      have hrmax : r.maxFilters = 0 := (hpass.trans hpass').maxFilters_eq.trans hmax
      obtain ⟨s, hs, n, htail, hpass''⟩ := ih (.and left (.filter f.filter)) hrmax
        (by omega) (hpass'.sees hnext)
      refine ⟨s, hs, _, ?_, (hpass.trans hpass').trans hpass''⟩
      rw [parseAndTail_of_and ha, hshift]
      simp only [Outcome.bind]
      rw [hfilter]
      simp only
      rw [join_of_maxFilters_eq_zero hrmax, htail]
      rfl
    | false =>
      have hw : p.current = .word f.field := h.current
      obtain ⟨r, hr, hfilter, hpass⟩ := parseFilter_complete h.split
      have hrmax : r.maxFilters = 0 := hpass.maxFilters_eq.trans hmax
      obtain ⟨s, hs, n, htail, hpass'⟩ := ih (.and left (.filter f.filter)) hrmax
        (by omega) (hpass.sees h)
      refine ⟨s, hs, _, ?_, hpass.trans hpass'⟩
      rw [parseAndTail_of_word (by rw [hw]; rfl), hfilter]
      simp only [Outcome.bind]
      rw [join_of_maxFilters_eq_zero hrmax, htail]
      rfl

/-- A conjunction with a derivation is read, if what follows stops it. -/
theorem parseAnd_complete {a : AndTree} {us : List Token} (hus : AndTree.Stops us)
    (hmax : p.maxFilters = 0) (h : p.Sees a.tokens us) :
    ∃ q lt n, p.parseAnd = .done a.condition q lt ∧ p.Passes a.tokens n q := by
  obtain ⟨q, hq, hfilter, hpass⟩ := parseFilter_complete h.split
  obtain ⟨r, hr, n, htail, hpass'⟩ := parseAndTail_complete hus (.filter a.first.filter)
    (hpass.maxFilters_eq.trans hmax) hq (hpass.sees h)
  refine ⟨r, hr, _, ?_, hpass.trans hpass'⟩
  rw [parseAnd, hfilter]
  exact htail

/-- The alternatives that a disjunction goes on with are read, up to the end. -/
theorem parseOrTail_complete {bound : Nat} {more : List AndTree} (left : Condition) {p : Parser}
    (hmax : p.maxFilters = 0) (lt : p.remaining < bound)
    (h : p.Sees (more.flatMap OrTree.nextTokens) []) :
    ∃ q lt' n, parseOrTail bound left p lt = .done (more.foldl OrTree.join left) q lt' ∧
      p.Passes (more.flatMap OrTree.nextTokens) n q := by
  induction more generalizing left p with
  | nil =>
    have heof : p.current = .eof := ahead_eq_nil_iff.1 h.ahead_eq
    refine ⟨p, lt, 0, ?_, .refl p⟩
    exact parseOrTail_of_ne (by simp [heof])
  | cons a more ih =>
    rw [List.flatMap_cons] at h ⊢
    have ho : p.current = .or := h.current
    obtain ⟨q, hq, hshift, hpass⟩ := shift_of_sees p.current (by simp [ho]) h
    have hnext := hpass.sees h
    -- The conjunction stops at the next `OR` or at the end.
    have hstops : AndTree.Stops (more.flatMap OrTree.nextTokens ++ []) := by
      simpa using OrTree.stops_flatMap_nextTokens more
    obtain ⟨r, hr, m, hand, hpass'⟩ := parseAnd_complete hstops
      (hpass.maxFilters_eq.trans hmax) hnext.split
    have hrmax : r.maxFilters = 0 := (hpass.trans hpass').maxFilters_eq.trans hmax
    obtain ⟨s, hs, n, htail, hpass''⟩ := ih (.or left a.condition) hrmax (by omega)
      (hpass'.sees hnext)
    refine ⟨s, hs, _, ?_, (hpass.trans hpass').trans hpass''⟩
    rw [parseOrTail_of_or ho, hshift]
    simp only [Outcome.bind]
    rw [hand]
    simp only
    rw [join_of_maxFilters_eq_zero hrmax, htail]
    rfl

theorem parseOr_complete {o : OrTree} (hmax : p.maxFilters = 0) (h : p.Sees o.tokens []) :
    ∃ q lt n, p.parseOr = .done o.condition q lt ∧ p.Passes o.tokens n q := by
  obtain ⟨q, hq, m, hand, hpass⟩ := parseAnd_complete
    (by simpa using OrTree.stops_flatMap_nextTokens o.more) hmax h.split
  obtain ⟨r, hr, n, htail, hpass'⟩ := parseOrTail_complete o.first.condition
    (hpass.maxFilters_eq.trans hmax) hq (hpass.sees h)
  refine ⟨r, hr, _, ?_, hpass.trans hpass'⟩
  rw [parseOr, hand]
  exact htail

/-- A query with a derivation is read, if it is all that lies ahead. -/
theorem parse_complete {d : QueryTree} (hp : p.Synced) (hmax : p.maxFilters = 0)
    (h : p.ahead = d.tokens) (hfault : p.fault? = none) : p.parse.1 = .ok d.query := by
  unfold parse
  cases d with
  | empty => rw [if_pos (ahead_eq_nil_iff.1 h)]; rfl
  | condition o =>
    have hne : p.current ≠ .eof := by
      intro hc
      exact o.tokens_ne_nil (h.symm.trans (ahead_eq_nil_iff.2 hc))
    have hsees : p.Sees o.tokens [] := ⟨by rw [h, List.append_nil]; rfl, .inr hfault⟩
    obtain ⟨q, hq, n, hor, hpass⟩ := parseOr_complete hmax hsees
    have hend : q.ahead = [] := hpass.ahead_of_sees hsees
    have hqmax : q.maxFilters = 0 := hpass.maxFilters_eq.trans hmax
    rw [if_neg hne, hor]
    simp only [Outcome.result]
    rw [expectEnd_of_ahead_eq_nil hend (hpass.synced hp)]
    simp [overLimit, hqmax, QueryTree.query]

end Parser

/-! ### Which queries can be read -/

/-- A text is read as a query exactly if its tokens, among which there is no error, are those of a
derivation of the query. -/
theorem parseQuery_eq_ok_iff {source : String} {query : Query} :
    parseQuery source 0 = .ok query ↔
      ∃ d : QueryTree, (Lexer.ofSource source).tokens = (d.tokens, none) ∧ d.query = query := by
  cases hp : Parser.ofSource source 0 with
  | error e =>
    have hparse : parseQuery source 0 = .error e := by rw [parseQuery, hp]; rfl
    obtain ⟨e', -, htokens⟩ := Parser.ofSource_eq_error hp
    simp [hparse, htokens]
  | ok p =>
    have hparse : parseQuery source 0 = p.parse.1 := by rw [parseQuery, hp]; rfl
    obtain ⟨htokens, hsynced, hmax, -⟩ := Parser.ofSource_eq_ok hp
    rw [hparse, htokens]
    constructor
    · intro h
      obtain ⟨d, hd, hahead, hfault⟩ := Parser.parse_sound hmax (Prod.ext h rfl)
      exact ⟨d, by rw [hahead, hfault], hd⟩
    · rintro ⟨d, hd, rfl⟩
      obtain ⟨hahead, hfault⟩ := Prod.mk.inj hd
      exact Parser.parse_complete hsynced hmax hahead hfault

/-- The parser accepts exactly the grammar and builds the one right tree. -/
theorem parseQuery_iff_unique_derivation :
    (∀ (source : String) (query : Query), parseQuery source 0 = .ok query ↔
      ∃ d : QueryTree, (Lexer.ofSource source).tokens = (d.tokens, none) ∧ d.query = query) ∧
    ∀ d d' : QueryTree, d.tokens = d'.tokens → d = d' :=
  ⟨fun _ _ => parseQuery_eq_ok_iff, fun _ _ => QueryTree.tokens_injective⟩

end FilterQuery
