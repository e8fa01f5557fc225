import FilterQuery.Proofs.Parsing.Repetition

/-!
# How far a tree grows under a limit

A parser with a limit goes on reading when it has read too many filters, but the trees that it holds
do not grow any more. They are followed from one loop head to the next: `AtHead` relates a parser to
the heads of the loops of `parseAnd` and `parseOr` that it passes, with the conditions that the two
hold there.

At every head each of these conditions has at most as many filters as the limit allows. While the
limit is not passed they have together as many filters as were counted since the start. When it is
passed this is no longer so: an alternative that begins behind the limit starts with a filter of its
own, which is counted and held, but never joined to the others.
-/

namespace FilterQuery

namespace Parser

/-! ### The heads of the loops -/

/-- What is held at the head of a loop. In the loop of `parseAnd` it is the conjunction read so far
and the alternatives that `parseOr` has read before it, if this is not the first conjunction; in the
loop of `parseOr` it is what that has read so far. -/
inductive Head
  | inAnd (alternatives : Option Condition) (conjunction : Condition)
  | inOr (alternatives : Condition)

namespace Head

/-- The conditions that are held. -/
def trees : Head → List Condition
  | inAnd alternatives conjunction => alternatives.toList ++ [conjunction]
  | inOr alternatives => [alternatives]

/-- The number of filters of the conditions together. -/
def size : Head → Nat
  | inAnd alternatives conjunction => alternatives.elim 0 Condition.size + conjunction.size
  | inOr alternatives => alternatives.size

end Head

/-- `p` goes on with a conjunction: it reads the filter `right`, with or without `AND` before it,
and comes to `r`. -/
inductive ReadsNext (p : Parser) (right : Condition) (r : Parser) : Prop
  | written {q : Parser} {hne : p.current ≠ .eof} {hq : q.remaining < p.remaining}
    {hr : r.remaining < q.remaining} (hand : p.current = .and)
    (hshift : p.shift p.current hne = .done () q hq) (hfilter : q.parseFilter = .done right r hr)
  | beside {hr : r.remaining < p.remaining} (hword : p.current.isWord = true)
    (hfilter : p.parseFilter = .done right r hr)

/-- Nothing at `p` goes on with a conjunction. -/
def EndsAnd (p : Parser) : Prop := p.current ≠ .and ∧ p.current.isWord = false

/-- The heads of the loops of `parseOr` and `parseAnd` that are passed when alternatives are read
from `start` on, with the parser as it is there. -/
inductive AtHead (start : Parser) : Head → Parser → Prop
  /-- The first filter is read. -/
  | first {q : Parser} {c : Condition} {hq : q.remaining < start.remaining}
    (hfilter : start.parseFilter = .done c q hq) : AtHead start (.inAnd none c) q
  /-- A conjunction goes on. -/
  | next {p r : Parser} {alternatives : Option Condition} {left right : Condition}
    (hp : AtHead start (.inAnd alternatives left) p) (hnext : p.ReadsNext right r) :
    AtHead start (.inAnd alternatives (r.join .and left right)) r
  /-- The first conjunction ends. -/
  | firstEnds {p : Parser} {left : Condition} (hp : AtHead start (.inAnd none left) p)
    (hend : p.EndsAnd) : AtHead start (.inOr left) p
  /-- Another conjunction ends, and is joined to the alternatives before it. -/
  | laterEnds {p : Parser} {left right : Condition}
    (hp : AtHead start (.inAnd (some left) right) p) (hend : p.EndsAnd) :
    AtHead start (.inOr (p.join .or left right)) p
  /-- Behind an `OR` the first filter of another conjunction is read. -/
  | later {p q r : Parser} {left c : Condition} {hne : p.current ≠ .eof}
    {hq : q.remaining < p.remaining} {hr : r.remaining < q.remaining}
    (hp : AtHead start (.inOr left) p) (hor : p.current = .or)
    (hshift : p.shift p.current hne = .done () q hq) (hfilter : q.parseFilter = .done c r hr) :
    AtHead start (.inAnd (some left) c) r

variable {start p q r : Parser} {left right c : Condition} {alternatives : Option Condition}

/-! ### Where the loops end -/

/-- What a conjunction gives is what it holds at its last head. -/
theorem AtHead.of_parseAndTail {bound : Nat} {p : Parser} {left : Condition}
    {lt : p.remaining < bound} {lt' : q.remaining < bound}
    (hp : start.AtHead (.inAnd alternatives left) p)
    (h : parseAndTail bound left p lt = .done c q lt') :
    start.AtHead (.inAnd alternatives c) q ∧ q.EndsAnd := by
  by_cases ha : p.current = .and
  · rw [parseAndTail_of_and ha] at h
    obtain ⟨_, r, hr, hshift, h⟩ := Outcome.bind_eq_done_iff.1 h
    obtain ⟨right, s, hs, hfilter, h⟩ := Outcome.bind_eq_done_iff.1 h
    exact of_parseAndTail (hp.next (.written ha hshift hfilter)) h
  · cases hw : p.current.isWord with
    | true =>
      rw [parseAndTail_of_word hw] at h
      obtain ⟨right, s, hs, hfilter, h⟩ := Outcome.bind_eq_done_iff.1 h
      exact of_parseAndTail (hp.next (.beside hw hfilter)) h
    | false =>
      rw [parseAndTail_of_ne ha hw] at h
      cases h
      exact ⟨hp, ha, hw⟩
termination_by p.remaining

theorem atHead_of_parseAnd {lt : q.remaining < p.remaining} (h : p.parseAnd = .done c q lt) :
    p.AtHead (.inAnd none c) q ∧ q.EndsAnd := by
  obtain ⟨left, r, hr, hfilter, htail⟩ := Outcome.bind_eq_done_iff.1 h
  exact (AtHead.first hfilter).of_parseAndTail htail

/-- What alternatives give is what they hold at their last head. -/
theorem AtHead.of_parseOrTail {bound : Nat} {p : Parser} {left : Condition}
    {lt : p.remaining < bound} {lt' : q.remaining < bound} (hp : start.AtHead (.inOr left) p)
    (h : parseOrTail bound left p lt = .done c q lt') : start.AtHead (.inOr c) q := by
  by_cases ho : p.current = .or
  · rw [parseOrTail_of_or ho] at h
    obtain ⟨_, r, hr, hshift, h⟩ := Outcome.bind_eq_done_iff.1 h
    obtain ⟨right, s, hs, hand, h⟩ := Outcome.bind_eq_done_iff.1 h
    obtain ⟨first, t, ht, hfilter, htail⟩ := Outcome.bind_eq_done_iff.1 hand
    obtain ⟨hs, hend⟩ := (hp.later ho hshift hfilter).of_parseAndTail htail
    exact of_parseOrTail (hs.laterEnds hend) h
  · rw [parseOrTail_of_ne ho] at h
    cases h
    exact hp
termination_by p.remaining

theorem atHead_of_parseOr {lt : q.remaining < p.remaining} (h : p.parseOr = .done c q lt) :
    p.AtHead (.inOr c) q := by
  obtain ⟨left, r, hr, hand, htail⟩ := Outcome.bind_eq_done_iff.1 h
  obtain ⟨hr, hend⟩ := atHead_of_parseAnd hand
  exact (hr.firstEnds hend).of_parseOrTail htail

/-! ### From one head to the next -/

theorem parseFilter_counts {lt : q.remaining < p.remaining} (h : p.parseFilter = .done c q lt) :
    c.size = 1 ∧ q.filters = p.filters + 1 ∧ q.maxFilters = p.maxFilters := by
  obtain ⟨f, rfl, hpass⟩ := parseFilter_sound h
  exact ⟨rfl, hpass.filters_eq, hpass.maxFilters_eq⟩

theorem ReadsNext.counts (h : p.ReadsNext right r) :
    right.size = 1 ∧ r.filters = p.filters + 1 ∧ r.maxFilters = p.maxFilters := by
  cases h with
  | written _ hshift hfilter =>
    obtain ⟨hsize, hfilters, hmax⟩ := parseFilter_counts hfilter
    have hpass := passes_of_shift_eq_done hshift
    exact ⟨hsize, by rw [hfilters, hpass.filters_eq], hmax.trans hpass.maxFilters_eq⟩
  | beside _ hfilter => exact parseFilter_counts hfilter

theorem join_of_filters_le (h : p.filters ≤ p.maxFilters) (f : Condition → Condition → Condition)
    (left right : Condition) : p.join f left right = f left right := by
  simp [join, overLimit, Nat.not_lt.2 h]

theorem join_of_maxFilters_lt (hpos : 0 < p.maxFilters) (h : p.maxFilters < p.filters)
    (f : Condition → Condition → Condition) (left right : Condition) :
    p.join f left right = left := by
  simp [join, overLimit, h, Nat.ne_of_gt hpos]

/-- What is known at each head of a run from `start` on: the limit is still the same and no
condition that is held exceeds it, and as long as it is not passed the filters held are those
counted. -/
structure Accounts (start : Parser) (head : Head) (q : Parser) : Prop where
  maxFilters_eq : q.maxFilters = start.maxFilters
  size_le : ∀ c ∈ head.trees, c.size ≤ start.maxFilters
  size_eq : q.filters ≤ start.maxFilters → start.filters + head.size = q.filters

theorem forall_mem_trees_inAnd {P : Condition → Prop} :
    (∀ c ∈ (Head.inAnd alternatives left).trees, P c) ↔ (∀ c ∈ alternatives, P c) ∧ P left := by
  simp [Head.trees, or_imp, forall_and]

/-- A filter joins its conjunction while the limit is not passed, and is dropped from then on. -/
theorem Accounts.next (h : start.Accounts (.inAnd alternatives left) p)
    (hpos : 0 < start.maxFilters) (hnext : p.ReadsNext right r) :
    start.Accounts (.inAnd alternatives (r.join .and left right)) r := by
  obtain ⟨hright, hfilters, hmax⟩ := hnext.counts
  have hrmax : r.maxFilters = start.maxFilters := hmax.trans h.maxFilters_eq
  obtain ⟨halternatives, hleft⟩ := forall_mem_trees_inAnd.1 h.size_le
  have hsize := h.size_eq
  simp only [Head.size] at hsize
  by_cases hlimit : r.filters ≤ start.maxFilters
  · rw [join_of_filters_le (hrmax ▸ hlimit)]
    refine ⟨hrmax, forall_mem_trees_inAnd.2 ⟨halternatives, ?_⟩, fun _ => ?_⟩
    · rw [Condition.size]
      omega
    · simp only [Head.size, Condition.size]
      omega
  · rw [join_of_maxFilters_lt (hrmax ▸ hpos) (by omega)]
    exact ⟨hrmax, h.size_le, fun hle => absurd hle hlimit⟩

theorem Accounts.laterEnds (h : start.Accounts (.inAnd (some left) right) p)
    (hpos : 0 < start.maxFilters) : start.Accounts (.inOr (p.join .or left right)) p := by
  have hpmax := h.maxFilters_eq
  have hsize := h.size_eq
  simp only [Head.size, Option.elim] at hsize
  by_cases hlimit : p.filters ≤ start.maxFilters
  · rw [join_of_filters_le (hpmax ▸ hlimit)]
    refine ⟨hpmax, ?_, fun _ => ?_⟩
    · simp only [Head.trees, List.mem_singleton, forall_eq, Condition.size]
      omega
    · simp only [Head.size, Condition.size]
      omega
  · rw [join_of_maxFilters_lt (hpmax ▸ hpos) (by omega)]
    refine ⟨hpmax, ?_, fun hle => absurd hle hlimit⟩
    simpa [Head.trees] using (forall_mem_trees_inAnd.1 h.size_le).1

/-- An alternative starts with one filter, also when the limit is passed. -/
theorem Accounts.later {hne : p.current ≠ .eof} {hq : q.remaining < p.remaining}
    {hr : r.remaining < q.remaining} (h : start.Accounts (.inOr left) p)
    (hpos : 0 < start.maxFilters) (hshift : p.shift p.current hne = .done () q hq)
    (hfilter : q.parseFilter = .done c r hr) : start.Accounts (.inAnd (some left) c) r := by
  obtain ⟨hc, hfilters, hmax⟩ := parseFilter_counts hfilter
  have hpass := passes_of_shift_eq_done hshift
  have hqfilters := hpass.filters_eq
  have hsize := h.size_eq
  simp only [Head.size] at hsize
  refine ⟨hmax.trans (hpass.maxFilters_eq.trans h.maxFilters_eq), ?_, fun hle => ?_⟩
  · refine forall_mem_trees_inAnd.2 ⟨?_, by omega⟩
    simpa [Head.trees] using h.size_le
  · simp only [Head.size, Option.elim]
    omega

/-! ### All heads -/

theorem AtHead.accounts {head : Head} (hpos : 0 < start.maxFilters) (h : start.AtHead head q) :
    start.Accounts head q := by
  induction h with
  | first hfilter =>
    obtain ⟨hc, hfilters, hmax⟩ := parseFilter_counts hfilter
    refine ⟨hmax, forall_mem_trees_inAnd.2 ⟨nofun, by omega⟩, fun _ => ?_⟩
    simp only [Head.size, Option.elim]
    omega
  | next _ hnext ih => exact ih.next hpos hnext
  | firstEnds _ _ ih =>
    exact ⟨ih.maxFilters_eq, by simpa [Head.trees] using ih.size_le, by
      simpa [Head.size] using ih.size_eq⟩
  | laterEnds _ _ ih => exact ih.laterEnds hpos
  | later _ _ hshift hfilter ih => exact ih.later hpos hshift hfilter

theorem size_le_of_parseFilter {lt : q.remaining < p.remaining} (hpos : 0 < p.maxFilters)
    (h : p.parseFilter = .done c q lt) : c.size ≤ p.maxFilters := by
  have hsize := (parseFilter_counts h).1
  omega

theorem size_le_of_parseAnd {lt : q.remaining < p.remaining} (hpos : 0 < p.maxFilters)
    (h : p.parseAnd = .done c q lt) : c.size ≤ p.maxFilters :=
  ((atHead_of_parseAnd h).1.accounts hpos).size_le c (by simp [Head.trees])

theorem size_le_of_parseOr {lt : q.remaining < p.remaining} (hpos : 0 < p.maxFilters)
    (h : p.parseOr = .done c q lt) : c.size ≤ p.maxFilters :=
  ((atHead_of_parseOr h).accounts hpos).size_le c (by simp [Head.trees])

/-- The limit of a parser stays as it is, whatever it answers. -/
theorem maxFilters_parse (p : Parser) : p.parse.2.maxFilters = p.maxFilters := by
  by_cases hc : p.current = .eof
  · rw [parse_of_eof hc]
  -- A reading with the limit leads to the parser that one without it leads to, but for the limit.
  have hagrees : (p.withMax 0).parseOr.Agrees p.maxFilters (EqualWithin p.maxFilters) p.parseOr :=
    parseOr_agrees (p.withMax 0) rfl
  generalize (p.withMax 0).parseOr = o at hagrees
  generalize hor : p.parseOr = o' at hagrees
  cases hagrees with
  | done => rw [(parse_of_parseOr_eq_done hc hor).1, withMax]
  | fail => rw [parse_of_fail hc hor, withMax]

theorem maxFilters_after (p : Parser) (k : Nat) : (p.after k).maxFilters = p.maxFilters := by
  induction k with
  | zero => rfl
  | succ k ih => rw [after_succ, maxFilters_parse, ih]

/-- A filter of two words, with the token behind it. -/
theorem result_parseFilter_of_words {l l' l'' m : Lexer} {field value : String} {t : Token}
    {max n : Nat} (hcolon : l.next = (.ok .colon, l'))
    (hvalue : l'.next = (.ok (.word value), l'')) (hnext : l''.next = (.ok t, m)) :
    (Parser.mk l (.word field) max n).parseFilter.result =
      (.ok (.filter ⟨field, defaultOperator, .string value⟩), ⟨m, t, max, n + 1⟩) := by
  rw [parseFilter_of_word rfl, shift_of_next_ok hcolon]
  simp only [Outcome.bind]
  rw [expect_of_eq rfl, shift_of_next_ok hvalue]
  simp only
  rw [parseComparison_of_ne (by simp), parseOperand, parseValue_of_literal? rfl,
    shift_of_next_ok hnext]
  rfl

end Parser

/-- However many filters a text holds, a parser with a limit never builds a tree with more filters
than allowed: not when it reads a filter, a conjunction or alternatives, whatever state it is in,
and not at the heads of its loops, in any of its calls. In the first call the filters of the trees
held at the head of a loop are all the filters counted, as long as these are not too many. -/
theorem limit_bounds_trees {source : String} {max : Nat} {p : Parser} (hmax : 1 ≤ max)
    (h : Parser.ofSource source max = .ok p) :
    (∀ q : Parser, q.maxFilters = max →
      (∀ c r lt, q.parseFilter = .done c r lt → c.size ≤ max) ∧
      (∀ c r lt, q.parseAnd = .done c r lt → c.size ≤ max) ∧
      ∀ c r lt, q.parseOr = .done c r lt → c.size ≤ max ∧ q.AtHead (.inOr c) r) ∧
    (∀ k, (p.after k).maxFilters = max ∧
      ∀ head q, (p.after k).AtHead head q → q.maxFilters = max ∧ ∀ c ∈ head.trees, c.size ≤ max) ∧
    ∀ head q, p.AtHead head q → q.filters ≤ max → head.size = q.filters := by
  obtain ⟨-, -, hpmax, hpfilters⟩ := Parser.ofSource_eq_ok h
  refine ⟨?_, ?_, ?_⟩
  · rintro q rfl
    refine ⟨?_, ?_, ?_⟩
    · intro c r lt hfilter
      exact Parser.size_le_of_parseFilter hmax hfilter
    · intro c r lt hand
      exact Parser.size_le_of_parseAnd hmax hand
    · intro c r lt hor
      exact ⟨Parser.size_le_of_parseOr hmax hor, Parser.atHead_of_parseOr hor⟩
  · intro k
    have hk : (p.after k).maxFilters = max := (p.maxFilters_after k).trans hpmax
    refine ⟨hk, ?_⟩
    intro head q hhead
    have haccounts := hhead.accounts (hk ▸ hmax)
    exact ⟨haccounts.maxFilters_eq.trans hk, hk ▸ haccounts.size_le⟩
  · intro head q hhead hle
    have hsize := (hhead.accounts (hpmax ▸ hmax)).size_eq (hpmax ▸ hle)
    omega

/-- The limit is passed at the third filter, which starts an alternative of its own. It is counted,
but the tree stays with the two filters of the first conjunction, which were all that was counted
when they were read. -/
theorem limit_bounds_trees_of_late_alternative :
    let c : Condition :=
      .and (.filter ⟨"a", "default", .string "x"⟩) (.filter ⟨"b", "default", .string "y"⟩)
    ∃ p q r lt, Parser.ofSource "a:x b:y OR c:z" 2 = .ok p ∧
      (p.AtHead (.inOr c) q ∧ q.filters = 2 ∧ (Parser.Head.inOr c).size = q.filters) ∧
      p.parseOr = .done c r lt ∧ r.filters = 3 ∧ c.size ≤ 2 := by
  intro c
  let p : Parser :=
    ⟨⟨[':', 'x', ' ', 'b', ':', 'y', ' ', 'O', 'R', ' ', 'c', ':', 'z'], 1⟩, .word "a", 2, 0⟩
  let p₁ : Parser := ⟨⟨[':', 'y', ' ', 'O', 'R', ' ', 'c', ':', 'z'], 5⟩, .word "b", 2, 1⟩
  let p₂ : Parser := ⟨⟨[' ', 'c', ':', 'z'], 10⟩, .or, 2, 2⟩
  let p₃ : Parser := ⟨⟨[':', 'z'], 12⟩, .word "c", 2, 2⟩
  let p₄ : Parser := ⟨⟨[], 14⟩, .eof, 2, 3⟩
  have hstart : Parser.ofSource "a:x b:y OR c:z" 2 = .ok p := rfl
  have hnext : (Lexer.mk [' ', 'c', ':', 'z'] 10).next = (.ok (.word "c"), ⟨[':', 'z'], 12⟩) := rfl
  obtain ⟨_, ha⟩ : ∃ lt, p.parseFilter = .done (.filter ⟨"a", "default", .string "x"⟩) p₁ lt :=
    Parser.Outcome.result_eq_ok_iff.1 (Parser.result_parseFilter_of_words rfl rfl rfl)
  obtain ⟨_, hb⟩ : ∃ lt, p₁.parseFilter = .done (.filter ⟨"b", "default", .string "y"⟩) p₂ lt :=
    Parser.Outcome.result_eq_ok_iff.1 (Parser.result_parseFilter_of_words rfl rfl rfl)
  obtain ⟨_, hc⟩ : ∃ lt, p₃.parseFilter = .done (.filter ⟨"c", "default", .string "z"⟩) p₄ lt :=
    Parser.Outcome.result_eq_ok_iff.1 (Parser.result_parseFilter_of_words rfl rfl rfl)
  have hhead : p.AtHead (.inOr c) p₂ :=
    ((Parser.AtHead.first ha).next (.beside rfl hb)).firstEnds ⟨by simp [p₂], rfl⟩
  have hresult : p.parseOr.result = (.ok c, p₄) := by
    rw [Parser.parseOr, Parser.parseAnd, ha]
    simp only [Parser.Outcome.bind]
    rw [Parser.parseAndTail_of_word rfl, hb]
    simp only [Parser.Outcome.bind]
    rw [Parser.parseAndTail_of_ne (by simp [p₂]) rfl]
    simp only
    rw [Parser.parseOrTail_of_or rfl, Parser.shift_of_next_ok hnext]
    simp only [Parser.Outcome.bind]
    rw [Parser.parseAnd, hc]
    simp only [Parser.Outcome.bind]
    rw [Parser.parseAndTail_of_ne (by simp [p₄]) rfl]
    simp only
    rw [Parser.parseOrTail_of_ne (by simp [p₄])]
    rfl
  obtain ⟨lt, hor⟩ := Parser.Outcome.result_eq_ok_iff.1 hresult
  obtain ⟨hsizes, -, hcounts⟩ := limit_bounds_trees (by decide) hstart
  exact ⟨p, p₂, p₄, lt, hstart, ⟨hhead, rfl, hcounts _ p₂ hhead (by decide)⟩, hor, rfl,
    ((hsizes p rfl).2.2 c p₄ lt hor).1⟩

end FilterQuery
