import FilterQuery.Proofs.Lexing.Positions
import FilterQuery.Proofs.Parsing.Limit

/-!
# A parser that is called again

A parser keeps its state from one call of `parse` to the next, also when the call has failed. A call
does something only if the parser looks at a word: otherwise it fails at once, or has come to the
end, and leaves everything as it is (`parse_of_not_isWord`). A call that starts at a word passes
over it and never comes back, so that there are fewer words left behind it (`wordsLeft_parse_lt`).
Hence the calls come to rest, and a parser that has answered with a query or with an error of the
lexer has come to rest already.

What a failure leaves behind is followed through the parts of the parser with `Outcome.Leaves`.
-/

namespace FilterQuery

theorem Token.ne_eof_of_isWord {t : Token} (h : t.isWord = true) : t ≠ .eof := by
  rintro rfl
  cases h

theorem Token.isWord_eq_false_iff {t : Token} : t.isWord = false ↔ ∀ text, t ≠ .word text := by
  cases t <;> simp [isWord]

namespace Parser

variable {p q : Parser} {size m n : Nat} {t : Token} {α β : Type}

/-! ### Words that are left -/

/-- The number of words left, at most: a character for each, and the current one. -/
def wordsLeft (p : Parser) : Nat := p.lexer.rest.length + (if p.current.isWord then 1 else 0)

theorem wordsLeft_of_not_isWord (h : p.current.isWord = false) :
    p.wordsLeft = p.lexer.rest.length := by
  simp [wordsLeft, h]

theorem wordsLeft_of_isWord (h : p.current.isWord = true) :
    p.wordsLeft = p.lexer.rest.length + 1 := by
  simp [wordsLeft, h]

theorem wordsLeft_le_remaining (p : Parser) : p.wordsLeft ≤ p.remaining := by
  unfold wordsLeft remaining
  split
  · next h => exact Nat.le_of_eq (by rw [if_neg (Token.ne_eof_of_isWord h)])
  · omega

theorem length_rest_le_wordsLeft (p : Parser) : p.lexer.rest.length ≤ p.wordsLeft :=
  Nat.le_add_right _ _

/-- Where fewer tokens are left, one has been passed over, and no word in front of it is left. -/
theorem wordsLeft_le_of_remaining_lt (hlt : q.remaining < p.remaining)
    (h : p.lexer.rest.length ≤ size) : q.wordsLeft ≤ size := by
  have hq := wordsLeft_le_remaining q
  have hp : p.remaining ≤ p.lexer.rest.length + 1 := by
    unfold remaining
    split <;> omega
  omega

theorem length_rest_le_of_remaining_lt (hlt : q.remaining < p.remaining)
    (h : p.lexer.rest.length ≤ size) : q.lexer.rest.length ≤ size :=
  Nat.le_trans (length_rest_le_wordsLeft q) (wordsLeft_le_of_remaining_lt hlt h)

/-! ### What a failure leaves behind -/

/-- If the reading has failed, then at most `size` words are left, and after an error of the lexer
the parser does not look at one. -/
def Outcome.Leaves (size : Nat) : Outcome n α → Prop
  | done _ _ _ => True
  | fail e q => q.wordsLeft ≤ size ∧ ∀ e', e = .lex e' → q.current.isWord = false

theorem Outcome.Leaves.bind {o : Outcome m α}
    {f : α → (p : Parser) → p.remaining < m → Outcome n β} (h : o.Leaves size)
    (hf : ∀ a q hq, (f a q hq).Leaves size) : (o.bind f).Leaves size := by
  cases o with
  | done a q hq => exact hf a q hq
  | fail e q => exact h

theorem leaves_unexpected {expected : Expected} (h : p.wordsLeft ≤ size) :
    (Outcome.fail (.unexpectedToken expected t) p : Outcome n α).Leaves size :=
  ⟨h, nofun⟩

theorem shift_leaves {fallback : Token} (hne : p.current ≠ .eof) (hw : fallback.isWord = false)
    (h : p.lexer.rest.length ≤ size) : (p.shift fallback hne).Leaves size := by
  rcases hn : p.lexer.next with ⟨e | t, l⟩
  · -- The lexer has moved although it failed; the parser now looks at the fallback.
    rw [shift_of_next_error hn]
    refine ⟨?_, fun _ _ => hw⟩
    have hlength := p.lexer.length_rest_next_le
    rw [wordsLeft_of_not_isWord hw]
    rw [hn] at hlength
    exact Nat.le_trans hlength h
  · rw [shift_of_next_ok hn]
    trivial

theorem expect_leaves (ht : t ≠ .eof) (hw : t.isWord = false) (h : p.wordsLeft ≤ size) :
    (p.expect t ht).Leaves size := by
  by_cases hc : p.current = t
  · rw [expect_of_eq hc]
    exact shift_leaves _ (hc ▸ hw) (Nat.le_trans (length_rest_le_wordsLeft p) h)
  · rw [expect_of_ne hc]
    exact leaves_unexpected h

mutual

theorem parseValue_leaves (p : Parser) (h : p.lexer.rest.length ≤ size) :
    p.parseValue.Leaves size := by
  cases hl : p.current.literal? with
  | some v =>
    rw [parseValue_of_literal? hl]
    exact (shift_leaves _ rfl h).bind fun _ _ _ => trivial
  | none =>
    by_cases hb : p.current = .openBracket
    · rw [parseValue_of_openBracket hb]
      apply (shift_leaves _ rfl h).bind
      intro _ q hq
      exact parseMembers_leaves [] q hq (length_rest_le_of_remaining_lt hq h)
    · rw [parseValue_of_ne hl hb]
      have hw : p.current.isWord = false := by
        rw [Token.isWord_eq_false_iff]
        intro text hc
        rw [hc] at hl
        cases hl
      apply leaves_unexpected
      rwa [wordsLeft_of_not_isWord hw]
termination_by (p.remaining, 0)

theorem parseMembers_leaves {bound : Nat} (members : List Value) (p : Parser)
    (lt : p.remaining < bound) (h : p.lexer.rest.length ≤ size) :
    (parseMembers bound members p lt).Leaves size := by
  by_cases hc : p.current = .closeBracket
  · have hp : p.wordsLeft ≤ size := by
      rwa [wordsLeft_of_not_isWord (by rw [hc]; rfl)]
    rw [parseMembers_of_closeBracket hc]
    exact (expect_leaves _ rfl hp).bind fun _ _ _ => trivial
  · rw [parseMembers_of_ne hc]
    apply (parseValue_leaves p h).bind
    intro v q hq
    have hq' : q.wordsLeft ≤ size := wordsLeft_le_of_remaining_lt hq h
    have hrest : q.lexer.rest.length ≤ size := Nat.le_trans (length_rest_le_wordsLeft q) hq'
    split
    · exact parseMembers_leaves _ q _ hrest
    · apply (expect_leaves _ rfl hq').bind
      intro _ r hr
      exact parseMembers_leaves _ r _ (length_rest_le_of_remaining_lt hr hrest)
termination_by (p.remaining, 1)

end

theorem parseOperand_leaves (field operator : String) (h : p.lexer.rest.length ≤ size) :
    (p.parseOperand field operator).Leaves size := by
  rw [parseOperand]
  exact (parseValue_leaves p h).bind fun _ _ _ => trivial

theorem parseComparison_leaves (field : String) (h : p.lexer.rest.length ≤ size) :
    (p.parseComparison field).Leaves size := by
  by_cases hop : ∃ op, p.current = .comparison op
  · obtain ⟨op, hop⟩ := hop
    rw [parseComparison_of_comparison hop]
    apply (shift_leaves _ (by rw [hop]; rfl) h).bind
    intro _ q hq
    have hrest := length_rest_le_of_remaining_lt hq h
    exact (parseOperand_leaves field _ hrest).bind fun _ _ _ => trivial
  · rw [parseComparison_of_ne (not_exists.1 hop)]
    exact parseOperand_leaves field _ h

theorem parseFilter_leaves (h : p.lexer.rest.length ≤ size) : p.parseFilter.Leaves size := by
  by_cases hw : ∃ field, p.current = .word field
  · obtain ⟨field, hw⟩ := hw
    rw [parseFilter_of_word hw]
    apply (shift_leaves _ rfl h).bind
    intro _ q hq
    have hq' := wordsLeft_le_of_remaining_lt hq h
    apply (expect_leaves _ rfl hq').bind
    intro _ r hr
    have hrest := length_rest_le_of_remaining_lt (Nat.lt_trans hr hq) h
    exact (parseComparison_leaves field hrest).bind fun _ _ _ => trivial
  · rw [parseFilter_of_ne (not_exists.1 hw)]
    apply leaves_unexpected
    rwa [wordsLeft_of_not_isWord (Token.isWord_eq_false_iff.2 (not_exists.1 hw))]

theorem parseAndTail_leaves {bound : Nat} (left : Condition) (p : Parser)
    (lt : p.remaining < bound) (h : p.lexer.rest.length ≤ size) :
    (parseAndTail bound left p lt).Leaves size := by
  by_cases ha : p.current = .and
  · rw [parseAndTail_of_and ha]
    apply (shift_leaves _ (by rw [ha]; rfl) h).bind
    intro _ q hq
    have hrest := length_rest_le_of_remaining_lt hq h
    apply (parseFilter_leaves hrest).bind
    intro right r hr
    exact parseAndTail_leaves _ r _ (length_rest_le_of_remaining_lt hr hrest)
  · cases hw : p.current.isWord with
    | true =>
      rw [parseAndTail_of_word hw]
      apply (parseFilter_leaves h).bind
      intro right r hr
      exact parseAndTail_leaves _ r _ (length_rest_le_of_remaining_lt hr h)
    | false =>
      rw [parseAndTail_of_ne ha hw]
      trivial
termination_by p.remaining

theorem parseAnd_leaves (h : p.lexer.rest.length ≤ size) : p.parseAnd.Leaves size := by
  rw [parseAnd]
  apply (parseFilter_leaves h).bind
  intro left q hq
  exact parseAndTail_leaves left q _ (length_rest_le_of_remaining_lt hq h)

theorem parseOrTail_leaves {bound : Nat} (left : Condition) (p : Parser)
    (lt : p.remaining < bound) (h : p.lexer.rest.length ≤ size) :
    (parseOrTail bound left p lt).Leaves size := by
  by_cases ho : p.current = .or
  · rw [parseOrTail_of_or ho]
    apply (shift_leaves _ (by rw [ho]; rfl) h).bind
    intro _ q hq
    have hrest := length_rest_le_of_remaining_lt hq h
    apply (parseAnd_leaves hrest).bind
    intro right r hr
    exact parseOrTail_leaves _ r _ (length_rest_le_of_remaining_lt hr hrest)
  · rw [parseOrTail_of_ne ho]
    trivial
termination_by p.remaining

theorem parseOr_leaves (h : p.lexer.rest.length ≤ size) : p.parseOr.Leaves size := by
  rw [parseOr]
  apply (parseAnd_leaves h).bind
  intro left q hq
  exact parseOrTail_leaves left q _ (length_rest_le_of_remaining_lt hq h)

/-! ### Calls -/

variable {c : Condition} {query : Query} {lt : q.remaining < p.remaining}

/-- A parser that looks at no word stays as it is. -/
theorem parse_of_not_isWord (h : p.current.isWord = false) : p.parse.2 = p := by
  by_cases hc : p.current = .eof
  · rw [parse_of_eof hc]
  · have hor : p.parseOr = .fail (.unexpectedToken .fieldName p.current) p := by
      rw [parseOr, parseAnd, parseFilter_of_ne (Token.isWord_eq_false_iff.1 h)]
      rfl
    rw [parse_of_fail hc hor]

/-- If a condition was read, the end of the text is not claimed before it. -/
theorem synced_of_parseOr_eq_done (hc : p.current ≠ .eof) (h : p.parseOr = .done c q lt) :
    q.Synced := by
  -- The reading without a limit goes through the same parsers, and for it this is known.
  have hagrees : (p.withMax 0).parseOr.Agrees p.maxFilters (EqualWithin p.maxFilters) p.parseOr :=
    parseOr_agrees (p.withMax 0) rfl
  generalize ho : (p.withMax 0).parseOr = o at hagrees
  rw [h] at hagrees
  cases hagrees with
  | done =>
    obtain ⟨_, -, hpass⟩ := parseOr_sound rfl ho
    exact hpass.synced fun heof => absurd heof hc

/-- Behind a condition the parser stays, whatever is made of the condition. The lexer is called
again only at the end of the text, where it cannot fail. -/
theorem parse_of_parseOr_eq_done (hc : p.current ≠ .eof) (h : p.parseOr = .done c q lt) :
    p.parse.2 = q ∧ (∀ query, p.parse.1 = .ok query → q.current = .eof) ∧
      ∀ e, p.parse.1 ≠ .error (.lex e) := by
  have hsynced := synced_of_parseOr_eq_done hc h
  rw [parse_of_done hc h]
  by_cases hq : q.current = .eof
  · rw [expectEnd_of_ahead_eq_nil (ahead_eq_nil_iff.2 hq) hsynced]
    simp only
    split
    · exact ⟨rfl, nofun, nofun⟩
    · exact ⟨rfl, fun _ _ => hq, nofun⟩
  · rw [expectEnd, if_neg hq]
    exact ⟨rfl, nofun, nofun⟩

/-- A call that starts at a word does not leave it to the next call. -/
theorem wordsLeft_parse_lt (h : p.current.isWord = true) : p.parse.2.wordsLeft < p.wordsLeft := by
  have hc := Token.ne_eof_of_isWord h
  rw [wordsLeft_of_isWord h, Nat.lt_succ_iff]
  cases hor : p.parseOr with
  | done c q lt =>
    rw [(parse_of_parseOr_eq_done hc hor).1]
    exact wordsLeft_le_of_remaining_lt lt (Nat.le_refl _)
  | fail e q =>
    have hleaves := parseOr_leaves (Nat.le_refl p.lexer.rest.length)
    rw [hor] at hleaves
    rw [parse_of_fail hc hor]
    exact hleaves.1

/-- After a query the parser is at the end. -/
theorem current_of_parse_eq_ok (h : p.parse.1 = .ok query) : p.parse.2.current = .eof := by
  by_cases hc : p.current = .eof
  · rw [parse_of_eof hc]
    exact hc
  · cases hor : p.parseOr with
    | done c q lt =>
      obtain ⟨hq, heof, -⟩ := parse_of_parseOr_eq_done hc hor
      rw [hq]
      exact heof query h
    | fail e q =>
      rw [parse_of_fail hc hor] at h
      cases h

/-- After an error of the lexer the parser looks at no word. -/
theorem not_isWord_of_parse_eq_lex {e : LexError} (h : p.parse.1 = .error (.lex e)) :
    p.parse.2.current.isWord = false := by
  by_cases hc : p.current = .eof
  · rw [parse_of_eof hc] at h
    cases h
  · cases hor : p.parseOr with
    | done c q lt => exact absurd h ((parse_of_parseOr_eq_done hc hor).2.2 e)
    | fail e' q =>
      have hleaves := parseOr_leaves (Nat.le_refl p.lexer.rest.length)
      rw [hor] at hleaves
      rw [parse_of_fail hc hor] at h ⊢
      exact hleaves.2 e (Except.error.inj h)

/-! ### Repeated calls -/

/-- The parser after `k` calls of `parse`, whatever they answered. -/
def after (p : Parser) (k : Nat) : Parser := (fun p => p.parse.2)^[k] p

/-- The answer of the parser to one more call after `k` calls. -/
def answer (p : Parser) (k : Nat) : Except ParseError Query := (p.after k).parse.1

theorem after_succ (p : Parser) (k : Nat) : p.after (k + 1) = (p.after k).parse.2 :=
  Function.iterate_succ_apply' _ _ _

/-- Once the parser looks at no word, nothing changes any more. -/
theorem after_eq_of_not_isWord {k : Nat} (h : (p.after k).current.isWord = false) (hm : k ≤ m) :
    p.after m = p.after k :=
  iterate_eq_of_fixed (parse_of_not_isWord h) hm

/-- After as many calls as there are words left, nothing changes any more. -/
theorem after_eq_of_wordsLeft_le {k : Nat} (hk : p.wordsLeft ≤ k) (hm : k ≤ m) :
    p.after m = p.after k := by
  apply iterate_eq_of_size_le _ wordsLeft _ hk hm
  intro q
  cases hw : q.current.isWord with
  | true => exact .inr (wordsLeft_parse_lt hw)
  | false => exact .inl (parse_of_not_isWord hw)

theorem wordsLeft_le_of_ofSource_eq_ok {source : String} {max : Nat}
    (h : ofSource source max = .ok p) : p.wordsLeft ≤ source.length := by
  unfold ofSource at h
  split at h
  · next t l hn =>
    cases h
    rw [← String.length_toList]
    exact Nat.le_trans (wordsLeft_le_remaining _) (Lexer.length_rest_next_add_le hn)
  · cases h

end Parser

/-- A parser that is called again and again settles. After a query it only finds the end, so that at
most one call gives a condition. After an error of the lexer the lexer is not moved any more. The
answers are all the same once there were as many calls as characters. -/
theorem repeated_parsing_settles {source : String} {max : Nat} {p : Parser}
    (h : Parser.ofSource source max = .ok p) :
    (∀ k query, p.answer k = .ok query →
      ∀ m > k, p.answer m = .ok none ∧ p.after (m + 1) = p.after m) ∧
    (∀ j k c d, p.answer j = .ok (some c) → p.answer k = .ok (some d) → j = k) ∧
    (∀ k e, p.answer k = .error (.lex e) →
      ∀ m > k, (p.after m).lexer.position = (p.after (k + 1)).lexer.position) ∧
    ∀ m ≥ source.length, p.answer m = p.answer source.length := by
  have hok : ∀ k query, p.answer k = .ok query →
      ∀ m > k, p.answer m = .ok none ∧ p.after (m + 1) = p.after m := by
    intro k query hk m hm
    have heof : (p.after (k + 1)).current = .eof := by
      rw [Parser.after_succ]
      exact Parser.current_of_parse_eq_ok hk
    have hstays := Parser.after_eq_of_not_isWord (by rw [heof]; rfl) hm
    rw [Parser.after_succ, Parser.answer, hstays, Parser.parse_of_eof heof]
    exact ⟨rfl, rfl⟩
  refine ⟨hok, ?_, ?_, ?_⟩
  · -- Of two calls the later one would find the end.
    have hnot : ∀ j k c d, p.answer j = .ok (some c) → p.answer k = .ok (some d) → ¬j < k := by
      intro j k c d hj hk hlt
      have hnone := (hok j _ hj k hlt).1
      rw [hk] at hnone
      cases hnone
    intro j k c d hj hk
    exact Nat.le_antisymm (Nat.not_lt.1 (hnot k j d c hk hj)) (Nat.not_lt.1 (hnot j k c d hj hk))
  · intro k e hk m hm
    have hword : (p.after (k + 1)).current.isWord = false := by
      rw [Parser.after_succ]
      exact Parser.not_isWord_of_parse_eq_lex hk
    rw [Parser.after_eq_of_not_isWord hword hm]
  · intro m hm
    have hlast := Parser.after_eq_of_wordsLeft_le (Parser.wordsLeft_le_of_ofSource_eq_ok h) hm
    rw [Parser.answer, hlast, Parser.answer]

/-- A word that starts no filter costs one call. The next call starts at the word behind it and
fails with the lexer, and from then on the parser finds the end, although a parenthesis is left. -/
theorem repeated_parsing_settles_of_stray_word :
    ∃ p, Parser.ofSource "a b (" 0 = .ok p ∧
      p.answer 0 = .error (.unexpectedToken (.token .colon) (.word "b")) ∧
      p.answer 1 = .error (.lex (.unexpectedChar '(' 4)) ∧
      (∀ m > 1, (p.after m).lexer.position = (p.after 2).lexer.position) ∧
      ∀ m > 2, p.answer m = .ok none ∧ p.after (m + 1) = p.after m := by
  let p : Parser := ⟨⟨[' ', 'b', ' ', '('], 1⟩, .word "a", 0, 0⟩
  let q : Parser := ⟨⟨[' ', '('], 3⟩, .word "b", 0, 0⟩
  have hstart : Parser.ofSource "a b (" 0 = .ok p := rfl
  have hstray : p.parse = (.error (.unexpectedToken (.token .colon) (.word "b")), q) := by
    have hnext : (Lexer.mk [' ', 'b', ' ', '('] 1).next = (.ok (.word "b"), ⟨[' ', '('], 3⟩) := rfl
    apply Parser.parse_of_fail (by simp [p])
    rw [Parser.parseOr, Parser.parseAnd, Parser.parseFilter_of_word rfl,
      Parser.shift_of_next_ok hnext]
    simp only [Parser.Outcome.bind]
    rw [Parser.expect_of_ne (by simp)]
  have hlex : q.parse = (.error (.lex (.unexpectedChar '(' 4)), ⟨⟨['('], 4⟩, .eof, 0, 0⟩) := by
    have hnext : (Lexer.mk [' ', '('] 3).next = (.error (.unexpectedChar '(' 4), ⟨['('], 4⟩) := rfl
    apply Parser.parse_of_fail (by simp [q])
    rw [Parser.parseOr, Parser.parseAnd, Parser.parseFilter_of_word rfl,
      Parser.shift_of_next_error hnext]
    rfl
  -- From here on only what the two calls have answered matters.
  clear_value p
  have hone : p.after 1 = q := congrArg Prod.snd hstray
  have htwo : p.after 2 = ⟨⟨['('], 4⟩, .eof, 0, 0⟩ := by
    rw [Parser.after_succ, hone, hlex]
  have herror : p.answer 1 = .error (.lex (.unexpectedChar '(' 4)) := by
    rw [Parser.answer, hone, hlex]
  have hend : p.answer 2 = .ok none := by
    rw [Parser.answer, htwo, Parser.parse_of_eof rfl]
  obtain ⟨hok, -, hposition, -⟩ := repeated_parsing_settles hstart
  exact ⟨p, hstart, congrArg Prod.fst hstray, herror, hposition 1 _ herror, hok 2 _ hend⟩

end FilterQuery
