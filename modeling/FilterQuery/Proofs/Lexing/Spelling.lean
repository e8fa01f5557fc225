import FilterQuery.Proofs.Lexing.Scalars
import FilterQuery.Proofs.Parsing.Acceptance

/-!
# Lexing undoes spelling

`next_spelling` is the step: at the spelling of a well-formed token, with a blank or the end behind
it, the lexer gives that token and stands behind the spelling. Tokens that are written as words
(keywords, booleans, numbers, dates and words proper) are told apart by `classify`, all others by
their first character. By induction on the tokens the lexer gives back what was spelled
(`tokens_of_spelledAs`). In the other direction every token that the lexer gives is well formed
(`wellFormed_of_next`).
-/

namespace FilterQuery

/-! ### Characters -/

theorem toNat_of_isDigit {c : Char} (h : c.isDigit = true) : 48 ≤ c.toNat ∧ c.toNat ≤ 57 := by
  simp only [Char.isDigit, Bool.and_eq_true, decide_eq_true_eq, ge_iff_le, UInt32.le_iff_toNat_le]
    at h
  exact h

/-- A character of numbers and dates. -/
def IsNumeric (c : Char) : Prop := c.isDigit = true ∨ c = '-' ∨ c = '.'

theorem Numeral.WellFormed.isNumeric_of_mem_chars {n : Numeral} (hn : n.WellFormed) {c : Char}
    (h : c ∈ n.chars) : IsNumeric c := by
  obtain ⟨-, hwhole, hfraction⟩ := hn
  have hmem : c = '-' ∨ c ∈ n.whole ∨ c = '.' ∨ c ∈ n.fraction := by
    rw [chars, unsignedChars] at h
    split at h <;> split at h <;> simp at h <;> grind
  rcases hmem with h | h | h | h
  · exact .inr (.inl h)
  · exact .inl (hwhole c h)
  · exact .inr (.inr h)
  · exact .inl (hfraction c h)

theorem Decimal.isNumeric_of_mem_chars {d : Decimal} {c : Char} (h : c ∈ d.chars) :
    IsNumeric c := by
  rw [← d.chars_numeral] at h
  exact d.numeral_wellFormed.isNumeric_of_mem_chars h

theorem Date.isNumeric_of_mem_chars {d : Date} {c : Char} (h : c ∈ d.chars) : IsNumeric c := by
  have hmem : c = '-' ∨ c ∈ padded 4 d.year ++ padded 2 d.month ++ padded 2 d.day := by
    simp only [chars, List.mem_append, List.mem_cons] at h ⊢
    grind
  rcases hmem with h | h
  · exact .inr (.inl h)
  · exact .inl (d.isDigit_of_mem_padded h)

/-- A character of numbers and dates does not end a word. -/
theorem IsNumeric.not_isDelimiter {c : Char} (h : IsNumeric c) : Lexer.isDelimiter c = false := by
  rcases h with h | rfl | rfl
  · have hn := toNat_of_isDigit h
    have hblank : Text.isBlank c = false := by
      simp only [Text.isBlank, Bool.or_eq_false_iff, Bool.and_eq_false_iff, decide_eq_false_iff_not,
        beq_eq_false_iff_ne]
      omega
    have hne : ∀ d : Char, d.isDigit = false → (c == d) = false := by
      intro d hd
      apply beq_eq_false_iff_ne.2
      rintro rfl
      rw [h] at hd
      cases hd
    simp only [Lexer.isDelimiter, hblank, Bool.false_or, Bool.or_eq_false_iff]
    refine ⟨⟨⟨⟨⟨⟨?_, ?_⟩, ?_⟩, ?_⟩, ?_⟩, ?_⟩, ?_⟩ <;> exact hne _ rfl
  · rfl
  · rfl

theorem Lexer.isBare_iff {w : List Char} :
    IsBare w ↔ w ≠ [] ∧ w.all (fun c => !isDelimiter c) = true ∧
      w.head?.all (fun c => decide (c ∉ ['=', '>', '<', '!'])) = true := by
  constructor
  · rintro ⟨hne, hdelimiter, hcomparison⟩
    refine ⟨hne, ?_, ?_⟩
    · rw [List.all_eq_true]
      intro c hc
      rw [hdelimiter c hc]
      rfl
    · cases w with
      | nil => rfl
      | cons c cs => exact decide_eq_true (hcomparison c rfl)
  · rintro ⟨hne, hdelimiter, hcomparison⟩
    refine ⟨hne, ?_, ?_⟩
    · intro c hc
      simpa using List.all_eq_true.1 hdelimiter c hc
    · intro c hc
      rw [Option.mem_def.1 hc] at hcomparison
      exact of_decide_eq_true hcomparison

/-- Words are what is left when keywords, booleans, dates and numbers are taken out. -/
theorem isWord_iff {text : String} :
    IsWord text ↔ Lexer.IsBare text.toList ∧ text ∉ ["AND", "OR", "true", "false"] ∧
      ¬HasDateForm text.toList ∧ ¬HasNumberForm text.toList := by
  constructor
  · intro h
    refine ⟨⟨h.ne_nil, ?_, h.head_not_comparison⟩, h.not_reserved, h.not_date, h.not_number⟩
    intro c hc
    exact Lexer.isDelimiter_eq_false_iff.2 ⟨h.not_isBlank c hc, h.not_punctuation c hc⟩
  · rintro ⟨hbare, hreserved, hdate, hnumber⟩
    refine ⟨hbare.ne_nil, ?_, ?_, hbare.head_not_comparison, hreserved, hdate, hnumber⟩
    · intro c hc
      exact (Lexer.isDelimiter_eq_false_iff.1 (hbare.not_isDelimiter c hc)).1
    · intro c hc
      exact (Lexer.isDelimiter_eq_false_iff.1 (hbare.not_isDelimiter c hc)).2

instance (w : List Char) : Decidable (Lexer.IsBare w) := decidable_of_iff _ Lexer.isBare_iff.symm

instance (text : String) : Decidable (IsWord text) := decidable_of_iff _ isWord_iff.symm

instance (t : Token) : Decidable t.WellFormed :=
  match t with
  | .word text => inferInstanceAs (Decidable (IsWord text))
  | .eof => inferInstanceAs (Decidable False)
  | .string _ | .number _ | .date _ | .boolean _ | .and | .or | .colon | .comma | .openBracket
  | .closeBracket | .comparison _ => inferInstanceAs (Decidable True)

theorem Token.WellFormed.ne_eof {t : Token} (h : t.WellFormed) : t ≠ .eof := by
  rintro rfl
  exact h

namespace Lexer

variable {l l' : Lexer} {t : Token} {rest : List Char}

/-! ### Blanks -/

theorem skipBlanks_append {gap : List Char} (hgap : ∀ c ∈ gap, Text.isBlank c = true)
    (hrest : ∀ c ∈ rest.head?, Text.isBlank c = false) (position : Nat) :
    (Lexer.mk (gap ++ rest) position).skipBlanks = ⟨rest, position + gap.length⟩ := by
  rw [skipBlanks, takeWhile_run hgap hrest, skip_append]

theorem skipBlanks_of_head (hrest : ∀ c ∈ rest.head?, Text.isBlank c = false) (position : Nat) :
    (Lexer.mk rest position).skipBlanks = ⟨rest, position⟩ := by
  have hgap : ∀ c ∈ ([] : List Char), Text.isBlank c = true := nofun
  exact skipBlanks_append hgap hrest position

theorem next_append_blanks {gap : List Char} (hgap : ∀ c ∈ gap, Text.isBlank c = true)
    (hrest : ∀ c ∈ rest.head?, Text.isBlank c = false) (position : Nat) :
    (Lexer.mk (gap ++ rest) position).next = (Lexer.mk rest (position + gap.length)).next := by
  unfold next
  rw [skipBlanks_append hgap hrest, skipBlanks_of_head hrest]

/-! ### Symbols and strings -/

theorem not_isBlank_of_symbol? {c : Char} {cs : List Char} {n : Nat}
    (h : symbol? (c :: cs) = some (t, n)) : Text.isBlank c = false := by
  unfold symbol? at h
  split at h
  all_goals simp_all
  all_goals obtain ⟨rfl, -⟩ := ‹_ ∧ _›; rfl

theorem wellFormed_of_symbol? {cs : List Char} {n : Nat} (h : symbol? cs = some (t, n)) :
    t.WellFormed := by
  unfold symbol? at h
  split at h <;> cases h <;> trivial

theorem next_of_symbol? {s : List Char} (hs : symbol? (s ++ rest) = some (t, s.length))
    (position : Nat) :
    (Lexer.mk (s ++ rest) position).next = (.ok t, ⟨rest, position + s.length⟩) := by
  have hskip := skip_append s rest position
  cases s with
  | nil => exact absurd (symbol?_eq_some hs).2 (Nat.lt_irrefl 0)
  | cons c cs =>
    rw [List.cons_append] at hs hskip ⊢
    unfold next
    rw [skipBlanks_of_head (by simpa using not_isBlank_of_symbol? hs)]
    simp only [hs, hskip]

/-- A comparison is read up to the blank behind it. -/
theorem symbol?_comparison (op : Comparison) (hrest : ∀ c ∈ rest.head?, Text.isBlank c = true) :
    symbol? (op.symbol.toList ++ rest) = some (.comparison op, op.symbol.toList.length) := by
  cases op with
  | gtEq | ltEq | notEq | eq => rfl
  | gt | lt =>
    -- An equals sign would go on the comparison, and it is not blank.
    cases rest with
    | nil => rfl
    | cons c cs =>
      have hc : c ≠ '=' := by
        rintro rfl
        exact absurd (hrest '=' (by simp)) (by decide)
      simp [symbol?, Comparison.symbol, hc]

theorem next_of_quote (cs : List Char) (position : Nat) :
    (Lexer.mk ('"' :: cs) position).next = (Lexer.mk ('"' :: cs) position).nextString := by
  unfold next
  rw [skipBlanks_of_head (by simp [Text.isBlank])]
  rfl

/-- The inside of a string is read up to the first quote without a backslash before it. -/
theorem readString_flatMap_stringChar (read : List Char) (count : Nat) (text rest : List Char) :
    readString read count (text.flatMap Token.stringChar ++ '"' :: rest) =
      (read.reverse ++ text, count + (text.flatMap Token.stringChar).length + 1, .closed) := by
  induction text generalizing read count with
  | nil => simp [readString]
  | cons c text ih =>
    rw [List.flatMap_cons, List.append_assoc, List.length_append]
    by_cases hc : c = '"' ∨ c = '\\'
    · rw [Token.stringChar, if_pos hc]
      show readString read count ('\\' :: c :: (text.flatMap Token.stringChar ++ '"' :: rest)) = _
      rw [readString, if_pos hc, ih]
      simp [Nat.add_assoc]
    · rw [Token.stringChar, if_neg hc]
      obtain ⟨hquote, hbackslash⟩ := not_or.1 hc
      show readString read count (c :: (text.flatMap Token.stringChar ++ '"' :: rest)) = _
      rw [readString, ih]
      · simp [Nat.add_assoc]
      · exact hquote
      · intro hc' _
        exact hbackslash hc'
      · intro _ _ hc' _
        exact hbackslash hc'

theorem next_string (text rest : List Char) (position : Nat) :
    (Lexer.mk ('"' :: text.flatMap Token.stringChar ++ ['"'] ++ rest) position).next =
      (.ok (.string (String.ofList text)),
        ⟨rest, position + ('"' :: text.flatMap Token.stringChar ++ ['"']).length⟩) := by
  have hafter := skip_append ('"' :: text.flatMap Token.stringChar ++ ['"']) rest position
  have hlength : ('"' :: text.flatMap Token.stringChar ++ ['"']).length =
      1 + (0 + (text.flatMap Token.stringChar).length + 1) := by
    simp
    omega
  have hsource : '"' :: text.flatMap Token.stringChar ++ ['"'] ++ rest =
      '"' :: (text.flatMap Token.stringChar ++ '"' :: rest) := by
    simp
  rw [hlength, hsource] at hafter
  rw [hlength, hsource, next_of_quote, nextString]
  simp only [List.drop_one, List.tail_cons, readString_flatMap_stringChar, hafter]
  rfl

/-! ### Words -/

/-- A character that neither ends a word nor starts a comparison starts no symbol. -/
theorem symbol?_eq_none {c : Char} {cs : List Char} (hd : isDelimiter c = false)
    (hc : c ∉ ['=', '>', '<', '!']) : symbol? (c :: cs) = none := by
  have hpunctuation := (isDelimiter_eq_false_iff.1 hd).2
  unfold symbol?
  split <;> simp_all

theorem next_of_isBare {w : List Char} (hw : IsBare w)
    (hrest : ∀ c ∈ rest.head?, isDelimiter c = true) (position : Nat) :
    (Lexer.mk (w ++ rest) position).next =
      (classify (String.ofList w) position, ⟨rest, position + w.length⟩) := by
  have hword : (w ++ rest).takeWhile (fun c => !isDelimiter c) = w := by
    apply takeWhile_run
    · intro c hc
      simp [hw.not_isDelimiter c hc]
    · intro c hc
      simp [hrest c hc]
  have hnext : (Lexer.mk (w ++ rest) position).next = (Lexer.mk (w ++ rest) position).nextWord := by
    cases w with
    | nil => exact absurd rfl hw.ne_nil
    | cons c cs =>
      have hd := hw.not_isDelimiter c (by simp)
      have hcomparison := hw.head_not_comparison c (by simp)
      obtain ⟨hblank, hpunctuation⟩ := isDelimiter_eq_false_iff.1 hd
      unfold next
      rw [skipBlanks_of_head (by simpa using hblank)]
      simp only [List.cons_append, symbol?_eq_none hd hcomparison]
      simp_all
  rw [hnext, nextWord]
  simp only [hword, skip_append]

theorem IsBare.of_isNumeric {w : List Char} (hne : w ≠ []) (h : ∀ c ∈ w, IsNumeric c) :
    IsBare w where
  ne_nil := hne
  not_isDelimiter c hc := (h c hc).not_isDelimiter
  head_not_comparison c hc := by
    intro hmem
    have hnumeric := h c (List.mem_of_mem_head? hc)
    simp only [List.mem_cons, List.not_mem_nil, or_false] at hmem
    rcases hmem with rfl | rfl | rfl | rfl <;> revert hnumeric <;> unfold IsNumeric <;> decide

theorem isBare_reserved {text : String} (h : text ∈ ["AND", "OR", "true", "false"]) :
    IsBare text.toList := by
  simp only [List.mem_cons, List.not_mem_nil, or_false] at h
  rcases h with rfl | rfl | rfl | rfl <;> decide

theorem isBare_numeral {n : Numeral} (hn : n.WellFormed) : IsBare n.chars := by
  apply IsBare.of_isNumeric
  · rw [Numeral.chars, Numeral.unsignedChars]
    split <;> simp [hn.whole_ne_nil]
  · exact fun c => hn.isNumeric_of_mem_chars

theorem isBare_number (d : Decimal) : IsBare d.chars := by
  rw [← d.chars_numeral]
  exact isBare_numeral d.numeral_wellFormed

theorem isBare_date (d : Date) : IsBare d.chars := by
  apply IsBare.of_isNumeric
  · simp [Date.chars]
  · exact fun c => d.isNumeric_of_mem_chars

/-! ### What a word stands for -/

theorem not_reserved_of_isNumeric {w : List Char} (h : ∀ c ∈ w, IsNumeric c) :
    String.ofList w ∉ ["AND", "OR", "true", "false"] := by
  intro hmem
  have hw : w ∈ [['A', 'N', 'D'], ['O', 'R'], ['t', 'r', 'u', 'e'], ['f', 'a', 'l', 's', 'e']] := by
    simpa using List.mem_map_of_mem (f := String.toList) hmem
  simp only [List.mem_cons, List.not_mem_nil, or_false] at hw
  rcases hw with rfl | rfl | rfl | rfl
  all_goals
    have hhead := h _ List.mem_cons_self
    revert hhead
    unfold IsNumeric
    decide

section

variable {text : String} {position : Nat}

theorem classify_date (hreserved : text ∉ ["AND", "OR", "true", "false"]) {d : Date}
    (hd : d.chars = text.toList) : classify text position = .ok (.date d) := by
  simp only [List.mem_cons, List.not_mem_nil, or_false, not_or] at hreserved
  obtain ⟨hand, hor, htrue, hfalse⟩ := hreserved
  rw [classify, if_neg hand, if_neg hor, if_neg htrue, if_neg hfalse, ← hd, d.parts?_chars]
  simp only [d.ofParts?_self]

/-- A word of the form of a number is a number, if it is in range, and otherwise an error. -/
theorem classify_numeral {n : Numeral} (hn : n.WellFormed) :
    classify (String.ofList n.chars) position =
      (Decimal.ofNumeral? n).elim (.error (.invalidNumber (String.ofList n.chars) position))
        fun d => .ok (.number d) := by
  have hreserved := not_reserved_of_isNumeric fun c => hn.isNumeric_of_mem_chars
  simp only [List.mem_cons, List.not_mem_nil, or_false, not_or] at hreserved
  obtain ⟨hand, hor, htrue, hfalse⟩ := hreserved
  have hdate : Date.parts? n.chars = none :=
    Date.parts?_eq_none_iff.2 (not_hasDateForm_of_hasNumberForm ⟨n, hn, rfl⟩)
  have hnumeral : Numeral.ofChars? n.chars = some n := Numeral.ofChars?_eq_some_iff.2 ⟨hn, rfl⟩
  rw [classify, if_neg hand, if_neg hor, if_neg htrue, if_neg hfalse, String.toList_ofList, hdate,
    hnumeral]
  cases hd : Decimal.ofNumeral? n with
  | none => simp only [hd, Option.elim_none]
  | some d => simp only [hd, Option.elim_some]

theorem classify_word (h : IsWord text) : classify text position = .ok (.word text) := by
  have hreserved := h.not_reserved
  simp only [List.mem_cons, List.not_mem_nil, or_false, not_or] at hreserved
  obtain ⟨hand, hor, htrue, hfalse⟩ := hreserved
  rw [classify, if_neg hand, if_neg hor, if_neg htrue, if_neg hfalse,
    Date.parts?_eq_none_iff.2 h.not_date]
  simp only [Numeral.ofChars?_eq_none_iff.2 h.not_number]

/-- What a word is read as is well formed: whatever is read as itself has passed all checks. -/
theorem wellFormed_of_classify {w : List Char} (hw : IsBare w)
    (h : classify (String.ofList w) position = .ok t) : t.WellFormed := by
  unfold classify at h
  split at h
  · cases h; trivial
  split at h
  · cases h; trivial
  split at h
  · cases h; trivial
  split at h
  · cases h; trivial
  next hand hor htrue hfalse =>
  split at h
  · split at h
    · cases h; trivial
    · cases h
  · next hdate =>
    split at h
    · split at h
      · cases h; trivial
      · cases h
    · next hnumber =>
      cases h
      rw [String.toList_ofList] at hdate hnumber
      refine isWord_iff.2 ⟨?_, by simp [hand, hor, htrue, hfalse], ?_, ?_⟩ <;>
        rw [String.toList_ofList]
      · exact hw
      · exact Date.parts?_eq_none_iff.1 hdate
      · exact Numeral.ofChars?_eq_none_iff.1 hnumber

end

/-! ### One token -/

/-- A token spelled before a blank or the end is read back, and nothing else is passed over. -/
theorem next_spelling (ht : t.WellFormed) (hrest : ∀ c ∈ rest.head?, Text.isBlank c = true)
    (position : Nat) :
    (Lexer.mk (t.spelling ++ rest) position).next =
      (.ok t, ⟨rest, position + t.spelling.length⟩) := by
  have hend : ∀ c ∈ rest.head?, isDelimiter c = true :=
    fun c hc => isDelimiter_of_isBlank (hrest c hc)
  cases t with
  | word text =>
    rw [Token.spelling, next_of_isBare (isWord_iff.1 ht).1 hend, String.ofList_toList,
      classify_word ht]
  | string text =>
    rw [Token.spelling, next_string, String.ofList_toList]
  | number d =>
    rw [Token.spelling, next_of_isBare (isBare_number d) hend, ← d.chars_numeral,
      classify_numeral d.numeral_wellFormed, d.ofNumeral?_numeral, Option.elim_some]
  | date d =>
    have hreserved := not_reserved_of_isNumeric fun c => d.isNumeric_of_mem_chars
    rw [Token.spelling, next_of_isBare (isBare_date d) hend,
      classify_date hreserved String.toList_ofList.symm]
  | boolean b =>
    cases b with
    | true =>
      have hbare : IsBare "true".toList := isBare_reserved (by simp)
      exact next_of_isBare hbare hend position
    | false =>
      have hbare : IsBare "false".toList := isBare_reserved (by simp)
      exact next_of_isBare hbare hend position
  | and =>
    have hbare : IsBare "AND".toList := isBare_reserved (by simp)
    exact next_of_isBare hbare hend position
  | or =>
    have hbare : IsBare "OR".toList := isBare_reserved (by simp)
    exact next_of_isBare hbare hend position
  | colon | comma | openBracket | closeBracket => exact next_of_symbol? rfl position
  | comparison op => exact next_of_symbol? (symbol?_comparison op hrest) position
  | eof => exact absurd ht id

/-- A well-formed token is spelled with at least one character, of which the first is no blank. -/
theorem head_spelling (ht : t.WellFormed) :
    ∃ c cs, t.spelling = c :: cs ∧ Text.isBlank c = false := by
  have hbare : ∀ {w : List Char}, IsBare w → ∃ c cs, w = c :: cs ∧ Text.isBlank c = false := by
    intro w hw
    cases w with
    | nil => exact absurd rfl hw.ne_nil
    | cons c cs =>
      exact ⟨c, cs, rfl, (isDelimiter_eq_false_iff.1 (hw.not_isDelimiter c (by simp))).1⟩
  cases t with
  | word text => exact hbare (isWord_iff.1 ht).1
  | number d => exact hbare (isBare_number d)
  | date d => exact hbare (isBare_date d)
  | string text => exact ⟨'"', _, rfl, rfl⟩
  | boolean b => cases b <;> exact ⟨_, _, rfl, rfl⟩
  | comparison op => cases op <;> exact ⟨_, _, rfl, rfl⟩
  | and | or | colon | comma | openBracket | closeBracket => exact ⟨_, _, rfl, rfl⟩
  | eof => exact absurd ht id

/-- Whatever the lexer gives, unless it is the end, is well formed. -/
theorem wellFormed_of_next (h : l.next = (.ok t, l')) (ht : t ≠ .eof) : t.WellFormed := by
  obtain ⟨gap, run, hstep⟩ := l.exists_step
  rw [h] at hstep
  obtain ⟨rest, position⟩ := l'
  cases hstep.reads with
  | ending => exact absurd rfl ht
  | symbol hs => exact wellFormed_of_symbol? hs
  | string => trivial
  | word hbare _ hword => exact wellFormed_of_classify hbare hword

/-! ### All tokens -/

/-- The tokens depend on the first answer of the lexer and on where it leads only. -/
theorem tokens_congr (h : l.next = l'.next) : l.tokens = l'.tokens := by
  rcases hnext : l.next with ⟨e | t, m⟩
  · have hnext' : l'.next = (.error e, m) := h ▸ hnext
    rw [tokens_of_next_error hnext, tokens_of_next_error hnext']
  · have hnext' : l'.next = (.ok t, m) := h ▸ hnext
    by_cases ht : t = .eof
    · subst ht
      rw [tokens_of_next_eof hnext, tokens_of_next_eof hnext']
    · rw [tokens_of_next_ok hnext ht, tokens_of_next_ok hnext' ht]

theorem head_of_spelledAs {ts : List Token} {cs : List Char} (ht : t.WellFormed)
    (h : Token.SpelledAs (t :: ts) cs) : ∀ c ∈ cs.head?, Text.isBlank c = false := by
  obtain ⟨c, ds, hspelling, hc⟩ := head_spelling ht
  cases h with
  | single => simp [hspelling, hc]
  | cons => simp [hspelling, hc]

/-- Tokens that are spelled with blanks between them are read back, one after the other. -/
theorem tokens_of_spelledAs {ts : List Token} {cs : List Char} (h : Token.SpelledAs ts cs)
    (hts : ∀ t ∈ ts, t.WellFormed) (position : Nat) :
    (Lexer.mk cs position).tokens = (ts, none) := by
  induction h generalizing position with
  | nil => exact tokens_of_next_eof (next_of_rest_eq_nil rfl)
  | single t =>
    have ht := hts t (by simp)
    have hend : ∀ c ∈ ([] : List Char).head?, Text.isBlank c = true := nofun
    have hnext := next_spelling ht hend position
    rw [List.append_nil] at hnext
    rw [tokens_of_next_ok hnext ht.ne_eof, tokens_of_next_eof (next_of_rest_eq_nil rfl)]
  | @cons t u ts gap cs hne hblank h ih =>
    obtain ⟨ht, hus⟩ := List.forall_mem_cons.1 hts
    have hgap : ∀ c ∈ (gap ++ cs).head?, Text.isBlank c = true := by
      cases gap with
      | nil => exact absurd rfl hne
      | cons c gap => simpa using hblank c (by simp)
    have hskip := next_append_blanks hblank (head_of_spelledAs (hus u (by simp)) h)
      (position + t.spelling.length)
    rw [tokens_of_next_ok (next_spelling ht hgap position) ht.ne_eof, tokens_congr hskip, ih hus]

theorem wellFormed_of_mem_tokens (h : t ∈ l.tokens.1) : t.WellFormed := by
  fun_induction tokens l with
  | case1 l e l' hnext => cases h
  | case2 l l' hnext => cases h
  | case3 l u l' hnext hu hlt ts e htokens ih =>
    rcases List.mem_cons.1 h with rfl | h
    · exact wellFormed_of_next hnext hu
    · exact ih (htokens ▸ h)

/-- The lexer after `n` calls of `next`, whatever they answered. -/
def after (l : Lexer) : Nat → Lexer
  | 0 => l
  | n + 1 => l.next.2.after n

end Lexer

/-- The spellings of tokens with a space between neighbours. -/
def Token.spaced : List Token → List Char
  | [] => []
  | [t] => t.spelling
  | t :: u :: ts => t.spelling ++ ([' '] ++ spaced (u :: ts))

theorem Token.spelledAs_spaced (ts : List Token) : SpelledAs ts (spaced ts) := by
  fun_induction spaced ts with
  | case1 => exact .nil
  | case2 t => exact .single t
  | case3 t u ts ih => exact .cons (by decide) (List.all_eq_true.1 rfl) ih

/-- Every query that has a derivation can be written: its tokens, if each of them can be spelled, are
read as the query again. -/
theorem parseQuery_spaced {d : Grammar.QueryTree} (hd : ∀ t ∈ d.tokens, t.WellFormed) :
    parseQuery (String.ofList (Token.spaced d.tokens)) 0 = .ok d.query := by
  have hspelled : Token.SpelledAs d.tokens (String.ofList (Token.spaced d.tokens)).toList := by
    rw [String.toList_ofList]
    exact Token.spelledAs_spaced d.tokens
  exact parseQuery_eq_ok_iff.2 ⟨d, Lexer.tokens_of_spelledAs hspelled hd 0, rfl⟩

/-- The lexer gives well-formed tokens only, on every text and after any number of calls, and it
gives exactly the tokens that were spelled, whatever blanks stand between them. -/
theorem lexing_undoes_spelling :
    (∀ (source : String) (n : Nat) (t : Token),
      ((Lexer.ofSource source).after n).next.1 = .ok t → t ≠ .eof → t.WellFormed) ∧
    ∀ (ts : List Token) (source : String), (∀ t ∈ ts, t.WellFormed) →
      Token.SpelledAs ts source.toList → (Lexer.ofSource source).tokens = (ts, none) := by
  constructor
  · intro source n t h ht
    exact Lexer.wellFormed_of_next (Prod.ext h rfl) ht
  · intro ts source hts h
    exact Lexer.tokens_of_spelledAs h hts 0

/-- A word that only starts like a keyword, a comparison and an equals sign that stay two, a string
with a quote and a backslash in it, a negative number with a zero at its end, and a leap day, with a
tab, a line end and an ideographic space among the blanks. -/
theorem lexing_undoes_spelling_of_hard_tokens :
    let ts : List Token := [.word "ANDy", .comparison .gt, .comparison .eq, .string "x\"\\ y",
      .number ⟨-50, 2, by decide, by decide⟩, .date ⟨2020, 2, 29, by decide, by decide, by decide⟩]
    let source := "ANDy\t> = \"x\\\"\\\\ y\"\n -0.50\u30002020-02-29"
    (∀ t ∈ ts, t.WellFormed) ∧ Token.SpelledAs ts source.toList ∧
      (Lexer.ofSource source).tokens = (ts, none) := by
  intro ts source
  have hts : ∀ t ∈ ts, t.WellFormed := by decide
  have hsource : source.toList = Token.spelling (.word "ANDy") ++ (['\t'] ++
      (Token.spelling (.comparison .gt) ++ ([' '] ++ (Token.spelling (.comparison .eq) ++ ([' '] ++
        (Token.spelling (.string "x\"\\ y") ++ (['\n', ' '] ++
          (['-', '0', '.', '5', '0'] ++ (['\u3000'] ++ "2020-02-29".toList))))))))) := by
    decide +kernel
  have hspelled : Token.SpelledAs ts source.toList := by
    rw [hsource]
    exact .cons (by decide) (List.all_eq_true.1 rfl)
      (.cons (by decide) (List.all_eq_true.1 rfl) (.cons (by decide) (List.all_eq_true.1 rfl)
        (.cons (by decide) (List.all_eq_true.1 rfl)
          (.cons (by decide) (List.all_eq_true.1 rfl) (.single _)))))
  exact ⟨hts, hspelled, lexing_undoes_spelling.2 ts source hts hspelled⟩

end FilterQuery
