import Mathlib.Data.List.Basic
import FilterQuery.Proofs.Lexing.Spelling
import FilterQuery.Sql.LiteralReader

/-!
# Literals are read back

The literal of a value ends where it was written to end, whatever stands behind it, and is read as
the value again.

* A character of a text is written as itself or as a backslash with a character that stands for it
  (`stringChar_cases`). Neither is a quote that ends the text.
* The digits of a number end where something else than a digit or a point follows, and lists end
  with the parenthesis that closes them. `ClosesNumeral` is what a literal asks of the text behind
  it; a list grants it to each of its members.

By recursion on the value the reader comes behind its literal with the value in hand, in whichever
lists it is (`readLiteralIn_literalChars`).
-/

namespace FilterQuery.Sql

/-! ### Texts -/

/-- A character stands between quotes as itself, if it is neither a quote nor a backslash, or behind
a backslash. -/
theorem stringChar_cases (c : Char) :
    (stringChar c = [c] ∧ c ≠ '\x27' ∧ c ≠ '\\') ∨
      ∃ e, stringChar c = ['\\', e] ∧ unescape? e = some c := by
  unfold stringChar
  repeat' split
  all_goals first
    | next h => exact .inr ⟨_, rfl, by rw [h]; rfl⟩
    | exact .inl ⟨rfl, ‹_›, ‹_›⟩

theorem readText_stringChar (read : List Char) (c : Char) (cs : List Char) :
    readText read (stringChar c ++ cs) = readText (c :: read) cs := by
  rcases stringChar_cases c with ⟨hc, hquote, hbackslash⟩ | ⟨e, hc, he⟩
  · rw [hc, List.singleton_append, readText]
    · exact hquote
    · intro _ _ h _
      exact hbackslash h
  · rw [hc]
    show readText read ('\\' :: e :: cs) = _
    rw [readText, he]

/-- A text is read up to the quote behind it. -/
theorem readText_flatMap_stringChar (read text rest : List Char) :
    readText read (text.flatMap stringChar ++ '\x27' :: rest) =
      some (read.reverse ++ text, rest) := by
  induction text generalizing read with
  | nil => simp [readText]
  | cons c text ih =>
    rw [List.flatMap_cons, List.append_assoc, readText_stringChar, ih]
    simp

theorem readScalar_stringChars (text rest : List Char) :
    readScalar (stringChars text ++ rest) = some (.string (String.ofList text), rest) := by
  have htext : stringChars text ++ rest =
      '\x27' :: (text.flatMap stringChar ++ '\x27' :: rest) := by
    simp [stringChars]
  rw [htext, readScalar, readText_flatMap_stringChar]
  rfl

/-! ### Dates -/

theorem stringChar_of_isNumeric {c : Char} (h : IsNumeric c) : stringChar c = [c] := by
  rcases stringChar_cases c with ⟨hc, -⟩ | ⟨e, -, he⟩
  · exact hc
  · -- Nothing behind a backslash stands for a digit, a dash or a point.
    revert h
    unfold unescape? at he
    split at he <;> cases he
    all_goals
      unfold IsNumeric
      decide

/-- A date is written as its text is. -/
theorem literalChars_date (d : Date) : literalChars (.date d) = literalChars (.string d.text) := by
  have hplain : d.chars.flatMap stringChar = d.chars := by
    rw [List.flatMap_congr fun c hc => stringChar_of_isNumeric (d.isNumeric_of_mem_chars hc)]
    exact List.flatMap_singleton' d.chars
  rw [literalChars, literalChars, stringChars, Date.text, String.toList_ofList, hplain]

/-! ### Numbers -/

/-- A text that does not go on with a numeral: it starts neither with a digit nor with a point. -/
def ClosesNumeral (rest : List Char) : Prop := ∀ c ∈ rest.head?, c.isDigit = false ∧ c ≠ '.'

/-- A numeral is read to its end. -/
theorem readDigits_unsignedChars {n : Numeral} {rest : List Char} (hn : n.WellFormed)
    (hrest : ClosesNumeral rest) :
    readDigits n.negative (n.unsignedChars ++ rest) =
      (Decimal.ofNumeral? n).map fun d => (d, rest) := by
  have hdigits : ∀ c ∈ rest.head?, c.isDigit = false := fun c hc => (hrest c hc).1
  unfold readDigits Numeral.unsignedChars
  rw [List.append_assoc]
  by_cases hf : n.fraction = []
  · rw [if_pos hf, List.nil_append, takeWhile_run hn.isDigit_whole hdigits,
      dropWhile_run hn.isDigit_whole hdigits]
    simp only [if_neg hn.whole_ne_nil]
    split
    · next ds => exact absurd rfl (hrest '.' (by simp)).2
    · rw [← hf]
  · have hpoint : ∀ c ∈ ('.' :: n.fraction ++ rest).head?, c.isDigit = false := by simp
    rw [if_neg hf, takeWhile_run hn.isDigit_whole hpoint, dropWhile_run hn.isDigit_whole hpoint]
    simp only [List.cons_append, if_neg hn.whole_ne_nil]
    rw [takeWhile_run hn.isDigit_fraction hdigits, dropWhile_run hn.isDigit_fraction hdigits]

theorem readScalar_of_isDigit {c : Char} (h : c.isDigit = true) (cs : List Char) :
    readScalar (c :: cs) = (readDigits false (c :: cs)).map fun (d, rest) => (.number d, rest) := by
  unfold readScalar
  split
  case h_5 => rfl
  all_goals
    next heq =>
      obtain ⟨rfl, -⟩ := List.cons.inj heq
      exact absurd h (by decide)

theorem readScalar_chars (d : Decimal) {rest : List Char} (hrest : ClosesNumeral rest) :
    readScalar (d.chars ++ rest) = some (.number d, rest) := by
  have hread := readDigits_unsignedChars d.numeral_wellFormed hrest
  rw [d.ofNumeral?_numeral] at hread
  rw [← d.chars_numeral, Numeral.chars]
  cases hneg : d.numeral.negative with
  | true =>
    rw [hneg] at hread
    rw [if_pos rfl, List.cons_append, readScalar, hread]
    rfl
  | false =>
    rw [hneg] at hread
    obtain ⟨c, cs, hwhole, hc⟩ := d.numeral_wellFormed.exists_whole_eq_cons
    rw [if_neg (by simp)]
    rw [Numeral.unsignedChars, hwhole] at hread ⊢
    rw [List.cons_append, List.cons_append, readScalar_of_isDigit hc, ← List.cons_append,
      ← List.cons_append, hread]
    rfl

/-! ### Lists -/

/-- No literal starts with a question mark or with the end of a list. -/
theorem exists_literalChars_eq_cons (v : Value) :
    ∃ c cs, literalChars v = c :: cs ∧ c ≠ '?' ∧ c ≠ ')' := by
  cases v with
  | string s => exact ⟨_, _, by rw [literalChars, stringChars, List.cons_append], by decide⟩
  | number n =>
    rw [literalChars]
    cases h : n.chars with
    | nil => exact absurd h (Lexer.isBare_number n).ne_nil
    | cons c cs =>
      have hnumeric : IsNumeric c := n.isNumeric_of_mem_chars (by simp [h])
      refine ⟨c, cs, rfl, ?_, ?_⟩
      all_goals
        rintro rfl
        revert hnumeric
        unfold IsNumeric
        decide
  | boolean b => cases b <;> exact ⟨_, _, by rw [literalChars], by decide⟩
  | date d => exact ⟨_, _, by rw [literalChars, List.cons_append], by decide⟩
  | list members =>
    cases members with
    | nil => exact ⟨_, _, by rw [literalChars], by decide⟩
    | cons v vs => exact ⟨_, _, by rw [literalChars, List.cons_append], by decide⟩

/-- A list goes on with a comma or its end. -/
theorem closesNumeral_moreLiterals (vs : List Value) (rest : List Char) :
    ClosesNumeral (moreLiterals vs ++ rest) := by
  cases vs <;> simp [ClosesNumeral, moreLiterals]

variable {stack : List (List Value)} {v : Value} {cs rest : List Char}

theorem readScalar_openList (cs : List Char) : readScalar ('(' :: cs) = none := by
  simp [readScalar, readDigits]

theorem readLiteralIn_of_readScalar (h : readScalar cs = some (v, rest)) :
    readLiteralIn stack cs = readAfter stack v rest := by
  unfold readLiteralIn
  split
  · rw [readScalar_openList] at h
    cases h
  · rw [readScalar_openList] at h
    cases h
  · split
    · next h' =>
      rw [h] at h'
      cases h'
      rfl
    · next h' =>
      rw [h] at h'
      cases h'

/-- A parenthesis opens a list if the list has members. -/
theorem readLiteralIn_openList (h : ∀ ds, cs ≠ ')' :: ds) :
    readLiteralIn stack ('(' :: cs) = readLiteralIn ([] :: stack) cs := by
  rw [readLiteralIn]
  exact h

mutual

/-- The reader comes behind the literal of a value with the value, whichever lists are open. -/
theorem readLiteralIn_literalChars (stack : List (List Value)) (v : Value) {rest : List Char}
    (hrest : ClosesNumeral rest) :
    readLiteralIn stack (literalChars v ++ rest) = readAfter stack v.datesAsText rest := by
  match v with
  | .string s =>
    apply readLiteralIn_of_readScalar
    rw [literalChars, readScalar_stringChars, String.ofList_toList]
    rfl
  | .number d =>
    apply readLiteralIn_of_readScalar
    rw [literalChars, readScalar_chars d hrest]
    rfl
  | .boolean b =>
    apply readLiteralIn_of_readScalar
    cases b <;> rfl
  | .date d =>
    apply readLiteralIn_of_readScalar
    rw [literalChars_date, literalChars, readScalar_stringChars, String.ofList_toList]
    rfl
  | .list [] =>
    rw [literalChars]
    show readLiteralIn stack ('(' :: ')' :: rest) = _
    rw [readLiteralIn]
    rfl
  | .list (v :: vs) =>
    have hopen : ∀ ds, literalChars v ++ (moreLiterals vs ++ rest) ≠ ')' :: ds := by
      obtain ⟨c, cs, hliteral, -, hc⟩ := exists_literalChars_eq_cons v
      intro ds h
      rw [hliteral] at h
      exact hc (List.cons.inj h).1
    rw [literalChars, List.append_assoc, List.cons_append, readLiteralIn_openList hopen,
      readLiteralIn_literalChars ([] :: stack) v (closesNumeral_moreLiterals vs rest),
      readAfter_moreLiterals]
    rfl
termination_by sizeOf v

/-- Behind a member the reader comes to the end of its list with all members of the list. -/
theorem readAfter_moreLiterals (stack : List (List Value)) (members : List Value) (v : Value)
    (vs : List Value) (rest : List Char) :
    readAfter (members :: stack) v (moreLiterals vs ++ rest) =
      readAfter stack (.list (members.reverse ++ v :: Value.allDatesAsText vs)) rest := by
  match vs with
  | [] =>
    rw [moreLiterals, List.singleton_append, readAfter, List.reverse_cons]
    rfl
  | w :: vs =>
    rw [moreLiterals, List.append_assoc]
    show readAfter (members :: stack) v (',' :: ' ' :: (literalChars w ++ _)) = _
    rw [readAfter, readLiteralIn_literalChars _ w (closesNumeral_moreLiterals vs rest),
      readAfter_moreLiterals, List.reverse_cons, List.append_assoc, List.singleton_append,
      Value.allDatesAsText]
termination_by sizeOf vs

end

/-- The literal of a value is read as the value, with its dates as texts, up to exactly where the
literal ends. -/
theorem reading_undoes_literal (v : Value) (rest : List Char)
    (hrest : ∀ c ∈ rest.head?, c.isDigit = false ∧ c ≠ '.') :
    readLiteral ((literal v).toList ++ rest) = some (v.datesAsText, rest) := by
  rw [literal, String.toList_ofList, readLiteral, readLiteralIn_literalChars [] v hrest, readAfter]

/-- A text that starts with a quote and ends with a backslash stays inside its literal, next to an
empty list, a nested one and a date. -/
theorem reading_undoes_literal_of_hostile_list :
    let number : Value := .number ⟨-50, 2, by decide, by decide⟩
    let v : Value := .list [.string "' OR 1 = 1 -- \\", .list [], .list [number, .boolean false],
      .date ⟨2020, 2, 29, by decide, by decide, by decide⟩]
    let w : Value := .list [.string "' OR 1 = 1 -- \\", .list [], .list [number, .boolean false],
      .string "2020-02-29"]
    let rest := [')', ' ', 'O', 'R', ' ', '1']
    literal v = "('\\' OR 1 = 1 -- \\\\', (), (-0.50, false), '2020-02-29')" ∧
      readLiteral ((literal v).toList ++ rest) = some (w, rest) := by
  intro number v w rest
  have hw : v.datesAsText = w := by decide +kernel
  refine ⟨by decide +kernel, ?_⟩
  rw [← hw]
  apply reading_undoes_literal
  simp [rest]

end FilterQuery.Sql
