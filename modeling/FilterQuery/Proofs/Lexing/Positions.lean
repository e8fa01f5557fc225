import Mathlib.Logic.Function.Iterate
import FilterQuery.Proofs.Lexing.Spelling

/-!
# Where the lexer stands

The lexer can be called any number of times, whatever it has answered before. At all times it stands
somewhere in its text, with what is behind that place left to be read (`StandsIn`).

* It never goes back. Each call passes over something, unless it answers with the end or with a
  character that starts no token; after such an answer it stays where it is (`next_of_isFinal`). As
  each call changes nothing or leaves less to be read, the answers are all the same once there were
  as many calls as the text has characters.
* Its errors point at the text that they name. What a call answers is tied to what it has passed
  over (`Step`), and that stands in the text where the lexer was.
-/

namespace FilterQuery

/-! ### Repeated steps -/

section

variable {α : Type} {x : α} {k m : Nat}

theorem iterate_eq_of_fixed {f : α → α} (h : f (f^[k] x) = f^[k] x) (hm : k ≤ m) :
    f^[m] x = f^[k] x := by
  obtain ⟨j, rfl⟩ := Nat.exists_eq_add_of_le' hm
  rw [Function.iterate_add_apply, Function.iterate_fixed h]

/-- Steps that change nothing or leave less come to rest before nothing is left. -/
theorem iterate_eq_of_size_le (f : α → α) (size : α → Nat)
    (h : ∀ x, f x = x ∨ size (f x) < size x) (hk : size x ≤ k) (hm : k ≤ m) :
    f^[m] x = f^[k] x := by
  have hfixed : f (f^[k] x) = f^[k] x := by
    clear hm
    induction k generalizing x with
    | zero =>
      rcases h x with hx | hx
      · exact hx
      · omega
    | succ k ih =>
      rw [Function.iterate_succ_apply]
      rcases h x with hx | hx
      · rw [hx, Function.iterate_fixed hx]
        exact hx
      · apply ih
        omega
  exact iterate_eq_of_fixed hfixed hm

end

namespace Lexer

variable {l l' : Lexer} {source gap run rest : List Char} {k m : Nat}
  {a : Except LexError Token}

/-- The answer of the lexer to one more call after `k` calls. -/
def answer (l : Lexer) (k : Nat) : Except LexError Token := (l.after k).next.1

theorem after_eq_iterate (l : Lexer) (n : Nat) : l.after n = (fun l => l.next.2)^[n] l := by
  induction n generalizing l with
  | zero => rfl
  | succ n ih => exact ih _

theorem after_succ (l : Lexer) (n : Nat) : l.after (n + 1) = (l.after n).next.2 := by
  rw [after_eq_iterate, after_eq_iterate, Function.iterate_succ_apply']

/-! ### Progress -/

/-- An answer after which the lexer stays where it is: the end of the text, or a character that no
token starts with. -/
def IsFinal (a : Except LexError Token) : Prop :=
  a = .ok .eof ∨ ∃ c p, a = .error (.unexpectedChar c p)

/-- Any other answer is read from something. -/
theorem Reads.run_ne_nil {position : Nat} (h : Reads position run rest a)
    (ha : ¬IsFinal a) : run ≠ [] := by
  cases h with
  | ending => exact absurd (.inl rfl) ha
  | unexpectedChar => exact absurd (.inr ⟨_, _, rfl⟩) ha
  | symbol hs => exact List.ne_nil_of_length_pos (symbol?_eq_some hs).2
  | word hbare => exact hbare.ne_nil
  | string | unterminatedString | invalidEscape => exact List.cons_ne_nil _ _

theorem Step.position_lt (h : l.Step gap run a l') (ha : ¬IsFinal a) :
    l.position < l'.position := by
  have hrun : 0 < run.length := List.length_pos_iff.2 (h.reads.run_ne_nil ha)
  rw [h.position_eq]
  omega

theorem next_unexpectedChar {c : Char} {cs : List Char} (hs : symbol? (c :: cs) = none)
    (hc : c = '!' ∨ c = '(' ∨ c = ')') (position : Nat) :
    (Lexer.mk (c :: cs) position).next =
      (.error (.unexpectedChar c position), ⟨c :: cs, position⟩) := by
  have hblank : ∀ d ∈ (c :: cs).head?, Text.isBlank d = false := by
    rcases hc with rfl | rfl | rfl <;> simp [Text.isBlank]
  have hquote : c ≠ '"' := by
    rcases hc with rfl | rfl | rfl <;> decide
  unfold next
  rw [skipBlanks_of_head hblank]
  simp only [hs, if_neg hquote, if_pos hc]

/-- After a final answer the lexer gives the same answer again, and nothing changes. -/
theorem next_of_isFinal (h : l.next = (a, l')) (ha : IsFinal a) :
    l'.next = (a, l') := by
  obtain ⟨gap, run, hstep⟩ := l.exists_step
  rw [h] at hstep
  obtain ⟨rest, position⟩ := l'
  have hposition := hstep.position_eq
  -- Only two of the ways to read give a final answer, and both pass over nothing but blanks.
  cases hstep.reads with
  | ending => exact next_of_rest_eq_nil rfl
  | unexpectedChar hs hc =>
    obtain rfl : position = l.position + gap.length := hposition
    exact next_unexpectedChar hs hc _
  | symbol hs =>
    rcases ha with ha | ⟨_, _, ha⟩
    · exact absurd (Except.ok.inj ha) (symbol?_eq_some hs).1
    · cases ha
  | word _ _ hword =>
    rcases ha with rfl | ⟨c, p, rfl⟩
    · exact absurd hword (classify_ne_eof _ _)
    · rcases classify_eq_error hword with he | he <;> cases he
  | string | unterminatedString | invalidEscape => rcases ha with ha | ⟨_, _, ha⟩ <;> cases ha

/-- A call that changes something leaves less to be read. -/
theorem next_eq_self_or_lt (l : Lexer) :
    l.next.2 = l ∨ l.next.2.rest.length < l.rest.length := by
  obtain ⟨gap, run, hstep⟩ := l.exists_step
  generalize l.next.2 = l' at hstep
  have hlength : l.rest.length = gap.length + (run.length + l'.rest.length) := by
    rw [hstep.rest_eq, List.length_append, List.length_append]
  by_cases hlt : l'.rest.length < l.rest.length
  · exact .inr hlt
  · left
    obtain rfl : gap = [] := List.eq_nil_of_length_eq_zero (by omega)
    obtain rfl : run = [] := List.eq_nil_of_length_eq_zero (by omega)
    obtain ⟨rest, position⟩ := l
    obtain ⟨rest', position'⟩ := l'
    obtain rfl : rest = rest' := hstep.rest_eq
    obtain rfl : position' = position := hstep.position_eq
    rfl

theorem length_rest_next_le (l : Lexer) : l.next.2.rest.length ≤ l.rest.length := by
  rcases l.next_eq_self_or_lt with h | h
  · exact Nat.le_of_eq (by rw [h])
  · exact Nat.le_of_lt h

/-- Once a call has changed nothing, no later call does. -/
theorem after_eq_of_next (h : (l.after k).next.2 = l.after k) (hm : k ≤ m) :
    l.after m = l.after k := by
  rw [after_eq_iterate] at h
  rw [after_eq_iterate, after_eq_iterate]
  exact iterate_eq_of_fixed h hm

/-- After as many calls as there are characters left, nothing changes. -/
theorem after_eq_of_length_le (l : Lexer) (hm : l.rest.length ≤ m) :
    l.after m = l.after l.rest.length := by
  rw [after_eq_iterate, after_eq_iterate]
  exact iterate_eq_of_size_le _ (fun l => l.rest.length) next_eq_self_or_lt (Nat.le_refl _) hm

/-! ### Places -/

/-- `l` has read `source` up to its position, and has the rest of it left. -/
def StandsIn (source : List Char) (l : Lexer) : Prop :=
  ∃ before, source = before ++ l.rest ∧ l.position = before.length

theorem StandsIn.position_le (h : l.StandsIn source) : l.position ≤ source.length := by
  obtain ⟨before, rfl, hposition⟩ := h
  rw [hposition, List.length_append]
  exact Nat.le_add_right _ _

/-- What a call has read stands behind what was read before and behind the blanks. -/
theorem Step.exists_before (h : l.Step gap run a l') (hl : l.StandsIn source) :
    ∃ before, source = before ++ (run ++ l'.rest) ∧ l.position + gap.length = before.length := by
  obtain ⟨before, rfl, hposition⟩ := hl
  refine ⟨before ++ gap, ?_, ?_⟩
  · rw [h.rest_eq, List.append_assoc]
  · rw [hposition, List.length_append]

theorem Step.standsIn (h : l.Step gap run a l') (hl : l.StandsIn source) :
    l'.StandsIn source := by
  obtain ⟨before, rfl, hlength⟩ := h.exists_before hl
  refine ⟨before ++ run, ?_, ?_⟩
  · rw [List.append_assoc]
  · rw [h.position_eq, hlength, List.length_append]

theorem standsIn_after (source : String) (k : Nat) :
    ((ofSource source).after k).StandsIn source.toList := by
  induction k with
  | zero => exact ⟨[], rfl, rfl⟩
  | succ k ih =>
    obtain ⟨gap, run, hstep⟩ := ((ofSource source).after k).exists_step
    rw [after_succ]
    exact hstep.standsIn ih

/-- The lexer never goes back and never leaves its text. Every call moves it on, unless it answers
with the end of the text or with a character that starts no token; then all later calls answer the
same and change nothing. So the answers are all the same once there were as many calls as
characters. -/
theorem lexing_advances_until_settled (source : String) :
    (∀ k, ((ofSource source).after k).position ≤ ((ofSource source).after (k + 1)).position ∧
      ((ofSource source).after k).position ≤ source.length) ∧
    (∀ k, ¬IsFinal ((ofSource source).answer k) →
      ((ofSource source).after k).position < ((ofSource source).after (k + 1)).position) ∧
    (∀ k, IsFinal ((ofSource source).answer k) → ∀ m > k,
      (ofSource source).answer m = (ofSource source).answer k ∧
        (ofSource source).after m = (ofSource source).after (k + 1)) ∧
    ∀ m ≥ source.length, (ofSource source).answer m = (ofSource source).answer source.length := by
  refine ⟨?_, ?_, ?_, ?_⟩
  · intro k
    obtain ⟨gap, run, hstep⟩ := ((ofSource source).after k).exists_step
    constructor
    · rw [after_succ, hstep.position_eq]
      omega
    · rw [← String.length_toList]
      exact (standsIn_after source k).position_le
  · intro k hk
    obtain ⟨gap, run, hstep⟩ := ((ofSource source).after k).exists_step
    rw [after_succ]
    exact hstep.position_lt hk
  · intro k hk m hm
    have hagain : ((ofSource source).after (k + 1)).next =
        ((ofSource source).answer k, (ofSource source).after (k + 1)) := by
      rw [after_succ]
      exact next_of_isFinal rfl hk
    have hstays : (ofSource source).after m = (ofSource source).after (k + 1) :=
      after_eq_of_next (congrArg Prod.snd hagain) hm
    refine ⟨?_, hstays⟩
    rw [answer, hstays, hagain]
  · intro m hm
    have hrest : (ofSource source).rest.length = source.length := String.length_toList
    have hstays := (ofSource source).after_eq_of_length_le (hrest ▸ hm)
    rw [answer, hstays, hrest]
    rfl

/-- An escape that is not known lets the lexer go on inside the string, where it stops for good at
an exclamation mark. -/
theorem lexing_advances_until_settled_of_bad_escape :
    let l := ofSource "\"\\x !"
    (l.answer 0 = .error (.invalidEscape 'x' 2) ∧ (l.after 0).position < (l.after 1).position) ∧
      l.answer 2 = .error (.unexpectedChar '!' 4) ∧
      (∀ m > 2, l.answer m = l.answer 2 ∧ l.after m = l.after 3) ∧ l.answer 7 = l.answer 5 := by
  have hescape : (ofSource "\"\\x !").answer 0 = .error (.invalidEscape 'x' 2) := rfl
  have hmark : (ofSource "\"\\x !").answer 2 = .error (.unexpectedChar '!' 4) := rfl
  obtain ⟨-, hmoves, hstays, hsame⟩ := lexing_advances_until_settled "\"\\x !"
  refine ⟨⟨hescape, hmoves 0 ?_⟩, hmark, hstays 2 (.inr ⟨_, _, hmark⟩), hsame 7 (by decide)⟩
  rintro (h | ⟨c, p, h⟩) <;> cases hescape.symm.trans h

end Lexer

/-! ### Errors -/

namespace LexError

/-- Where the error is. -/
def position : LexError → Nat
  | unexpectedChar _ p | unterminatedString p | invalidEscape _ p | invalidNumber _ p
  | invalidDate _ p => p

/-- `word` stands in `source` at `position`, has no delimiter in it, and has one or nothing behind
it. -/
structure NamesWord (source word : List Char) (position : Nat) : Prop where
  take_eq : (source.drop position).take word.length = word
  not_isDelimiter : ∀ c ∈ word, Lexer.isDelimiter c = false
  isDelimiter_behind : ∀ c ∈ source[position + word.length]?, Lexer.isDelimiter c = true

/-- The error tells the truth about `source`, where `left` is the place that the lexer has come to.
A character is where the error says; that of an escape has its backslash in front of it and is none
that can be escaped. A string without end starts with its quote and takes all that is left. A faulty
number or date is a whole word, and the lexer has come behind it. -/
def PointsInto (source : List Char) (left : Nat) : LexError → Prop
  | unexpectedChar c p => source[p]? = some c
  | unterminatedString p => source[p]? = some '"' ∧ left = source.length
  | invalidEscape c p =>
    source[p]? = some c ∧ 0 < p ∧ source[p - 1]? = some '\\' ∧ c ≠ '"' ∧ c ≠ '\\'
  | invalidNumber text p | invalidDate text p =>
    NamesWord source text.toList p ∧ left = p + text.length

end LexError

namespace Lexer

variable {before run rest : List Char} {e : LexError}

theorem namesWord_of_isBare (hrun : IsBare run) (hrest : ∀ c ∈ rest.head?, isDelimiter c = true) :
    LexError.NamesWord (before ++ (run ++ rest)) run before.length where
  take_eq := by simp
  not_isDelimiter := hrun.not_isDelimiter
  isDelimiter_behind c hc := by
    apply hrest
    rw [← List.append_assoc, ← List.length_append, List.getElem?_append_right (Nat.le_refl _),
      Nat.sub_self] at hc
    rwa [List.head?_eq_getElem?]

/-- The character of an escape stands behind its backslash. -/
theorem pointsInto_invalidEscape {c : Char} (start cs : List Char) (left : Nat) (hquote : c ≠ '"')
    (hbackslash : c ≠ '\\') :
    (LexError.invalidEscape c (start.length + 1)).PointsInto (start ++ '\\' :: c :: cs) left := by
  refine ⟨?_, Nat.succ_pos _, ?_, hquote, hbackslash⟩
  · rw [List.getElem?_append_right (Nat.le_add_right _ 1), Nat.add_sub_cancel_left]
    rfl
  · rw [Nat.add_sub_cancel, List.getElem?_append_right (Nat.le_refl _), Nat.sub_self]
    rfl

/-- An error points into the text that the call has read, which starts behind `before`. -/
theorem Reads.pointsInto (h : Reads before.length run rest (.error e)) :
    e.PointsInto (before ++ (run ++ rest)) (before.length + run.length) ∧
      before.length ≤ e.position ∧ e.position < (before ++ (run ++ rest)).length := by
  cases h with
  | unexpectedChar =>
    refine ⟨?_, Nat.le_refl _, ?_⟩
    · simp [LexError.PointsInto]
    · simp [LexError.position]
  | unterminatedString inside =>
    refine ⟨⟨?_, ?_⟩, Nat.le_refl _, ?_⟩
    · simp
    · simp
    · simp [LexError.position]
  | @invalidEscape inside cs c hquote hbackslash =>
    have hsource : before ++ ('"' :: (inside ++ ['\\']) ++ c :: cs) =
        (before ++ '"' :: inside) ++ '\\' :: c :: cs := by
      simp
    have hposition : before.length + inside.length + 2 = (before ++ '"' :: inside).length + 1 := by
      simp only [List.length_append, List.length_cons]
      omega
    rw [hsource, hposition]
    refine ⟨pointsInto_invalidEscape _ _ _ hquote hbackslash, ?_, ?_⟩
    · simp only [LexError.position, List.length_append]
      omega
    · simp only [LexError.position, List.length_append, List.length_cons]
      omega
  | word hrun hrest hword =>
    have hnames : LexError.NamesWord (before ++ (run ++ rest)) (String.ofList run).toList
        before.length := by
      rw [String.toList_ofList]
      exact namesWord_of_isBare hrun hrest
    have hleft : before.length + run.length = before.length + (String.ofList run).length := by
      rw [String.length_ofList]
    have hlt : before.length < (before ++ (run ++ rest)).length := by
      have hpos : 0 < run.length := List.length_pos_iff.2 hrun.ne_nil
      rw [List.length_append, List.length_append]
      omega
    rcases classify_eq_error hword with rfl | rfl <;>
      exact ⟨⟨hnames, hleft⟩, Nat.le_refl _, hlt⟩

end Lexer

/-- Whatever was called before, an error points at the text that it names, at or behind the place
where the lexer was and before the end. -/
theorem lex_errors_point_at_text (source : String) (k : Nat) (e : LexError)
    (h : (Lexer.ofSource source).answer k = .error e) :
    e.PointsInto source.toList ((Lexer.ofSource source).after (k + 1)).position ∧
      ((Lexer.ofSource source).after k).position ≤ e.position ∧ e.position < source.length := by
  have hstands := Lexer.standsIn_after source k
  rw [Lexer.answer] at h
  rw [Lexer.after_succ, ← String.length_toList]
  generalize (Lexer.ofSource source).after k = l at h hstands
  obtain ⟨gap, run, hstep⟩ := l.exists_step
  obtain ⟨before, hsource, hbefore⟩ := hstep.exists_before hstands
  have hreads := hstep.reads
  rw [h, hbefore] at hreads
  obtain ⟨hpoints, hle, hlt⟩ := hreads.pointsInto
  rw [hstep.position_eq, hsource, hbefore]
  exact ⟨hpoints, by omega, hlt⟩

/-- Three errors in one text: an escape that is not known, a day that is not in the calendar, found
when the lexer goes on inside the string, and the quote that was meant to close it. -/
theorem lex_errors_point_at_text_of_broken_string :
    let l := Lexer.ofSource "\"\\x 2020-02-30 \""
    let text := "\"\\x 2020-02-30 \"".toList
    (l.answer 0 = .error (.invalidEscape 'x' 2) ∧
      (LexError.invalidEscape 'x' 2).PointsInto text (l.after 1).position) ∧
    (l.answer 2 = .error (.invalidDate "2020-02-30" 4) ∧
      (LexError.invalidDate "2020-02-30" 4).PointsInto text (l.after 3).position) ∧
    l.answer 3 = .error (.unterminatedString 15) ∧
      (LexError.unterminatedString 15).PointsInto text (l.after 4).position := by
  have hescape : (Lexer.ofSource "\"\\x 2020-02-30 \"").answer 0 =
      .error (.invalidEscape 'x' 2) := rfl
  have hdate : (Lexer.ofSource "\"\\x 2020-02-30 \"").answer 2 =
      .error (.invalidDate "2020-02-30" 4) := rfl
  have hquote : (Lexer.ofSource "\"\\x 2020-02-30 \"").answer 3 =
      .error (.unterminatedString 15) := rfl
  exact ⟨⟨hescape, (lex_errors_point_at_text _ 0 _ hescape).1⟩,
    ⟨hdate, (lex_errors_point_at_text _ 2 _ hdate).1⟩,
    hquote, (lex_errors_point_at_text _ 3 _ hquote).1⟩

end FilterQuery
