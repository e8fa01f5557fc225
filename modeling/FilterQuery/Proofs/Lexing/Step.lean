import FilterQuery.Token.Lexer

/-!
# One call of the lexer

A call of `Lexer.next` passes over blanks, then over a run of characters, and answers. `Reads` lists
the answers that go with a run and what is left behind it, one for each way the lexer can go;
`exists_step` says that every call is one of them. What holds of all calls, whatever they answer, is
read off these cases and not off the lexer itself.
-/

namespace FilterQuery.Lexer

theorem skip_append (run rest : List Char) (position : Nat) :
    (Lexer.mk (run ++ rest) position).skip run.length = ⟨rest, position + run.length⟩ := by
  simp [skip]

/-! ### Symbols and words -/

theorem le_length_of_symbol? {cs : List Char} {t : Token} {n : Nat}
    (h : symbol? cs = some (t, n)) : n ≤ cs.length := by
  unfold symbol? at h
  split at h <;> cases h <;> simp

section

variable {c : Char} {cs : List Char}

theorem isDelimiter_of_isBlank (h : Text.isBlank c = true) : isDelimiter c = true := by
  simp [isDelimiter, h]

theorem isDelimiter_eq_false_iff :
    isDelimiter c = false ↔ Text.isBlank c = false ∧ c ∉ [':', '"', '[', ']', ',', '(', ')'] := by
  simp [isDelimiter, and_assoc]

/-- A text that is read as one word, whatever the word stands for. -/
structure IsBare (w : List Char) : Prop where
  ne_nil : w ≠ []
  not_isDelimiter : ∀ c ∈ w, isDelimiter c = false
  head_not_comparison : ∀ c ∈ w.head?, c ∉ ['=', '>', '<', '!']

theorem head_ne_of_symbol?_eq_none (h : symbol? (c :: cs) = none) :
    c ≠ '=' ∧ c ≠ '>' ∧ c ≠ '<' := by
  refine ⟨?_, ?_, ?_⟩ <;> rintro rfl <;> unfold symbol? at h <;> split at h <;> simp_all

theorem isBare_takeWhile (cs : List Char) (hd : isDelimiter c = false)
    (hc : c ∉ ['=', '>', '<', '!']) :
    IsBare ((c :: cs).takeWhile fun c => !isDelimiter c) where
  ne_nil := by simp [hd]
  not_isDelimiter d hmem := by
    have := List.all_eq_true.1 List.all_takeWhile d hmem
    simpa using this
  head_not_comparison := by simpa [hd] using hc

end

/-- A word that cannot be read is named in the error. -/
theorem classify_eq_error {text : String} {position : Nat} {e : LexError}
    (h : classify text position = .error e) :
    e = .invalidNumber text position ∨ e = .invalidDate text position := by
  unfold classify at h
  repeat' split at h
  all_goals cases h
  · exact .inr rfl
  · exact .inl rfl

theorem classify_ne_eof (text : String) (position : Nat) :
    classify text position ≠ .ok .eof := by
  unfold classify
  repeat' split
  all_goals simp

/-! ### Strings -/

/-- The inside of a string ends behind `passed`, where `rest` is left. -/
inductive StringEnd.Ends : (passed rest : List Char) → StringEnd → Prop
  | closed (inside rest : List Char) : Ends (inside ++ ['"']) rest .closed
  | unterminated (inside : List Char) : Ends inside [] .unterminated
  | badEscape (inside cs : List Char) {c : Char} (hquote : c ≠ '"') (hbackslash : c ≠ '\\') :
    Ends (inside ++ ['\\']) (c :: cs) (.badEscape c)

theorem StringEnd.Ends.append {passed rest : List Char} {ending : StringEnd} (cs : List Char)
    (h : ending.Ends passed rest) : ending.Ends (cs ++ passed) rest := by
  cases h with
  | closed inside => rw [← List.append_assoc]; exact .closed _ _
  | unterminated => exact .unterminated _
  | badEscape inside ds hquote hbackslash =>
    rw [← List.append_assoc]
    exact .badEscape _ _ hquote hbackslash

/-- The inside of a string is passed over up to where it ends. -/
theorem exists_ends_readString (read : List Char) (count : Nat) (cs : List Char) :
    ∃ passed rest, cs = passed ++ rest ∧
      (readString read count cs).2.1 = count + passed.length ∧
      (readString read count cs).2.2.Ends passed rest := by
  fun_induction readString read count cs with
  | case1 read count => exact ⟨[], [], rfl, rfl, .unterminated _⟩
  | case2 read count cs => exact ⟨['"'], cs, rfl, rfl, .closed [] cs⟩
  | case3 read count => exact ⟨['\\'], [], rfl, rfl, .unterminated _⟩
  | case4 read count c cs hc ih =>
    obtain ⟨passed, rest, rfl, hcount, hends⟩ := ih
    refine ⟨'\\' :: c :: passed, rest, rfl, ?_, hends.append ['\\', c]⟩
    rw [hcount, List.length_cons, List.length_cons]
    omega
  | case5 read count c cs hc =>
    obtain ⟨hquote, hbackslash⟩ := not_or.1 hc
    exact ⟨['\\'], c :: cs, rfl, rfl, .badEscape [] cs hquote hbackslash⟩
  | case6 read count c cs _ _ _ ih =>
    obtain ⟨passed, rest, rfl, hcount, hends⟩ := ih
    refine ⟨c :: passed, rest, rfl, ?_, hends.append [c]⟩
    rw [hcount, List.length_cons]
    omega

/-! ### Calls -/

/-- What the lexer answers if it passes over `run` from `position` on and leaves `rest`. -/
inductive Reads (position : Nat) : (run rest : List Char) → Except LexError Token → Prop
  | ending : Reads position [] [] (.ok .eof)
  | symbol {run rest : List Char} {t : Token} (h : symbol? (run ++ rest) = some (t, run.length)) :
    Reads position run rest (.ok t)
  | string (inside rest : List Char) (text : String) :
    Reads position ('"' :: (inside ++ ['"'])) rest (.ok (.string text))
  | unterminatedString (inside : List Char) :
    Reads position ('"' :: inside) [] (.error (.unterminatedString position))
  | invalidEscape (inside cs : List Char) {c : Char} (hquote : c ≠ '"') (hbackslash : c ≠ '\\') :
    Reads position ('"' :: (inside ++ ['\\'])) (c :: cs)
      (.error (.invalidEscape c (position + inside.length + 2)))
  | unexpectedChar {c : Char} {cs : List Char} (hs : symbol? (c :: cs) = none)
    (hc : c = '!' ∨ c = '(' ∨ c = ')') :
    Reads position [] (c :: cs) (.error (.unexpectedChar c position))
  | word {run rest : List Char} {answer : Except LexError Token} (hrun : IsBare run)
    (hrest : ∀ c ∈ rest.head?, isDelimiter c = true)
    (h : classify (String.ofList run) position = answer) : Reads position run rest answer

/-- `l` passes over the blanks `gap` and over `run`, gives `answer` and is left as `l'`. -/
structure Step (l : Lexer) (gap run : List Char) (answer : Except LexError Token) (l' : Lexer) :
    Prop where
  isBlank_gap : ∀ c ∈ gap, Text.isBlank c = true
  rest_eq : l.rest = gap ++ (run ++ l'.rest)
  position_eq : l'.position = l.position + gap.length + run.length
  reads : Reads (l.position + gap.length) run l'.rest answer

variable {l : Lexer} {c : Char} {cs run rest : List Char} {answer : Except LexError Token}

theorem skip_of_rest_eq (h : l.rest = run ++ rest) :
    l.skip run.length = ⟨rest, l.position + run.length⟩ := by
  rw [← skip_append run rest l.position, ← h]

/-- A lexer that is at no blank passes over the run only. -/
theorem step_of_reads (h : l.rest = run ++ rest) (hreads : Reads l.position run rest answer) :
    l.Step [] run answer (l.skip run.length) := by
  rw [skip_of_rest_eq h]
  exact ⟨nofun, h, rfl, hreads⟩

theorem exists_step_nextString (h : l.rest = '"' :: cs) :
    ∃ run, l.Step [] run l.nextString.1 l.nextString.2 := by
  obtain ⟨passed, rest, hcs, hcount, hends⟩ := exists_ends_readString [] 0 cs
  have hrest : l.rest = '"' :: passed ++ rest := by rw [h, hcs, List.cons_append]
  have hskip : l.skip (1 + (readString [] 0 cs).2.1) = l.skip ('"' :: passed).length := by
    rw [hcount, List.length_cons, Nat.zero_add, Nat.add_comm]
  refine ⟨'"' :: passed, ?_⟩
  unfold nextString
  rw [h]
  simp only [List.drop_one, List.tail_cons, hskip]
  generalize (readString [] 0 cs).1 = text
  generalize (readString [] 0 cs).2.2 = ending at hends
  cases hends with
  | closed inside => exact step_of_reads hrest (.string inside rest _)
  | unterminated => exact step_of_reads hrest (.unterminatedString passed)
  | badEscape inside ds hquote hbackslash =>
    have hposition : (l.skip ('"' :: (inside ++ ['\\'])).length).position =
        l.position + inside.length + 2 := by
      rw [skip_of_rest_eq hrest]
      simp [Nat.add_assoc]
    have hstep := step_of_reads hrest (.invalidEscape inside ds hquote hbackslash)
    rw [← hposition] at hstep
    exact hstep

theorem exists_step_nextWord (h : l.rest = c :: cs) (hd : isDelimiter c = false)
    (hc : c ∉ ['=', '>', '<', '!']) : ∃ run, l.Step [] run l.nextWord.1 l.nextWord.2 := by
  have hrest : l.rest = l.rest.takeWhile (fun c => !isDelimiter c) ++
      l.rest.dropWhile (fun c => !isDelimiter c) := List.takeWhile_append_dropWhile.symm
  have hbare : IsBare (l.rest.takeWhile fun c => !isDelimiter c) := by
    rw [h]
    exact isBare_takeWhile cs hd hc
  refine ⟨_, step_of_reads hrest (.word hbare ?_ rfl)⟩
  intro d hmem
  have hend := List.head?_dropWhile_not (fun c => !isDelimiter c) l.rest
  rw [Option.mem_def.1 hmem] at hend
  simpa using hend

theorem exists_step_symbol {t : Token} {n : Nat} (h : symbol? l.rest = some (t, n)) :
    ∃ run, l.Step [] run (.ok t) (l.skip n) := by
  have hlength : (l.rest.take n).length = n := by
    rw [List.length_take, Nat.min_eq_left (le_length_of_symbol? h)]
  have hrest : l.rest = l.rest.take n ++ l.rest.drop n := (List.take_append_drop n l.rest).symm
  have hreads : Reads l.position (l.rest.take n) (l.rest.drop n) (.ok t) :=
    .symbol (by rw [← hrest, hlength, h])
  have hstep := step_of_reads hrest hreads
  rw [hlength] at hstep
  exact ⟨_, hstep⟩

/-- To pass over blanks first is part of the step. -/
theorem Step.of_skipBlanks {l' : Lexer} (h : l.skipBlanks.Step [] run answer l') :
    ∃ gap, l.Step gap run answer l' := by
  have hgap : l.rest = l.rest.takeWhile Text.isBlank ++ l.skipBlanks.rest := by
    rw [rest_skipBlanks, List.takeWhile_append_dropWhile]
  have hposition : l.skipBlanks.position = l.position + (l.rest.takeWhile Text.isBlank).length := by
    rw [skipBlanks, skip_of_rest_eq hgap]
  have hafter := h.position_eq
  have hreads := h.reads
  rw [hposition] at hafter hreads
  refine ⟨l.rest.takeWhile Text.isBlank, ?_, ?_, hafter, hreads⟩
  · exact List.all_eq_true.1 List.all_takeWhile
  · rw [← List.nil_append (run ++ _), ← h.rest_eq]
    exact hgap

/-- Every call of the lexer passes over blanks and reads what stands behind them. -/
theorem exists_step (l : Lexer) : ∃ gap run, l.Step gap run l.next.1 l.next.2 := by
  suffices h : ∃ run, l.skipBlanks.Step [] run l.next.1 l.next.2 by
    obtain ⟨run, hstep⟩ := h
    obtain ⟨gap, hstep⟩ := hstep.of_skipBlanks
    exact ⟨gap, run, hstep⟩
  have hblank : ∀ c cs, l.skipBlanks.rest = c :: cs → Text.isBlank c = false :=
    fun _ _ => not_isBlank_of_rest_skipBlanks
  unfold next
  generalize l.skipBlanks = m at hblank
  simp only
  split
  · next hm => exact ⟨[], step_of_reads hm .ending⟩
  · next c cs hm =>
    split
    · next t n hs => exact exists_step_symbol (hm ▸ hs)
    · next hs =>
      split
      · next hq =>
        subst hq
        exact exists_step_nextString hm
      · next hq =>
        split
        · next hu => exact ⟨[], step_of_reads hm (.unexpectedChar hs hu)⟩
        · next hu =>
          -- A word is what is left when nothing else starts here.
          have hd := not_isDelimiter_of_symbol?_eq_none (hblank c cs hm) hs hq hu
          have hcomparison := head_ne_of_symbol?_eq_none hs
          refine exists_step_nextWord hm hd ?_
          simp_all

end FilterQuery.Lexer
