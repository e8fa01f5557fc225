import Mathlib.Data.List.DropRight
import FilterQuery.Proofs.Lexing.Spelling

/-!
# Blanks at the end of a text

Blanks behind a text change neither its tokens nor whether there is an error behind them. A symbol
or a word ends at a blank as it ends at the end of the text. Only a string could go on into the
blanks, or a backslash in it escape one, but then the string is not closed and there is an error
with the blanks and without them.

The two lexers are compared call by call (`next_alike`), and their tokens by recursion on what is
left (`tokens_followedBy`).
-/

namespace FilterQuery

/-! ### Trimming -/

/-- A text is what trimming leaves of it, with no blank at its end, and blanks behind that. -/
theorem Text.exists_blanks_trimEnd (s : String) :
    ∃ blanks, s.toList = (trimEnd s).toList ++ blanks ∧ (∀ c ∈ blanks, isBlank c = true) ∧
      ∀ c ∈ (trimEnd s).toList.getLast?, isBlank c = false := by
  have htrim : (trimEnd s).toList = s.toList.rdropWhile isBlank := String.toList_ofList
  rw [htrim]
  refine ⟨s.toList.rtakeWhile isBlank, List.rdropWhile_append_rtakeWhile.symm, ?_, ?_⟩
  · intro c hc
    exact List.mem_rtakeWhile_imp hc
  · intro c hc
    obtain ⟨hne, rfl⟩ := List.mem_getLast?_eq_getLast hc
    simpa using List.rdropWhile_last_not isBlank s.toList hne

namespace Lexer

variable {blanks : List Char}

/-! ### One call -/

/-- `l` with `more` behind what it has left. -/
def followedBy (l : Lexer) (more : List Char) : Lexer := ⟨l.rest ++ more, l.position⟩

theorem skip_followedBy {l : Lexer} {n : Nat} (h : n ≤ l.rest.length) (more : List Char) :
    (l.followedBy more).skip n = (l.skip n).followedBy more := by
  simp [skip, followedBy, List.drop_append_of_le_length h]

/-- What a lexer answers alone and with `more` behind its text: both are at the end, both read the
same token and go on alike, or both fail. -/
inductive Alike (more : List Char) :
    Except LexError Token × Lexer → Except LexError Token × Lexer → Prop
  | ending (l l' : Lexer) : Alike more (.ok .eof, l) (.ok .eof, l')
  | token (t : Token) (l : Lexer) : Alike more (.ok t, l) (.ok t, l.followedBy more)
  | error (e e' : LexError) (l l' : Lexer) : Alike more (.error e, l) (.error e', l')

theorem ne_of_isBlank {c : Char} (h : Text.isBlank c = true) : c ≠ '"' ∧ c ≠ '\\' ∧ c ≠ '=' := by
  refine ⟨?_, ?_, ?_⟩ <;> rintro rfl <;> cases h

theorem symbol?_of_not_mem {c : Char} (h : c ∉ ['>', '<', '!', '=', ':', ',', '[', ']'])
    (cs : List Char) : symbol? (c :: cs) = none := by
  unfold symbol?
  split <;> simp_all

/-- Only an equals sign goes on with a symbol. -/
theorem symbol?_congr {cs ds : List Char} (c : Char)
    (h : cs.head? = some '=' ↔ ds.head? = some '=') : symbol? (c :: cs) = symbol? (c :: ds) := by
  by_cases hc : c ∈ ['>', '<', '!', '=', ':', ',', '[', ']']
  · simp only [List.mem_cons, List.not_mem_nil, or_false] at hc
    by_cases hcs : cs.head? = some '='
    · obtain ⟨cs, rfl⟩ := List.head?_eq_some_iff.1 hcs
      obtain ⟨ds, rfl⟩ := List.head?_eq_some_iff.1 (h.1 hcs)
      rcases hc with rfl | rfl | rfl | rfl | rfl | rfl | rfl | rfl <;> rfl
    · have hds := mt h.2 hcs
      have hne : ∀ es : List Char, es.head? ≠ some '=' → ∀ tail, es ≠ '=' :: tail := by
        rintro _ hes tail rfl
        exact hes rfl
      rcases hc with rfl | rfl | rfl | rfl | rfl | rfl | rfl | rfl <;>
        simp [symbol?, hne cs hcs, hne ds hds]
  · rw [symbol?_of_not_mem hc, symbol?_of_not_mem hc]

theorem symbol?_append_blanks (hblanks : ∀ c ∈ blanks, Text.isBlank c = true) (c : Char)
    (cs : List Char) : symbol? (c :: (cs ++ blanks)) = symbol? (c :: cs) := by
  apply symbol?_congr
  cases cs with
  | cons d ds => rfl
  | nil =>
    have hhead : blanks.head? ≠ some '=' := by
      intro h
      exact (ne_of_isBlank (hblanks '=' (List.mem_of_mem_head? h))).2.2 rfl
    simpa using hhead

theorem readString_blanks (hblanks : ∀ c ∈ blanks, Text.isBlank c = true) (read : List Char)
    (count : Nat) : (readString read count blanks).2.2 = .unterminated := by
  induction blanks generalizing read count with
  | nil => rfl
  | cons b bs ih =>
    obtain ⟨hquote, hbackslash, -⟩ := ne_of_isBlank (hblanks b List.mem_cons_self)
    rw [readString]
    · exact ih (fun c hc => hblanks c (List.mem_cons_of_mem b hc)) _ _
    · exact hquote
    · exact fun hb _ => hbackslash hb
    · exact fun _ _ hb _ => hbackslash hb

/-- The inside of a string is read as without the blanks, unless it is not closed before them. -/
theorem readString_append_blanks (hblanks : ∀ c ∈ blanks, Text.isBlank c = true)
    (read : List Char) (count : Nat) (cs : List Char) :
    readString read count (cs ++ blanks) = readString read count cs ∨
      (readString read count cs).2.2 ≠ .closed ∧
        (readString read count (cs ++ blanks)).2.2 ≠ .closed := by
  fun_induction readString read count cs with
  | case1 read count =>
    right
    rw [List.nil_append, readString_blanks hblanks]
    simp
  | case2 read count cs => exact .inl (by rw [List.cons_append, readString])
  | case3 read count =>
    cases blanks with
    | nil => exact .inl rfl
    | cons b bs =>
      -- The backslash now stands before a blank, which it cannot escape.
      obtain ⟨hquote, hbackslash, -⟩ := ne_of_isBlank (hblanks b List.mem_cons_self)
      right
      rw [List.cons_append, List.nil_append, readString, if_neg (not_or.2 ⟨hquote, hbackslash⟩)]
      simp
  | case4 read count c cs hc ih =>
    rw [List.cons_append, List.cons_append, readString, if_pos hc]
    exact ih
  | case5 read count c cs hc =>
    left
    rw [List.cons_append, List.cons_append, readString, if_neg hc]
  | case6 read count c cs hquote hlast hescape ih =>
    have hbackslash : c ≠ '\\' := by
      rintro rfl
      cases cs with
      | nil => exact hlast rfl rfl
      | cons d ds => exact hescape d ds rfl rfl
    rw [List.cons_append, readString]
    · exact ih
    · exact hquote
    · exact fun hc _ => hbackslash hc
    · exact fun _ _ hc _ => hbackslash hc

theorem exists_nextString_eq_error {l : Lexer}
    (h : (readString [] 0 (l.rest.drop 1)).2.2 ≠ .closed) :
    ∃ e l', l.nextString = (.error e, l') := by
  unfold nextString
  generalize readString [] 0 (l.rest.drop 1) = r at h
  obtain ⟨text, count, ending⟩ := r
  cases ending with
  | closed => exact absurd rfl h
  | unterminated | badEscape => exact ⟨_, _, rfl⟩

theorem nextString_alike (hblanks : ∀ c ∈ blanks, Text.isBlank c = true) (cs : List Char)
    (position : Nat) :
    Alike blanks (Lexer.mk ('"' :: cs) position).nextString
      (Lexer.mk ('"' :: (cs ++ blanks)) position).nextString := by
  rcases readString_append_blanks hblanks [] 0 cs with hsame | ⟨hopen, hopen'⟩
  · obtain ⟨passed, rest, rfl, hcount, -⟩ := exists_ends_readString [] 0 cs
    have hskip := skip_followedBy (l := ⟨'"' :: (passed ++ rest), position⟩)
      (n := 1 + (readString [] 0 (passed ++ rest)).2.1)
      (by rw [hcount, List.length_cons, List.length_append]; omega) blanks
    unfold nextString
    simp only [followedBy, List.cons_append, List.drop_one, List.tail_cons, hsame] at hskip ⊢
    generalize readString [] 0 (passed ++ rest) = r at hskip ⊢
    obtain ⟨text, count, ending⟩ := r
    simp only [hskip]
    cases ending with
    | closed => exact .token _ _
    | unterminated | badEscape => exact .error _ _ _ _
  · obtain ⟨e, l, hnext⟩ := exists_nextString_eq_error (l := ⟨'"' :: cs, position⟩) hopen
    obtain ⟨e', l', hnext'⟩ :=
      exists_nextString_eq_error (l := ⟨'"' :: (cs ++ blanks), position⟩) hopen'
    rw [hnext, hnext']
    exact .error e e' l l'

/-- A word ends at the first blank behind it, as it ends at the end of the text. -/
theorem nextWord_alike (hblanks : ∀ c ∈ blanks, Text.isBlank c = true) (l : Lexer) :
    Alike blanks l.nextWord (l.followedBy blanks).nextWord := by
  have hnone : blanks.takeWhile (fun c => !isDelimiter c) = [] := by
    cases blanks with
    | nil => rfl
    | cons b bs => simp [isDelimiter_of_isBlank (hblanks b List.mem_cons_self)]
  have hword : (l.rest ++ blanks).takeWhile (fun c => !isDelimiter c) =
      l.rest.takeWhile fun c => !isDelimiter c := by
    rw [List.takeWhile_append, hnone, List.append_nil]
    split
    · next hall => exact ((List.takeWhile_prefix _).eq_of_length hall).symm
    · rfl
  have hskip := skip_followedBy (l := l)
    (List.takeWhile_prefix fun c => !isDelimiter c).length_le blanks
  unfold nextWord
  simp only [followedBy, hword] at hskip ⊢
  rw [hskip]
  cases classify (String.ofList (l.rest.takeWhile fun c => !isDelimiter c)) l.position with
  | ok t => exact .token t _
  | error e => exact .error e e _ _

/-- At a character that is not blank a call answers alike with and without blanks behind the
text. -/
theorem next_alike_of_head (hblanks : ∀ c ∈ blanks, Text.isBlank c = true) {c : Char}
    (hc : Text.isBlank c = false) (cs : List Char) (position : Nat) :
    Alike blanks (Lexer.mk (c :: cs) position).next
      (Lexer.mk (c :: (cs ++ blanks)) position).next := by
  unfold next
  rw [skipBlanks_of_head (by simpa using hc), skipBlanks_of_head (by simpa using hc)]
  simp only [symbol?_append_blanks hblanks]
  split
  · next t n hs =>
    have hskip := skip_followedBy (l := ⟨c :: cs, position⟩) (le_length_of_symbol? hs) blanks
    simp only [followedBy, List.cons_append] at hskip
    rw [hskip]
    exact .token t _
  · split
    · next hquote =>
      subst hquote
      exact nextString_alike hblanks cs position
    · split
      · exact .error _ _ _ _
      · exact nextWord_alike hblanks ⟨c :: cs, position⟩

theorem next_of_blanks (hblanks : ∀ c ∈ blanks, Text.isBlank c = true) (position : Nat) :
    (Lexer.mk blanks position).next = (.ok .eof, ⟨[], position + blanks.length⟩) := by
  have hend : ∀ c ∈ ([] : List Char).head?, Text.isBlank c = false := nofun
  calc (Lexer.mk blanks position).next
      = (Lexer.mk (blanks ++ []) position).next := by rw [List.append_nil]
    _ = (Lexer.mk [] (position + blanks.length)).next := next_append_blanks hblanks hend position
    _ = (.ok .eof, ⟨[], position + blanks.length⟩) := next_of_rest_eq_nil rfl

/-- A call answers alike with and without blanks behind the text. -/
theorem next_alike (hblanks : ∀ c ∈ blanks, Text.isBlank c = true) (l : Lexer) :
    Alike blanks l.next (l.followedBy blanks).next := by
  obtain ⟨rest, position⟩ := l
  have hgap : ∀ c ∈ rest.takeWhile Text.isBlank, Text.isBlank c = true :=
    List.all_eq_true.1 List.all_takeWhile
  have hrest := List.takeWhile_append_dropWhile (p := Text.isBlank) (l := rest)
  have hhead := List.head?_dropWhile_not Text.isBlank rest
  generalize rest.takeWhile Text.isBlank = gap at hgap hrest
  generalize rest.dropWhile Text.isBlank = cs at hrest hhead
  subst hrest
  unfold followedBy
  cases cs with
  | nil =>
    -- Only blanks are left, and more of them make no difference.
    have hmore : ∀ c ∈ gap ++ blanks, Text.isBlank c = true := by
      intro c hc
      exact (List.mem_append.1 hc).elim (hgap c) (hblanks c)
    rw [List.append_nil, next_of_blanks hgap, next_of_blanks hmore]
    exact .ending _ _
  | cons c cs =>
    have hc : Text.isBlank c = false := by simpa using hhead
    rw [next_append_blanks hgap (by simpa using hc)]
    simp only [List.append_assoc, List.cons_append]
    rw [next_append_blanks hgap (by simpa using hc)]
    exact next_alike_of_head hblanks hc cs _

/-- Both fail, but not alike: a backslash stands before the blank in one text and at the end of the
other. -/
example : (Lexer.mk ['"', '\\', ' '] 0).next.1 = .error (.invalidEscape ' ' 2) ∧
    (Lexer.mk ['"', '\\'] 0).next.1 = .error (.unterminatedString 0) := ⟨rfl, rfl⟩

/-! ### All calls -/

/-- Blanks behind a text leave its tokens as they are, and no error comes or goes with them. -/
theorem tokens_followedBy (hblanks : ∀ c ∈ blanks, Text.isBlank c = true) (l : Lexer) :
    (l.followedBy blanks).tokens.1 = l.tokens.1 ∧
      ((l.followedBy blanks).tokens.2 = none ↔ l.tokens.2 = none) := by
  have halike := next_alike hblanks l
  generalize hnext : l.next = a at halike
  generalize hnext' : (l.followedBy blanks).next = a' at halike
  cases halike with
  | ending =>
    rw [tokens_of_next_eof hnext, tokens_of_next_eof hnext']
    exact ⟨rfl, Iff.rfl⟩
  | error =>
    rw [tokens_of_next_error hnext, tokens_of_next_error hnext']
    exact ⟨rfl, nofun, nofun⟩
  | token t l' =>
    by_cases ht : t = .eof
    · subst ht
      rw [tokens_of_next_eof hnext, tokens_of_next_eof hnext']
      exact ⟨rfl, Iff.rfl⟩
    · have hlt : l'.rest.length < l.rest.length := by
        have hlength := length_rest_next_add_le hnext
        rw [if_neg ht] at hlength
        omega
      obtain ⟨htokens, herror⟩ := tokens_followedBy hblanks l'
      rw [tokens_of_next_ok hnext ht, tokens_of_next_ok hnext' ht, htokens]
      exact ⟨rfl, herror⟩
termination_by l.rest.length

/-- A text that is read without an error gives the same tokens when it is trimmed, and the other way
round. -/
theorem tokens_trimEnd_eq_iff (s : String) (ts : List Token) :
    (ofSource (Text.trimEnd s)).tokens = (ts, none) ↔ (ofSource s).tokens = (ts, none) := by
  obtain ⟨blanks, hs, hblanks, -⟩ := Text.exists_blanks_trimEnd s
  have hsource : ofSource s = (ofSource (Text.trimEnd s)).followedBy blanks := by
    simp only [ofSource, followedBy, hs]
  obtain ⟨htokens, herror⟩ := tokens_followedBy hblanks (ofSource (Text.trimEnd s))
  rw [hsource, Prod.ext_iff, Prod.ext_iff, htokens, herror]

end Lexer

end FilterQuery
