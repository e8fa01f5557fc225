import FilterQuery.Proofs.Compiler.Noninterference
import FilterQuery.Proofs.Compiler.Parameters
import FilterQuery.Proofs.Lexing.Spelling
import FilterQuery.Proofs.Sql.Identifiers
import FilterQuery.Proofs.Table

/-!
# The text determines the query

Two queries that are compiled to the same text with placeholders have the same structure: matching
the parentheses of the text leads back to the conditions that were joined, and each leaf tells its
field and its operator.

This rests on what can stand in a leaf. Its parentheses come in pairs and it does not start with
one, since a field of a query that was read is a word. A field that is compared and one that is
searched are told apart by what stands behind the first space.
-/

namespace FilterQuery

/-! ### Matching parentheses -/

namespace Sql

/-- A text in which every parenthesis has a partner. -/
inductive Balanced : List Char → Prop
  | nil : Balanced []
  | char {c : Char} (ho : c ≠ '(') (hc : c ≠ ')') : Balanced [c]
  | append {s t : List Char} (hs : Balanced s) (ht : Balanced t) : Balanced (s ++ t)
  | parenthesized {s : List Char} (hs : Balanced s) : Balanced ('(' :: (s ++ [')']))

theorem Balanced.of_not_mem {s : List Char} (ho : '(' ∉ s) (hc : ')' ∉ s) : Balanced s := by
  induction s with
  | nil => exact .nil
  | cons c s ih =>
    rw [List.mem_cons, not_or] at ho hc
    exact .append (.char (Ne.symm ho.1) (Ne.symm hc.1)) (ih ho.2 hc.2)

/-- Read up to the first closing parenthesis without a partner, where `depth` parentheses are open
and `read` has been read in reverse: what stands before it, and what stands behind it. -/
def readInner (depth : Nat) (read : List Char) : List Char → Option (List Char × List Char)
  | [] => none
  | c :: cs =>
    if c = '(' then readInner (depth + 1) (c :: read) cs
    else if c = ')' then
      match depth with
      | 0 => some (read.reverse, cs)
      | depth + 1 => readInner depth (c :: read) cs
    else readInner depth (c :: read) cs

theorem readInner_open (depth : Nat) (read cs : List Char) :
    readInner depth read ('(' :: cs) = readInner (depth + 1) ('(' :: read) cs :=
  rfl

theorem readInner_char {c : Char} (ho : c ≠ '(') (hc : c ≠ ')') (depth : Nat)
    (read cs : List Char) : readInner depth read (c :: cs) = readInner depth (c :: read) cs := by
  rw [readInner.eq_def]
  simp only [if_neg ho, if_neg hc]

/-- What is balanced is read over, at any depth. -/
theorem Balanced.readInner_append {s : List Char} (h : Balanced s) (depth : Nat)
    (read rest : List Char) :
    readInner depth read (s ++ rest) = readInner depth (s.reverse ++ read) rest := by
  induction h generalizing depth read rest with
  | nil => rfl
  | char ho hc => exact readInner_char ho hc depth read rest
  | append _ _ ihs iht =>
    rw [List.append_assoc, ihs, iht, List.reverse_append, List.append_assoc]
  | @parenthesized s _ ih =>
    rw [List.cons_append, List.append_assoc, readInner_open, ih, List.singleton_append, readInner,
      if_neg (by decide), if_pos rfl]
    simp

/-- The closing parenthesis behind a balanced text is found. -/
theorem Balanced.append_close_inj {s t r u : List Char} (hs : Balanced s) (ht : Balanced t)
    (h : s ++ ')' :: r = t ++ ')' :: u) : s = t ∧ r = u := by
  have hread : ∀ {s r : List Char}, Balanced s →
      readInner 0 [] (s ++ ')' :: r) = some (s, r) := by
    intro s r hs
    rw [hs.readInner_append, readInner, if_neg (by decide), if_pos rfl]
    simp
  have hsome := (hread hs).symm.trans ((congrArg _ h).trans (hread ht))
  exact Prod.mk.inj (Option.some.inj hsome)

theorem Balanced.junction {c : Connective} {left right : Term} (hl : Balanced left.chars)
    (hr : Balanced right.chars) : Balanced (Term.junction c left right).chars := by
  have hkeyword : ∃ keyword, c.between = ')' :: (keyword ++ ['(']) ∧ Balanced keyword := by
    cases c with
    | and => exact ⟨[' ', 'A', 'N', 'D', ' '], rfl, .of_not_mem (by decide) (by decide)⟩
    | or => exact ⟨[' ', 'O', 'R', ' '], rfl, .of_not_mem (by decide) (by decide)⟩
  obtain ⟨keyword, hbetween, hk⟩ := hkeyword
  have h := hl.parenthesized.append (hk.append hr.parenthesized)
  rw [Term.chars, hbetween]
  simpa using h

/-- The connective and both sides can be read off a junction. -/
theorem Term.chars_junction_inj {c c' : Connective} {l r l' r' : Term} (hl : Balanced l.chars)
    (hl' : Balanced l'.chars) (h : (junction c l r).chars = (junction c' l' r').chars) :
    c = c' ∧ l.chars = l'.chars ∧ r.chars = r'.chars := by
  have hopen := (List.cons.inj h).2
  cases c <;> cases c' <;> obtain ⟨hleft, hrest⟩ := hl.append_close_inj hl' hopen
  case and.and | or.or =>
    exact ⟨rfl, hleft, List.append_cancel_right (List.append_cancel_left hrest)⟩
  case and.or | or.and => exact absurd (List.cons.inj (List.cons.inj hrest).2).1 (by decide)

/-! ### Names -/

/-- A character that needs no quoting is in the identifier only if it is in the name. -/
theorem mem_identifierChars {c : Char} {name : List Char} (hq : c ≠ '\x60') (hdot : c ≠ '.')
    (h : c ∈ identifierChars name) : c ∈ name := by
  have hchar : ∀ d, c ∈ identifierChar d → c = d := by
    intro d hd
    unfold identifierChar at hd
    grind
  rw [identifierChars, List.cons_append, List.mem_cons, List.mem_append, List.mem_flatMap] at h
  rcases h with h | ⟨d, hd, hcd⟩ | h
  · exact absurd h hq
  · exact hchar d hcd ▸ hd
  · exact absurd (List.mem_singleton.1 h) hq

end Sql

/-! ### Leaves -/

namespace TermKind

/-- The field of a leaf as it is written. -/
def fieldChars : TermKind → List Char → List Char
  | operator, field => Sql.identifierChars field
  | like, field => field

/-- What is written behind the field of a leaf and a space. -/
def restChars : TermKind → String → List Char
  | operator, op => op.toList ++ [' ', '?']
  | like, _ => Sql.Term.likeStart.tail ++ '?' :: Sql.Term.likeEnd

theorem chars_build (k : TermKind) (field op : String) (v : Value) :
    (k.build field op v).chars = k.fieldChars field.toList ++ ' ' :: k.restChars op := by
  cases k <;> rfl

theorem fieldChars_injective {k : TermKind} {a b : List Char}
    (h : k.fieldChars a = k.fieldChars b) : a = b := by
  cases k with
  | operator => exact Sql.identifierChars_injective h
  | like => exact h

theorem mem_fieldChars {k : TermKind} {c : Char} {field : List Char} (hq : c ≠ '\x60')
    (hdot : c ≠ '.') (h : c ∈ k.fieldChars field) : c ∈ field := by
  cases k with
  | operator => exact Sql.mem_identifierChars hq hdot h
  | like => exact h

/-- What stands behind the field tells the kind of the leaf, and the operator if it is a
comparison. -/
theorem restChars_inj {k k' : TermKind} {op op' : String} (hop : op ∈ Policy.comparisons)
    (hop' : op' ∈ Policy.comparisons) (h : k.restChars op = k'.restChars op') :
    k = k' ∧ (k = .operator → op = op') := by
  -- A search goes on with a letter and a comparison does not start with one.
  have hsearch : ∀ op ∈ Policy.comparisons,
      TermKind.operator.restChars op ≠ TermKind.like.restChars op := by decide
  cases k <;> cases k'
  case operator.operator =>
    exact ⟨rfl, fun _ => String.toList_inj.1 (List.append_cancel_right h)⟩
  case like.like => exact ⟨rfl, nofun⟩
  case operator.like => exact absurd h (hsearch op hop)
  case like.operator => exact absurd h.symm (hsearch op' hop')

end TermKind

/-- A field that is written in a query has neither spaces nor parentheses. -/
theorem IsWord.not_mem {field : String} (h : IsWord field) :
    ' ' ∉ field.toList ∧ '(' ∉ field.toList ∧ ')' ∉ field.toList := by
  refine ⟨?_, ?_, ?_⟩
  · intro hmem
    exact absurd (h.not_isBlank _ hmem) (by decide)
  · intro hmem
    exact h.not_punctuation _ hmem (by decide)
  · intro hmem
    exact h.not_punctuation _ hmem (by decide)

/-- Two texts are split at their first space in the same way. -/
theorem append_space_inj {a b r s : List Char} (ha : ' ' ∉ a) (hb : ' ' ∉ b)
    (h : a ++ ' ' :: r = b ++ ' ' :: s) : a = b ∧ r = s := by
  induction a generalizing b with
  | nil =>
    cases b with
    | nil => exact ⟨rfl, (List.cons.inj h).2⟩
    | cons d b => exact absurd (List.cons.inj h).1 (List.ne_of_not_mem_cons hb)
  | cons c a ih =>
    cases b with
    | nil => exact absurd (List.cons.inj h).1.symm (List.ne_of_not_mem_cons ha)
    | cons d b =>
      obtain ⟨rfl, htail⟩ := List.cons.inj h
      obtain ⟨rfl, hrest⟩ := ih (List.not_mem_of_not_mem_cons ha)
        (List.not_mem_of_not_mem_cons hb) htail
      exact ⟨rfl, hrest⟩

namespace TermKind

variable {k k' : TermKind} {field field' op op' : String} {v v' : Value}

/-- Quoting a field brings in neither spaces nor parentheses. -/
theorem not_mem_fieldChars (hfield : IsWord field) :
    ' ' ∉ k.fieldChars field.toList ∧ '(' ∉ k.fieldChars field.toList ∧
      ')' ∉ k.fieldChars field.toList := by
  obtain ⟨hspace, hopen, hclose⟩ := hfield.not_mem
  refine ⟨?_, ?_, ?_⟩
  · intro hmem
    exact hspace (mem_fieldChars (by decide) (by decide) hmem)
  · intro hmem
    exact hopen (mem_fieldChars (by decide) (by decide) hmem)
  · intro hmem
    exact hclose (mem_fieldChars (by decide) (by decide) hmem)

theorem balanced_build (hfield : IsWord field) (hop : op ∈ Policy.comparisons) :
    Sql.Balanced (k.build field op v).chars := by
  obtain ⟨-, hopen, hclose⟩ := not_mem_fieldChars (k := k) hfield
  have hname : Sql.Balanced (k.fieldChars field.toList) := .of_not_mem hopen hclose
  have hrest : Sql.Balanced (k.restChars op) := by
    cases k with
    | operator =>
      have hfree : ∀ op ∈ Policy.comparisons,
          '(' ∉ TermKind.operator.restChars op ∧ ')' ∉ TermKind.operator.restChars op := by decide
      exact .of_not_mem (hfree op hop).1 (hfree op hop).2
    | like =>
      -- `LIKE CONCAT` and its arguments in parentheses
      show Sql.Balanced (['L', 'I', 'K', 'E', ' ', 'C', 'O', 'N', 'C', 'A', 'T'] ++ '(' ::
        (['\x27', '%', '\x27', ',', ' ', '?', ',', ' ', '\x27', '%', '\x27'] ++ [')']))
      exact .append (.of_not_mem (by decide) (by decide))
        (.parenthesized (.of_not_mem (by decide) (by decide)))
  rw [chars_build]
  exact hname.append (.append (.char (by decide) (by decide)) hrest)

/-- A leaf does not start with a parenthesis and is no junction. -/
theorem chars_build_ne_junction (hfield : IsWord field) (c : Sql.Connective) (l r : Sql.Term) :
    (k.build field op v).chars ≠ (Sql.Term.junction c l r).chars := by
  intro h
  rw [chars_build, Sql.Term.chars] at h
  obtain ⟨-, hopen, -⟩ := not_mem_fieldChars (k := k) hfield
  cases hchars : k.fieldChars field.toList with
  | nil =>
    rw [hchars] at h
    exact absurd (List.cons.inj h).1 (by decide)
  | cons d ds =>
    rw [hchars] at h hopen
    exact hopen ((List.cons.inj h).1 ▸ List.mem_cons_self)

/-- The kind, the field and the operator of a leaf can be read off its text, but for the operator of
a search, which is not written. -/
theorem chars_build_inj (hfield : IsWord field) (hfield' : IsWord field')
    (hop : op ∈ Policy.comparisons) (hop' : op' ∈ Policy.comparisons)
    (h : (k.build field op v).chars = (k'.build field' op' v').chars) :
    k = k' ∧ field = field' ∧ (k = .operator → op = op') := by
  rw [chars_build, chars_build] at h
  obtain ⟨hname, hrest⟩ :=
    append_space_inj (not_mem_fieldChars hfield).1 (not_mem_fieldChars hfield').1 h
  obtain ⟨rfl, hoperator⟩ := restChars_inj hop hop' hrest
  exact ⟨rfl, String.toList_inj.1 (fieldChars_injective hname), hoperator⟩

end TermKind

/-! ### Fields of queries that are read -/

namespace Grammar

theorem FilterTree.word_mem_tokens (f : FilterTree) : .word f.filter.field ∈ f.tokens :=
  List.mem_cons_self

theorem AndTree.word_mem_tokens {a : AndTree} {f : Filter} (h : f ∈ a.condition.filters) :
    .word f.field ∈ a.tokens := by
  have hjoin : ∀ (more : List (Bool × FilterTree)) (c : Condition),
      (more.foldl join c).filters = c.filters ++ more.map (·.2.filter) := by
    intro more
    induction more with
    | nil => simp
    | cons next more ih => simp [ih, join, Condition.filters]
  rw [condition, hjoin, Condition.filters, List.mem_append, List.mem_singleton] at h
  rw [tokens, List.mem_append]
  rcases h with rfl | h
  · exact .inl a.first.word_mem_tokens
  · obtain ⟨next, hnext, rfl⟩ := List.mem_map.1 h
    refine .inr (List.mem_flatMap.2 ⟨next, hnext, ?_⟩)
    rw [nextTokens]
    split
    · exact List.mem_cons_of_mem _ next.2.word_mem_tokens
    · exact next.2.word_mem_tokens

theorem OrTree.word_mem_tokens {o : OrTree} {f : Filter} (h : f ∈ o.condition.filters) :
    .word f.field ∈ o.tokens := by
  have hjoin : ∀ (more : List AndTree) (c : Condition),
      (more.foldl join c).filters = c.filters ++ more.flatMap (·.condition.filters) := by
    intro more
    induction more with
    | nil => simp
    | cons next more ih => simp [ih, join, Condition.filters]
  rw [condition, hjoin, List.mem_append] at h
  rw [tokens, List.mem_append]
  rcases h with h | h
  · exact .inl (AndTree.word_mem_tokens h)
  · obtain ⟨next, hnext, hf⟩ := List.mem_flatMap.1 h
    exact .inr (List.mem_flatMap.2
      ⟨next, hnext, List.mem_cons_of_mem _ (AndTree.word_mem_tokens hf)⟩)

end Grammar

/-- The lexer lets nothing but words into the fields of a query. -/
theorem isWord_of_parseQuery_eq_ok {source : String} {q : Query} (h : parseQuery source 0 = .ok q)
    {f : Filter} (hf : f ∈ Query.filters q) : IsWord f.field := by
  obtain ⟨d, htokens, rfl⟩ := parseQuery_eq_ok_iff.1 h
  cases d with
  | empty => cases hf
  | condition o =>
    have hmem : .word f.field ∈ (Lexer.ofSource source).tokens.1 := by
      rw [htokens]
      exact Grammar.OrTree.word_mem_tokens hf
    exact Lexer.wellFormed_of_mem_tokens hmem

/-! ### Conditions -/

/-- Two conditions that are joined in the same way from filters that are related one by one. -/
inductive Condition.Corresponds (R : Filter → Filter → Prop) : Condition → Condition → Prop
  | filter {f g : Filter} (h : R f g) : Corresponds R (.filter f) (.filter g)
  | and {l r l' r' : Condition} (hl : Corresponds R l l') (hr : Corresponds R r r') :
    Corresponds R (.and l r) (.and l' r')
  | or {l r l' r' : Condition} (hl : Corresponds R l l') (hr : Corresponds R r r') :
    Corresponds R (.or l r) (.or l' r')

/-- Two empty queries, or two conditions that correspond. -/
def Query.Corresponds (R : Filter → Filter → Prop) : Query → Query → Prop :=
  Option.Rel (Condition.Corresponds R)

/-- Two filters on the same field, whose operators stand for the same operator of its policy. -/
def SameComparison (fields : Fields) (available : Table Policy) (f g : Filter) : Prop :=
  f.field = g.field ∧ ∃ p op, HasPolicy fields available f.field p ∧
    p.Resolves f.operator op ∧ p.Resolves g.operator op

/-- Every field refers to a shared policy by its name. -/
def Fields.AllNamed (fields : Fields) : Prop :=
  ∀ entry ∈ fields.entries, ∃ name, entry.2 = .named name

theorem Condition.Corresponds.length_filters {R : Filter → Filter → Prop} {c c' : Condition}
    (h : c.Corresponds R c') : c.filters.length = c'.filters.length := by
  induction h with
  | filter => rfl
  | and _ _ ihl ihr | or _ _ ihl ihr =>
    rw [Condition.filters, Condition.filters, List.length_append, List.length_append, ihl, ihr]

/-- Where conditions correspond, what the filters show in order tells what each of them shows. -/
theorem Condition.Corresponds.and_view_eq {R : Filter → Filter → Prop} {α : Type}
    {view : Filter → α} {c c' : Condition} (h : c.Corresponds R c')
    (hview : c.filters.map view = c'.filters.map view) :
    c.Corresponds (fun f g => R f g ∧ view f = view g) c' := by
  induction h with
  | filter h => exact .filter ⟨h, (List.cons.inj hview).1⟩
  | and hl _ ihl ihr =>
    rw [filters, filters, List.map_append, List.map_append] at hview
    obtain ⟨hleft, hright⟩ := List.append_inj hview (by simp [hl.length_filters])
    exact .and (ihl hleft) (ihr hright)
  | or hl _ ihl ihr =>
    rw [filters, filters, List.map_append, List.map_append] at hview
    obtain ⟨hleft, hright⟩ := List.append_inj hview (by simp [hl.length_filters])
    exact .or (ihl hleft) (ihr hright)

section

variable {fields : Fields}

/-- The shared policies that are always there have comparisons only, and a search has one. -/
theorem HasPolicy.operators_of_allNamed {field : String} {p : Policy} (hnamed : fields.AllNamed)
    (h : HasPolicy fields Policy.builtin field p) :
    (∀ op ∈ p.operators, op ∈ Policy.comparisons) ∧ (p.term = .like → p.operators = ["="]) := by
  have hbuiltin : ∀ entry ∈ Policy.builtin.entries,
      (∀ op ∈ entry.2.operators, op ∈ Policy.comparisons) ∧
        (entry.2.term = .like → entry.2.operators = ["="]) := by decide
  cases h with
  | own h =>
    obtain ⟨name, hname⟩ := hnamed _ (Table.get?_eq_some_iff_mem.1 h)
    cases hname
  | named _ hp => exact hbuiltin _ (Table.get?_eq_some_iff_mem.1 hp)

variable [Pattern.Engine]

/-- The leaf of a filter is what the policy of its field makes of the operator that it stands
for. -/
theorem BuiltInto.exists_build {available : Table Policy} {f : Filter} {t : Sql.Term}
    (h : BuiltInto fields available (.filter f) t) :
    ∃ p op, HasPolicy fields available f.field p ∧ p.Resolves f.operator op ∧
      t = p.term.build f.field op f.value := by
  cases h with
  | @comparison _ p op hp hf hterm => exact ⟨p, op, hp, hf.operator, by rw [hterm]; rfl⟩
  | @search _ p op hp hf hterm => exact ⟨p, op, hp, hf.operator, by rw [hterm]; rfl⟩

theorem BuiltInto.balanced {condition : Condition} {t : Sql.Term} (hnamed : fields.AllNamed)
    (hwords : ∀ f ∈ condition.filters, IsWord f.field)
    (h : BuiltInto fields Policy.builtin condition t) : Sql.Balanced t.chars := by
  induction condition generalizing t with
  | filter f =>
    obtain ⟨p, op, hp, hop, rfl⟩ := h.exists_build
    exact TermKind.balanced_build (hwords f List.mem_cons_self)
      ((hp.operators_of_allNamed hnamed).1 op hop.mem)
  | and l r ihl ihr | or l r ihl ihr =>
    obtain ⟨hwordsl, hwordsr⟩ := List.forall_mem_append.1 hwords
    cases h with
    | _ hl hr => exact (ihl hwordsl hl).junction (ihr hwordsr hr)

theorem sameComparison_of_chars_eq {f g : Filter} {t u : Sql.Term} (hnamed : fields.AllNamed)
    (hwordf : IsWord f.field) (hwordg : IsWord g.field)
    (hf : BuiltInto fields Policy.builtin (.filter f) t)
    (hg : BuiltInto fields Policy.builtin (.filter g) u) (h : t.chars = u.chars) :
    SameComparison fields Policy.builtin f g := by
  obtain ⟨p, op, hp, hop, rfl⟩ := hf.exists_build
  obtain ⟨p', op', hp', hop', rfl⟩ := hg.exists_build
  obtain ⟨hmem, hlike⟩ := hp.operators_of_allNamed hnamed
  have hmem' := (hp'.operators_of_allNamed hnamed).1
  obtain ⟨-, hfield, hcomparison⟩ := TermKind.chars_build_inj hwordf hwordg (hmem op hop.mem)
    (hmem' op' hop'.mem) h
  obtain rfl := hp.unique (hfield ▸ hp')
  have hoperator : op = op' := by
    cases hterm : p.term with
    | operator => exact hcomparison hterm
    | like =>
      -- A search does not write its operator, but there is one only.
      have heq : ∀ o ∈ p.operators, o = "=" := by
        rw [hlike hterm]
        exact fun o => List.mem_singleton.1
      rw [heq op hop.mem, heq op' hop'.mem]
  subst hoperator
  exact ⟨hfield, p, op, hp, hop, hop'⟩

/-- Two conditions joined as a connective says. -/
def Sql.Connective.joined : Sql.Connective → Condition → Condition → Condition
  | and => .and
  | or => .or

/-- Only conditions that are joined by a connective are written as its junction, and their sides as
the sides of the junction. -/
theorem BuiltInto.exists_joined {c : Sql.Connective} {t u v : Sql.Term} {condition : Condition}
    (hnamed : fields.AllNamed) (hwords : ∀ f ∈ condition.filters, IsWord f.field)
    (h : BuiltInto fields Policy.builtin condition v) (ht : Sql.Balanced t.chars)
    (heq : (Sql.Term.junction c t u).chars = v.chars) :
    ∃ l r t' u', condition = c.joined l r ∧ BuiltInto fields Policy.builtin l t' ∧
      BuiltInto fields Policy.builtin r u' ∧ t.chars = t'.chars ∧ u.chars = u'.chars := by
  cases condition with
  | filter f =>
    obtain ⟨p, op, -, -, rfl⟩ := h.exists_build
    exact absurd heq.symm (TermKind.chars_build_ne_junction (hwords f List.mem_cons_self) _ _ _)
  | and l r | or l r =>
    have hwordsl := (List.forall_mem_append.1 hwords).1
    cases h with
    | _ hl hr =>
      obtain ⟨rfl, hleft, hright⟩ :=
        Sql.Term.chars_junction_inj ht (hl.balanced hnamed hwordsl) heq
      exact ⟨l, r, _, _, rfl, hl, hr, hleft, hright⟩

/-- The recursion on the first condition follows the parentheses of the text. -/
theorem BuiltInto.corresponds {c₁ c₂ : Condition} {t₁ t₂ : Sql.Term} (hnamed : fields.AllNamed)
    (hwords₁ : ∀ f ∈ c₁.filters, IsWord f.field) (hwords₂ : ∀ f ∈ c₂.filters, IsWord f.field)
    (h₁ : BuiltInto fields Policy.builtin c₁ t₁) (h₂ : BuiltInto fields Policy.builtin c₂ t₂)
    (heq : t₁.chars = t₂.chars) : c₁.Corresponds (SameComparison fields Policy.builtin) c₂ := by
  induction c₁ generalizing c₂ t₁ t₂ with
  | filter f =>
    have hword := hwords₁ f List.mem_cons_self
    cases c₂ with
    | filter g =>
      have hword' := hwords₂ g List.mem_cons_self
      exact .filter (sameComparison_of_chars_eq hnamed hword hword' h₁ h₂ heq)
    | and | or =>
      obtain ⟨p, op, -, -, rfl⟩ := h₁.exists_build
      cases h₂
      exact absurd heq (TermKind.chars_build_ne_junction hword _ _ _)
  | and l r ihl ihr =>
    obtain ⟨hwordsl, hwordsr⟩ := List.forall_mem_append.1 hwords₁
    cases h₁ with
    | and hl hr =>
      obtain ⟨l', r', t', u', rfl, hl', hr', hleft, hright⟩ :=
        h₂.exists_joined hnamed hwords₂ (hl.balanced hnamed hwordsl) heq
      obtain ⟨hwordsl', hwordsr'⟩ := List.forall_mem_append.1 hwords₂
      exact .and (ihl hwordsl hwordsl' hl hl' hleft) (ihr hwordsr hwordsr' hr hr' hright)
  | or l r ihl ihr =>
    obtain ⟨hwordsl, hwordsr⟩ := List.forall_mem_append.1 hwords₁
    cases h₁ with
    | or hl hr =>
      obtain ⟨l', r', t', u', rfl, hl', hr', hleft, hright⟩ :=
        h₂.exists_joined hnamed hwords₂ (hl.balanced hnamed hwordsl) heq
      obtain ⟨hwordsl', hwordsr'⟩ := List.forall_mem_append.1 hwords₂
      exact .or (ihl hwordsl hwordsl' hl hl' hleft) (ihr hwordsr hwordsr' hr hr' hright)

theorem BuiltInto.chars_ne_nil {available : Table Policy} {condition : Condition} {t : Sql.Term}
    (h : BuiltInto fields available condition t) : t.chars ≠ [] := by
  cases h with
  | comparison | search => simp [Sql.Term.chars]
  | and | or => exact List.cons_ne_nil _ _

end

/-! ### Queries -/

namespace Compiler

section

variable [Pattern.Engine] {fields : Fields} {options₁ options₂ : Options}

theorem corresponds_of_build_eq_ok {q₁ q₂ : Query} {t₁ t₂ : Sql.Term} (hnamed : fields.AllNamed)
    (hwords₁ : ∀ f ∈ Query.filters q₁, IsWord f.field)
    (hwords₂ : ∀ f ∈ Query.filters q₂, IsWord f.field)
    (h₁ : (Compiler.mk options₁ Policy.builtin .standard).build fields q₁ = .ok t₁)
    (h₂ : (Compiler.mk options₂ Policy.builtin .standard).build fields q₂ = .ok t₂)
    (heq : t₁.chars = t₂.chars) :
    Query.Corresponds (SameComparison fields Policy.builtin) q₁ q₂ := by
  -- Only the empty query has an empty text.
  match q₁, q₂ with
  | none, none => exact .none
  | none, some c₂ =>
    cases h₁
    exact absurd heq.symm (build_eq_ok_iff.1 h₂).2.chars_ne_nil
  | some c₁, none =>
    cases h₂
    exact absurd heq (build_eq_ok_iff.1 h₁).2.chars_ne_nil
  | some c₁, some c₂ =>
    have hbuilt₁ := (build_eq_ok_iff.1 h₁).2
    have hbuilt₂ := (build_eq_ok_iff.1 h₂).2
    exact .some (hbuilt₁.corresponds hnamed hwords₁ hwords₂ hbuilt₂ heq)

/-- Two texts that are compiled to the same statement with placeholders are queries of the same
structure: the same conditions are joined in the same way, with the same fields and operators. If
the parameters are the same too, then so are the values of the filters. This holds of any `view` of
values, be it the values themselves or numbers regardless of their scale. -/
theorem statement_determines_structure (hnamed : fields.AllNamed) {source₁ source₂ sql : String}
    {params₁ params₂ : List Value}
    (h₁ : Cli.compileParams ⟨options₁, Policy.builtin, .standard⟩ fields source₁ =
      .ok (sql, params₁))
    (h₂ : Cli.compileParams ⟨options₂, Policy.builtin, .standard⟩ fields source₂ =
      .ok (sql, params₂)) :
    ∃ q₁ q₂, parseQuery source₁ 0 = .ok q₁ ∧ parseQuery source₂ 0 = .ok q₂ ∧
      Query.Corresponds (SameComparison fields Policy.builtin) q₁ q₂ ∧
      ∀ {α : Type} (view : Value → α), params₁.map view = params₂.map view →
        Query.Corresponds (fun f g => SameComparison fields Policy.builtin f g ∧
          view f.value = view g.value) q₁ q₂ := by
  obtain ⟨q₁, t₁, hq₁, ht₁, rfl, rfl⟩ := compileParams_eq_ok_iff.1 h₁
  obtain ⟨q₂, t₂, hq₂, ht₂, hsql, rfl⟩ := compileParams_eq_ok_iff.1 h₂
  have hcorresponds := corresponds_of_build_eq_ok hnamed
    (fun _ => isWord_of_parseQuery_eq_ok hq₁) (fun _ => isWord_of_parseQuery_eq_ok hq₂)
    ht₁ ht₂ (String.ofList_inj.1 hsql)
  refine ⟨q₁, q₂, hq₁, hq₂, hcorresponds, ?_⟩
  intro α view hview
  rw [(isStandard_of_build_eq_ok ht₁).2, (isStandard_of_build_eq_ok ht₂).2, List.map_map,
    List.map_map] at hview
  cases hcorresponds with
  | none => exact .none
  | some h => exact .some (h.and_view_eq hview)

end

/-- An `AND` that is left out, an operator that is the default and a word instead of a string do not
show, while the grouping does. -/
theorem statement_determines_structure_of_two_spellings :
    let fields : Fields := {
      entries := [("age", .named "number"), ("tag", .named "string"), ("a.b", .named "date")]
      nodup := by decide }
    let source₁ := "age : 14 tag : x OR a.b : > 2020-02-29"
    let source₂ := "age : = 14 AND tag : = \"x\" OR a.b : > 2020-02-29"
    let sql := "((`age` = ?) AND (tag LIKE CONCAT('%', ?, '%'))) OR (`a`.`b` > ?)"
    let params : List Value := [.number ⟨14, 0, by decide, by decide⟩, .string "x",
      .date ⟨2020, 2, 29, by decide, by decide, by decide⟩]
    fields.AllNamed ∧
      Cli.compileParams .standard fields source₁ = .ok (sql, params) ∧
      Cli.compileParams .standard fields source₂ = .ok (sql, params) ∧
      ∃ q₁ q₂, parseQuery source₁ 0 = .ok q₁ ∧ parseQuery source₂ 0 = .ok q₂ ∧
        Query.Corresponds (fun f g => SameComparison fields Policy.builtin f g ∧
          f.value = g.value) q₁ q₂ := by
  intro fields source₁ source₂ sql params
  have hnamed : fields.AllNamed := by
    intro entry hentry
    simp only [fields, List.mem_cons, List.not_mem_nil, or_false] at hentry
    rcases hentry with rfl | rfl | rfl <;> exact ⟨_, rfl⟩
  let age : Grammar.ValueTree := .number ⟨14, 0, by decide, by decide⟩
  let day : Grammar.ValueTree := .date ⟨2020, 2, 29, by decide, by decide, by decide⟩
  let d₁ : Grammar.QueryTree := .condition
    ⟨⟨⟨"age", none, age⟩, [(false, ⟨"tag", none, .word "x"⟩)]⟩, [⟨⟨"a.b", some .gt, day⟩, []⟩]⟩
  let d₂ : Grammar.QueryTree := .condition
    ⟨⟨⟨"age", some .eq, age⟩, [(true, ⟨"tag", some .eq, .string "x"⟩)]⟩,
      [⟨⟨"a.b", some .gt, day⟩, []⟩]⟩
  let t : Sql.Term := .junction .or
    (.junction .and (.operator "age" "=" age.value) (.like "tag" (.string "x")))
    (.operator "a.b" ">" day.value)
  have hq₁ : parseQuery source₁ 0 = .ok d₁.query := by
    have hsource : source₁ = String.ofList (Token.spaced d₁.tokens) := by decide +kernel
    rw [hsource]
    exact parseQuery_spaced (by decide)
  have hq₂ : parseQuery source₂ 0 = .ok d₂.query := by
    have hsource : source₂ = String.ofList (Token.spaced d₂.tokens) := by decide +kernel
    rw [hsource]
    exact parseQuery_spaced (by decide)
  have h₁ : Cli.compileParams .standard fields source₁ = .ok (sql, params) :=
    compileParams_eq_ok_iff.2
      ⟨_, t, hq₁, (build_of_not_exceeds (by decide)).trans rfl, by decide +kernel, rfl⟩
  have h₂ : Cli.compileParams .standard fields source₂ = .ok (sql, params) :=
    compileParams_eq_ok_iff.2
      ⟨_, t, hq₂, (build_of_not_exceeds (by decide)).trans rfl, by decide +kernel, rfl⟩
  obtain ⟨q₁, q₂, hparse₁, hparse₂, -, hvalues⟩ := statement_determines_structure hnamed h₁ h₂
  exact ⟨hnamed, h₁, h₂, q₁, q₂, hparse₁, hparse₂, hvalues id rfl⟩

end Compiler

end FilterQuery
