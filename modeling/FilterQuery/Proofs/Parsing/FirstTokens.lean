import Mathlib.Computability.Language
import FilterQuery.Proofs.Parsing.Acceptance

/-!
# The grammar as equations

The tokens of all derivations of one kind are a language. The rules of the grammar are equations
between these languages, with `+` for a choice and `*` for one part behind the other.

What can follow a part of a query depends on all that is still to come. So a part is looked at
together with a language `K` of what may follow it: from the equations one can read off which tokens
`valueTexts * K` may start with, and what may come behind them. One token always decides which rule
applies, provided that `K` does not start like one more round of a repetition.
-/

namespace FilterQuery.Grammar

variable {K L : Language Token} {P : Token → Prop} {t : Token} {us : List Token}

/-! ### Languages of tokens -/

/-- The texts of a single token with `P`. -/
def oneOf (P : Token → Prop) : Language Token := {w | ∃ t, P t ∧ [t] = w}

theorem cons_mem_oneOf_mul : t :: us ∈ oneOf P * K ↔ P t ∧ us ∈ K := by
  rw [Language.mem_mul]
  constructor
  · rintro ⟨_, ⟨u, hu, rfl⟩, k, hk, h⟩
    obtain ⟨rfl, rfl⟩ := List.cons.inj h
    exact ⟨hu, hk⟩
  · rintro ⟨ht, hus⟩
    exact ⟨[t], ⟨t, ht, rfl⟩, us, hus, rfl⟩

/-- The tokens of values. -/
def valueTexts : Language Token := Set.range ValueTree.tokens

/-- The tokens of lists behind their opening bracket. -/
def memberTexts : Language Token := Set.range fun x : List ValueTree × Bool =>
  ValueTree.listTokens x.1 x.2

/-- What may stand in a list behind one of its members. -/
def memberEndTexts : Language Token := oneOf (· = .closeBracket) + oneOf (· = .comma) * memberTexts

/-- The tokens of filters behind their colon. -/
def operandTexts : Language Token := Set.range fun x : Option Comparison × ValueTree =>
  (x.1.map Token.comparison).toList ++ x.2.tokens

/-- The tokens of filters. -/
def filterTexts : Language Token := Set.range FilterTree.tokens

/-- The tokens of conjunctions behind their first filter. -/
def andTailTexts : Language Token := Set.range fun more : List (Bool × FilterTree) =>
  more.flatMap AndTree.nextTokens

/-- The tokens of conjunctions. -/
def andTexts : Language Token := Set.range AndTree.tokens

/-- The tokens of disjunctions behind their first conjunction. -/
def orTailTexts : Language Token := Set.range fun more : List AndTree =>
  more.flatMap OrTree.nextTokens

/-- The tokens of disjunctions. -/
def orTexts : Language Token := Set.range OrTree.tokens

/-- The tokens of queries. -/
def queryTexts : Language Token := Set.range QueryTree.tokens

/-! ### Equations -/

theorem valueTexts_eq :
    valueTexts = oneOf (·.literal?.isSome) + oneOf (· = .openBracket) * memberTexts := by
  ext w
  rw [Language.mem_add, Language.mem_mul]
  constructor
  · rintro ⟨v, rfl⟩
    cases v with
    | word | string | number | date | boolean => exact .inl ⟨_, rfl, rfl⟩
    | emptyList => exact .inr ⟨_, ⟨_, rfl, rfl⟩, _, ⟨([], false), rfl⟩, rfl⟩
    | list first more trailing =>
      exact .inr ⟨_, ⟨_, rfl, rfl⟩, _, ⟨(first :: more, trailing), rfl⟩, rfl⟩
  · rintro (⟨t, ht, rfl⟩ | ⟨_, ⟨t, rfl, rfl⟩, _, ⟨⟨vs, b⟩, rfl⟩, rfl⟩)
    · obtain ⟨v, hv⟩ := Option.isSome_iff_exists.1 ht
      obtain ⟨d, hd, -⟩ := ValueTree.exists_of_literal? hv
      exact ⟨d, hd⟩
    · exact ⟨.ofMembers vs b, ValueTree.tokens_ofMembers vs b⟩

/-- Behind the first of its members a list may end, or go on behind a comma. -/
theorem tail_mem_memberEndTexts (vs : List ValueTree) (b : Bool) :
    ValueTree.moreTokens vs ++ ValueTree.listEnd b ∈ memberEndTexts := by
  rw [memberEndTexts, Language.mem_add, Language.mem_mul]
  cases vs with
  | nil =>
    cases b with
    | false => exact .inl ⟨_, rfl, rfl⟩
    | true => exact .inr ⟨_, ⟨_, rfl, rfl⟩, _, ⟨([], false), rfl⟩, rfl⟩
  | cons w ws => exact .inr ⟨_, ⟨_, rfl, rfl⟩, _, ⟨(w :: ws, b), rfl⟩, rfl⟩

theorem memberTexts_eq : memberTexts = oneOf (· = .closeBracket) + valueTexts * memberEndTexts := by
  ext w
  rw [Language.mem_add]
  constructor
  · rintro ⟨⟨vs, b⟩, rfl⟩
    cases vs with
    | nil => exact .inl ⟨_, rfl, rfl⟩
    | cons v vs =>
      right
      show v.tokens ++ ValueTree.moreTokens vs ++ ValueTree.listEnd b ∈ valueTexts * memberEndTexts
      rw [List.append_assoc]
      exact Language.append_mem_mul ⟨v, rfl⟩ (tail_mem_memberEndTexts vs b)
  · rintro (⟨_, rfl, rfl⟩ | h)
    · exact ⟨([], false), rfl⟩
    · obtain ⟨_, ⟨v, rfl⟩, u, hu, rfl⟩ := Language.mem_mul.1 h
      rw [memberEndTexts, Language.mem_add] at hu
      rcases hu with ⟨_, rfl, rfl⟩ | hu
      · exact ⟨([v], false), (ValueTree.append_closeBracket v).symm⟩
      · obtain ⟨_, ⟨_, rfl, rfl⟩, _, ⟨⟨vs, b⟩, rfl⟩, rfl⟩ := Language.mem_mul.1 hu
        exact ⟨(v :: vs, b || vs.isEmpty), (ValueTree.append_comma v vs b).symm⟩

theorem operandTexts_eq :
    operandTexts = valueTexts + oneOf (∃ op, · = .comparison op) * valueTexts := by
  ext w
  rw [Language.mem_add, Language.mem_mul]
  constructor
  · rintro ⟨⟨_ | op, v⟩, rfl⟩
    · exact .inl ⟨v, rfl⟩
    · exact .inr ⟨_, ⟨_, ⟨op, rfl⟩, rfl⟩, _, ⟨v, rfl⟩, rfl⟩
  · rintro (⟨v, rfl⟩ | ⟨_, ⟨_, ⟨op, rfl⟩, rfl⟩, _, ⟨v, rfl⟩, rfl⟩)
    · exact ⟨(none, v), rfl⟩
    · exact ⟨(some op, v), rfl⟩

theorem filterTexts_eq :
    filterTexts = oneOf (∃ field, · = .word field) * (oneOf (· = .colon) * operandTexts) := by
  ext w
  simp only [Language.mem_mul]
  constructor
  · rintro ⟨f, rfl⟩
    exact ⟨_, ⟨_, ⟨f.field, rfl⟩, rfl⟩, _, ⟨_, ⟨_, rfl, rfl⟩, _, ⟨(f.comparison, f.value), rfl⟩,
      rfl⟩, rfl⟩
  · rintro ⟨_, ⟨_, ⟨field, rfl⟩, rfl⟩, _, ⟨_, ⟨_, rfl, rfl⟩, _, ⟨⟨o, v⟩, rfl⟩, rfl⟩, rfl⟩
    exact ⟨⟨field, o, v⟩, rfl⟩

theorem andTailTexts_eq : andTailTexts =
    1 + (oneOf (· = .and) * (filterTexts * andTailTexts) + filterTexts * andTailTexts) := by
  ext w
  simp only [Language.mem_add, Language.mem_mul]
  constructor
  · rintro ⟨_ | ⟨⟨written, f⟩, more⟩, rfl⟩
    · exact .inl rfl
    · cases written with
      | true => exact .inr (.inl ⟨_, ⟨_, rfl, rfl⟩, _, ⟨_, ⟨f, rfl⟩, _, ⟨more, rfl⟩, rfl⟩, rfl⟩)
      | false => exact .inr (.inr ⟨_, ⟨f, rfl⟩, _, ⟨more, rfl⟩, rfl⟩)
  · rintro (h | ⟨_, ⟨_, rfl, rfl⟩, _, ⟨_, ⟨f, rfl⟩, _, ⟨more, rfl⟩, rfl⟩, rfl⟩ |
      ⟨_, ⟨f, rfl⟩, _, ⟨more, rfl⟩, rfl⟩)
    · exact ⟨[], h.symm⟩
    · exact ⟨(true, f) :: more, rfl⟩
    · exact ⟨(false, f) :: more, rfl⟩

theorem andTexts_eq : andTexts = filterTexts * andTailTexts := by
  ext w
  rw [Language.mem_mul]
  constructor
  · rintro ⟨a, rfl⟩
    exact ⟨_, ⟨a.first, rfl⟩, _, ⟨a.more, rfl⟩, rfl⟩
  · rintro ⟨_, ⟨f, rfl⟩, _, ⟨more, rfl⟩, rfl⟩
    exact ⟨⟨f, more⟩, rfl⟩

theorem orTailTexts_eq :
    orTailTexts = 1 + oneOf (· = .or) * (andTexts * orTailTexts) := by
  ext w
  simp only [Language.mem_add, Language.mem_mul]
  constructor
  · rintro ⟨_ | ⟨a, more⟩, rfl⟩
    · exact .inl rfl
    · exact .inr ⟨_, ⟨_, rfl, rfl⟩, _, ⟨_, ⟨a, rfl⟩, _, ⟨more, rfl⟩, rfl⟩, rfl⟩
  · rintro (h | ⟨_, ⟨_, rfl, rfl⟩, _, ⟨_, ⟨a, rfl⟩, _, ⟨more, rfl⟩, rfl⟩, rfl⟩)
    · exact ⟨[], h.symm⟩
    · exact ⟨a :: more, rfl⟩

theorem orTexts_eq : orTexts = andTexts * orTailTexts := by
  ext w
  rw [Language.mem_mul]
  constructor
  · rintro ⟨o, rfl⟩
    exact ⟨_, ⟨o.first, rfl⟩, _, ⟨o.more, rfl⟩, rfl⟩
  · rintro ⟨_, ⟨a, rfl⟩, _, ⟨more, rfl⟩, rfl⟩
    exact ⟨⟨a, more⟩, rfl⟩

theorem queryTexts_eq : queryTexts = 1 + orTexts := by
  ext w
  rw [Language.mem_add]
  constructor
  · rintro ⟨_ | o, rfl⟩
    · exact .inl rfl
    · exact .inr ⟨o, rfl⟩
  · rintro (h | ⟨o, rfl⟩)
    · exact ⟨.empty, h.symm⟩
    · exact ⟨.condition o, rfl⟩

/-! ### No language is empty -/

theorem exists_mem_mul (hL : ∃ w, w ∈ L) (hK : ∃ w, w ∈ K) : ∃ w, w ∈ L * K := by
  obtain ⟨l, hl⟩ := hL
  obtain ⟨k, hk⟩ := hK
  exact ⟨l ++ k, Language.append_mem_mul hl hk⟩

theorem exists_mem_valueTexts : ∃ w, w ∈ valueTexts := ⟨_, .emptyList, rfl⟩

theorem exists_mem_memberTexts : ∃ w, w ∈ memberTexts := ⟨_, ([], false), rfl⟩

theorem exists_mem_memberEndTexts : ∃ w, w ∈ memberEndTexts :=
  ⟨_, tail_mem_memberEndTexts [] false⟩

theorem exists_mem_operandTexts : ∃ w, w ∈ operandTexts := ⟨_, (none, .emptyList), rfl⟩

theorem exists_mem_filterTexts : ∃ w, w ∈ filterTexts := ⟨_, ⟨"", none, .emptyList⟩, rfl⟩

theorem exists_mem_andTailTexts : ∃ w, w ∈ andTailTexts := ⟨_, [], rfl⟩

theorem exists_mem_andTexts : ∃ w, w ∈ andTexts := by
  rw [andTexts_eq]
  exact exists_mem_mul exists_mem_filterTexts exists_mem_andTailTexts

theorem exists_mem_orTailTexts : ∃ w, w ∈ orTailTexts := ⟨_, [], rfl⟩

theorem exists_mem_queryTexts : ∃ w, w ∈ queryTexts := ⟨_, .empty, rfl⟩

/-! ### First tokens -/

theorem cons_mem_valueTexts_mul : t :: us ∈ valueTexts * K ↔
    t.literal?.isSome ∧ us ∈ K ∨ t = .openBracket ∧ us ∈ memberTexts * K := by
  rw [valueTexts_eq, add_mul, mul_assoc, Language.mem_add, cons_mem_oneOf_mul, cons_mem_oneOf_mul]

theorem cons_mem_memberTexts_mul : t :: us ∈ memberTexts * K ↔
    t = .closeBracket ∧ us ∈ K ∨ t :: us ∈ valueTexts * (memberEndTexts * K) := by
  rw [memberTexts_eq, add_mul, mul_assoc, Language.mem_add, cons_mem_oneOf_mul]

theorem cons_mem_memberEndTexts_mul : t :: us ∈ memberEndTexts * K ↔
    t = .closeBracket ∧ us ∈ K ∨ t = .comma ∧ us ∈ memberTexts * K := by
  rw [memberEndTexts, add_mul, mul_assoc, Language.mem_add, cons_mem_oneOf_mul, cons_mem_oneOf_mul]

theorem cons_mem_operandTexts_mul : t :: us ∈ operandTexts * K ↔
    t :: us ∈ valueTexts * K ∨ (∃ op, t = .comparison op) ∧ us ∈ valueTexts * K := by
  rw [operandTexts_eq, add_mul, mul_assoc, Language.mem_add, cons_mem_oneOf_mul]

theorem cons_mem_filterTexts_mul : t :: us ∈ filterTexts * K ↔
    (∃ field, t = .word field) ∧ us ∈ oneOf (· = .colon) * (operandTexts * K) := by
  rw [filterTexts_eq, mul_assoc, mul_assoc, cons_mem_oneOf_mul]

theorem cons_mem_andTailTexts_mul : t :: us ∈ andTailTexts * K ↔
    t :: us ∈ K ∨ t = .and ∧ us ∈ filterTexts * (andTailTexts * K) ∨
      t :: us ∈ filterTexts * (andTailTexts * K) := by
  conv_lhs => rw [andTailTexts_eq]
  rw [add_mul, add_mul, one_mul, mul_assoc, mul_assoc, Language.mem_add,
    Language.mem_add, cons_mem_oneOf_mul]

theorem cons_mem_orTailTexts_mul : t :: us ∈ orTailTexts * K ↔
    t :: us ∈ K ∨ t = .or ∧ us ∈ andTexts * (orTailTexts * K) := by
  conv_lhs => rw [orTailTexts_eq]
  rw [add_mul, one_mul, mul_assoc, mul_assoc, Language.mem_add, cons_mem_oneOf_mul]

theorem cons_mem_queryTexts_mul : t :: us ∈ queryTexts * K ↔
    t :: us ∈ K ∨ t :: us ∈ orTexts * K := by
  rw [queryTexts_eq, add_mul, one_mul, Language.mem_add]

end FilterQuery.Grammar
