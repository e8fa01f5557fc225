import FilterQuery.Proofs.Compiler.Counting

/-!
# Policy enforcement

What it means for a filter to violate the policy of its field is stated by rules, one for each check,
in the order of the checks. Compiling a condition fails exactly with the first violation from left to
right, and otherwise gives the term that its filters are built into. All this holds for every engine
that patterns may be read by.
-/

namespace FilterQuery

/-! ### Scalars and patterns -/

/-- `v.HasScalar s`: the value `s` is not a list and stands inside `v`, at any depth. -/
inductive Value.HasScalar : Value → Value → Prop
  | self {v : Value} (h : v.kind ≠ .array) : HasScalar v v
  | member {members : List Value} {v s : Value} (hv : v ∈ members) (hs : HasScalar v s) :
    HasScalar (.list members) s

mutual

theorem Value.mem_scalars_iff (v s : Value) : s ∈ v.scalars ↔ v.HasScalar s := by
  cases v with
  | list members =>
    rw [Value.scalars, mem_scalarsOf_iff]
    constructor
    · rintro ⟨v, hv, hs⟩
      exact .member hv hs
    · intro h
      cases h with
      | self h => exact absurd rfl h
      | member hv hs => exact ⟨_, hv, hs⟩
  | string | number | boolean | date =>
    rw [Value.scalars, List.mem_singleton]
    · constructor
      · rintro rfl
        exact .self nofun
      · rintro ⟨⟩
        rfl
    · nofun

theorem Value.mem_scalarsOf_iff (vs : List Value) (s : Value) :
    s ∈ Value.scalarsOf vs ↔ ∃ v ∈ vs, v.HasScalar s := by
  match vs with
  | [] => simp [Value.scalarsOf]
  | v :: vs =>
    simp [Value.scalarsOf, mem_scalars_iff v s, mem_scalarsOf_iff vs s]

end

/-- The pattern can be read and matches the text of every scalar of `v`. -/
structure Pattern.Admits [Pattern.Engine] (p : Pattern) (v : Value) : Prop where
  valid : p.isValid = true
  isMatch : ∀ s, v.HasScalar s → p.isMatch? s.text = some true

theorem Pattern.accepts_iff [Pattern.Engine] {p : Pattern} {v : Value} :
    p.accepts v = true ↔ p.Admits v := by
  unfold Pattern.accepts
  cases h : Engine.read? p.source with
  | none =>
    have hv : p.isValid = false := by simp [isValid, h]
    exact ⟨nofun, fun ha => absurd ha.valid (by simp [hv])⟩
  | some isMatch =>
    have hm : ∀ text, p.isMatch? text = some (isMatch text) := fun text => by simp [isMatch?, h]
    simp only [List.all_eq_true, Value.mem_scalars_iff]
    constructor
    · intro hs
      exact ⟨by simp [isValid, h], fun s hmem => by rw [hm, hs s hmem]⟩
    · intro ha s hmem
      exact Option.some.inj ((hm s.text).symm.trans (ha.isMatch s hmem))

/-! ### What a policy asks of a filter -/

/-- The operator of the policy that the operator of a filter stands for: the first one if none is
written, and otherwise the same operator, which must be one of the policy's. -/
inductive Policy.Resolves (p : Policy) : String → String → Prop
  | first {op : String} {ops : List String} (h : p.operators = op :: ops) :
    Resolves p defaultOperator op
  | listed {op : String} (hne : op ≠ defaultOperator) (h : op ∈ p.operators) : Resolves p op op

theorem Policy.operatorFor?_eq_some_iff {p : Policy} {written op : String} :
    p.operatorFor? written = some op ↔ p.Resolves written op := by
  unfold Policy.operatorFor?
  constructor
  · intro h
    split at h
    · next hw =>
      obtain ⟨ops, hops⟩ := List.head?_eq_some_iff.1 h
      exact hw ▸ .first hops
    · next hw =>
      split at h
      · next ha =>
        cases h
        exact .listed hw (List.contains_iff_mem.1 ha)
      · cases h
  · rintro (h | ⟨hne, h⟩)
    · simp [firstOperator, h]
    · simp [hne, allows, h]

/-- `HasPolicy fields available field p`: the field may be used, and its standard is the policy `p`
or the name of it. -/
inductive HasPolicy (fields : Fields) (available : Table Policy) (field : String) : Policy → Prop
  | own {p : Policy} (h : fields.get? field = some (.own p)) : HasPolicy fields available field p
  | named {p : Policy} {name : String} (h : fields.get? field = some (.named name))
    (hp : available.get? name = some p) : HasPolicy fields available field p

theorem policy?_eq_some_iff {fields : Fields} {available : Table Policy} {field : String}
    {p : Policy} :
    Fields.policy? fields available field = some p ↔ HasPolicy fields available field p := by
  unfold Fields.policy?
  constructor
  · intro h
    obtain ⟨standard, hs, hp⟩ := Option.bind_eq_some_iff.1 h
    cases standard with
    | named name => exact .named hs hp
    | own q => exact .own (hs.trans (by rw [Option.some.inj hp]))
  · rintro (h | ⟨h, hp⟩)
    · rw [h]
      rfl
    · rw [h]
      exact hp

theorem HasPolicy.unique {fields : Fields} {available : Table Policy} {field : String}
    {p q : Policy} (hp : HasPolicy fields available field p)
    (hq : HasPolicy fields available field q) : p = q :=
  Option.some.inj ((policy?_eq_some_iff.2 hp).symm.trans (policy?_eq_some_iff.2 hq))

section

variable [Pattern.Engine]

/-- Everything that a policy asks of a filter, which then stands for the operator `op`. -/
structure Policy.Permits (p : Policy) (f : Filter) (op : String) : Prop where
  kind : f.value.kind = p.kind
  pattern : ∀ pattern, p.pattern = some pattern → pattern.Admits f.value
  operator : p.Resolves f.operator op

/-- The first check that a filter fails, with the error that reports it: each rule needs the checks
of the rules before it to pass. -/
inductive Violation (fields : Fields) (available : Table Policy) (f : Filter) : CompileError → Prop
  | unknownField (h : ∀ p, ¬HasPolicy fields available f.field p) :
    Violation fields available f (.unknownField f)
  | wrongKind {p : Policy} (hp : HasPolicy fields available f.field p)
    (hkind : f.value.kind ≠ p.kind) : Violation fields available f (.wrongKind f p.kind)
  | patternMismatch {p : Policy} {pattern : Pattern} (hp : HasPolicy fields available f.field p)
    (hkind : f.value.kind = p.kind) (hpattern : p.pattern = some pattern)
    (h : ¬pattern.Admits f.value) : Violation fields available f (.patternMismatch f pattern)
  | forbiddenOperator {p : Policy} (hp : HasPolicy fields available f.field p)
    (hkind : f.value.kind = p.kind)
    (hpattern : ∀ pattern, p.pattern = some pattern → pattern.Admits f.value)
    (h : ∀ op, ¬p.Resolves f.operator op) : Violation fields available f (.forbiddenOperator f)

/-! ### Filters -/

variable {c : Compiler} {fields : Fields} {f : Filter} {p : Policy} {e : CompileError}
  {t : Sql.Term}

/-- Once the value has passed its two checks, the operator decides. -/
theorem Filter.applyPolicy_of_admits (hkind : f.value.kind = p.kind)
    (hpattern : ∀ pattern, p.pattern = some pattern → pattern.Admits f.value) :
    f.applyPolicy p = (p.operatorFor? f.operator).elim (.error (.forbiddenOperator f))
      fun op => .ok (p.term.build f.field op f.value) := by
  have hnone : p.pattern.filter (fun pattern => !pattern.accepts f.value) = none := by
    rw [Option.filter_eq_none_iff]
    intro pattern hsome
    simp [Pattern.accepts_iff.2 (hpattern pattern hsome)]
  simp only [applyPolicy, hkind, ne_eq, not_true_eq_false, if_false, hnone]
  cases p.operatorFor? f.operator with
  | none => rfl
  | some op => rfl

theorem Filter.applyPolicy_of_permits {op : String} (h : p.Permits f op) :
    f.applyPolicy p = .ok (p.term.build f.field op f.value) := by
  rw [applyPolicy_of_admits h.kind h.pattern, Policy.operatorFor?_eq_some_iff.2 h.operator,
    Option.elim_some]

theorem Compiler.compileFilter_of_hasPolicy (h : HasPolicy fields c.available f.field p) :
    c.compileFilter fields f = f.applyPolicy p := by
  rw [compileFilter, policy?_eq_some_iff.2 h]

/-- A filter meets its policy or violates it. -/
theorem Filter.permits_or_violation (fields : Fields) (available : Table Policy) (f : Filter) :
    (∃ p op, HasPolicy fields available f.field p ∧ p.Permits f op) ∨
      ∃ e, Violation fields available f e := by
  -- The checks in the order of the rules: the first that fails is the violation.
  by_cases hp : ∃ p, HasPolicy fields available f.field p
  · obtain ⟨p, hp⟩ := hp
    by_cases hkind : f.value.kind = p.kind
    · by_cases hpattern : ∀ pattern, p.pattern = some pattern → pattern.Admits f.value
      · by_cases hop : ∃ op, p.Resolves f.operator op
        · obtain ⟨op, hop⟩ := hop
          exact .inl ⟨p, op, hp, hkind, hpattern, hop⟩
        · exact .inr ⟨_, .forbiddenOperator hp hkind hpattern fun op h => hop ⟨op, h⟩⟩
      · obtain ⟨pattern, h⟩ := Classical.not_forall.1 hpattern
        obtain ⟨hsome, h⟩ := Classical.not_imp.1 h
        exact .inr ⟨_, .patternMismatch hp hkind hsome h⟩
    · exact .inr ⟨_, .wrongKind hp hkind⟩
  · exact .inr ⟨_, .unknownField fun p h => hp ⟨p, h⟩⟩

theorem Violation.compileFilter_eq (h : Violation fields c.available f e) :
    c.compileFilter fields f = .error e := by
  cases h with
  | unknownField h =>
    have hnone : Fields.policy? fields c.available f.field = none :=
      Option.eq_none_iff_forall_ne_some.2 fun p hp => h p (policy?_eq_some_iff.1 hp)
    rw [Compiler.compileFilter, hnone]
  | wrongKind hp hkind =>
    rw [Compiler.compileFilter_of_hasPolicy hp, Filter.applyPolicy, if_pos hkind]
  | patternMismatch hp hkind hpattern h =>
    have hfalse := Bool.eq_false_iff.2 fun ha => h (Pattern.accepts_iff.1 ha)
    rw [Compiler.compileFilter_of_hasPolicy hp, Filter.applyPolicy,
      if_neg (not_not_intro hkind), hpattern, Option.filter_some, hfalse]
    rfl
  | forbiddenOperator hp hkind hpattern h =>
    have hnone : Policy.operatorFor? _ f.operator = none :=
      Option.eq_none_iff_forall_ne_some.2 fun op hop => h op (Policy.operatorFor?_eq_some_iff.1 hop)
    rw [Compiler.compileFilter_of_hasPolicy hp, Filter.applyPolicy_of_admits hkind hpattern, hnone,
      Option.elim_none]

theorem Compiler.compileFilter_eq_error_iff :
    c.compileFilter fields f = .error e ↔ Violation fields c.available f e := by
  refine ⟨fun h => ?_, Violation.compileFilter_eq⟩
  rcases f.permits_or_violation fields c.available with ⟨p, op, hp, hf⟩ | ⟨e', hv⟩
  · rw [compileFilter_of_hasPolicy hp, Filter.applyPolicy_of_permits hf] at h
    cases h
  · cases hv.compileFilter_eq.symm.trans h
    exact hv

theorem Compiler.compileFilter_eq_ok_iff :
    c.compileFilter fields f = .ok t ↔
      ∃ p op, HasPolicy fields c.available f.field p ∧ p.Permits f op ∧
        p.term.build f.field op f.value = t := by
  constructor
  · intro h
    rcases f.permits_or_violation fields c.available with ⟨p, op, hp, hf⟩ | ⟨e, hv⟩
    · rw [compileFilter_of_hasPolicy hp, Filter.applyPolicy_of_permits hf] at h
      exact ⟨p, op, hp, hf, Except.ok.inj h⟩
    · rw [hv.compileFilter_eq] at h
      cases h
  · rintro ⟨p, op, hp, hf, rfl⟩
    rw [compileFilter_of_hasPolicy hp, Filter.applyPolicy_of_permits hf]

end

/-! ### The number of filters -/

namespace Condition

/-- More filters than the limit `max` allows, where 0 allows any number. -/
def Exceeds (condition : Condition) (max : Nat) : Prop :=
  max ≠ 0 ∧ max < condition.filters.length

instance (condition : Condition) (max : Nat) : Decidable (condition.Exceeds max) :=
  inferInstanceAs (Decidable (_ ∧ _))

theorem checkLimit_of_exceeds {condition : Condition} {max : Nat} (h : condition.Exceeds max) :
    condition.checkLimit max = .error (.tooManyFilters condition.filters.length max) := by
  obtain ⟨hzero, hlt⟩ := h
  rw [checkLimit_eq, size_eq_length_filters, if_neg (by omega)]

theorem checkLimit_of_not_exceeds {condition : Condition} {max : Nat}
    (h : ¬condition.Exceeds max) : condition.checkLimit max = .ok condition := by
  have hle : max = 0 ∨ condition.filters.length ≤ max := by
    unfold Exceeds at h
    omega
  rw [checkLimit_eq, size_eq_length_filters, if_pos hle]

end Condition

/-! ### Conditions -/

section

variable [Pattern.Engine]

/-- The violation of the first filter of a list that violates its policy. -/
def FirstViolation (fields : Fields) (available : Table Policy) (fs : List Filter)
    (e : CompileError) : Prop :=
  ∃ before f after, fs = before ++ f :: after ∧
    (∀ g ∈ before, ∀ e', ¬Violation fields available g e') ∧ Violation fields available f e

/-- The term that a condition is built into: a leaf for each filter, made of its field, the operator
that it stands for and its value as the policy of the field says, and a junction for each pair of
joined conditions. -/
inductive BuiltInto (fields : Fields) (available : Table Policy) : Condition → Sql.Term → Prop
  | comparison {f : Filter} {p : Policy} {op : String} (hp : HasPolicy fields available f.field p)
    (hf : p.Permits f op) (hterm : p.term = .operator) :
    BuiltInto fields available (.filter f) (.operator f.field op f.value)
  | search {f : Filter} {p : Policy} {op : String} (hp : HasPolicy fields available f.field p)
    (hf : p.Permits f op) (hterm : p.term = .like) :
    BuiltInto fields available (.filter f) (.like f.field f.value)
  | and {l r : Condition} {t u : Sql.Term} (hl : BuiltInto fields available l t)
    (hr : BuiltInto fields available r u) :
    BuiltInto fields available (.and l r) (.junction .and t u)
  | or {l r : Condition} {t u : Sql.Term} (hl : BuiltInto fields available l t)
    (hr : BuiltInto fields available r u) :
    BuiltInto fields available (.or l r) (.junction .or t u)

variable {fields : Fields} {available : Table Policy} {fs gs : List Filter} {e : CompileError}

theorem not_firstViolation_nil : ¬FirstViolation fields available [] e := by
  rintro ⟨before, f, after, h, -⟩
  exact List.append_ne_nil_of_right_ne_nil before (List.cons_ne_nil f after) h.symm

theorem firstViolation_cons {f : Filter} :
    FirstViolation fields available (f :: fs) e ↔
      Violation fields available f e ∨
        (∀ e', ¬Violation fields available f e') ∧ FirstViolation fields available fs e := by
  constructor
  · rintro ⟨before, g, after, h, hbefore, hv⟩
    cases before with
    | nil =>
      obtain ⟨rfl, -⟩ := List.cons.inj h
      exact .inl hv
    | cons g' before =>
      obtain ⟨rfl, rfl⟩ := List.cons.inj h
      obtain ⟨hf, hbefore⟩ := List.forall_mem_cons.1 hbefore
      exact .inr ⟨hf, before, g, after, rfl, hbefore, hv⟩
  · rintro (hv | ⟨hf, before, g, after, rfl, hbefore, hv⟩)
    · exact ⟨[], f, fs, rfl, nofun, hv⟩
    · exact ⟨f :: before, g, after, rfl, List.forall_mem_cons.2 ⟨hf, hbefore⟩, hv⟩

theorem firstViolation_singleton {f : Filter} :
    FirstViolation fields available [f] e ↔ Violation fields available f e := by
  simp [firstViolation_cons, not_firstViolation_nil]

theorem firstViolation_append :
    FirstViolation fields available (fs ++ gs) e ↔
      FirstViolation fields available fs e ∨
        (∀ f ∈ fs, ∀ e', ¬Violation fields available f e') ∧
          FirstViolation fields available gs e := by
  induction fs with
  | nil => simp [not_firstViolation_nil]
  | cons f fs ih =>
    rw [List.cons_append, firstViolation_cons, firstViolation_cons, ih, List.forall_mem_cons,
      or_assoc, and_or_left, and_assoc]

/-- Either no filter violates its policy or one of them is the first to do so. -/
theorem not_exists_firstViolation_iff :
    (¬∃ e, FirstViolation fields available fs e) ↔
      ∀ f ∈ fs, ∀ e, ¬Violation fields available f e := by
  induction fs with
  | nil => simp [not_firstViolation_nil]
  | cons f fs ih =>
    simp only [List.forall_mem_cons, ← ih, firstViolation_cons, exists_or, not_or, not_exists,
      not_and]
    exact and_congr_right fun hf => forall_congr' fun e => forall_prop_of_true hf

end

section

variable {α β γ ε : Type} {x : Except ε α} {y : Except ε β} {g : α → β → γ}

theorem exists_eq_ok_iff : (∃ a, x = .ok a) ↔ ¬∃ e, x = .error e := by
  cases x <;> simp

/-- Two results one after the other: the first error counts. -/
theorem both_eq_error_iff {e : ε} :
    (do return g (← x) (← y)) = Except.error e ↔
      x = .error e ∨ (∃ a, x = .ok a) ∧ y = .error e := by
  cases x <;> cases y <;> simp [bind, Except.bind, pure, Except.pure]

theorem both_eq_ok_iff {b : γ} :
    (do return g (← x) (← y)) = Except.ok b ↔ ∃ l r, x = .ok l ∧ y = .ok r ∧ g l r = b := by
  cases x <;> cases y <;> simp [bind, Except.bind, pure, Except.pure]

end

namespace Compiler

section

variable [Pattern.Engine]

theorem compileCondition_eq_error_iff {c : Compiler} {fields : Fields} {condition : Condition}
    {e : CompileError} :
    c.compileCondition fields condition = .error e ↔
      FirstViolation fields c.available condition.filters e := by
  induction condition generalizing e with
  | filter f => exact compileFilter_eq_error_iff.trans firstViolation_singleton.symm
  | and l r ihl ihr | or l r ihl ihr =>
    -- The right side is compiled only if the left side has no violation.
    have hl : (∃ t, c.compileCondition fields l = .ok t) ↔
        ∀ f ∈ l.filters, ∀ e, ¬Violation fields c.available f e := by
      rw [exists_eq_ok_iff, ← not_exists_firstViolation_iff]
      simp only [ihl]
    rw [compileCondition, both_eq_error_iff, ihl, hl, ihr, Condition.filters,
      firstViolation_append]

theorem compileCondition_eq_ok_iff {options : Options} {available : Table Policy} {fields : Fields}
    {condition : Condition} {t : Sql.Term} :
    (Compiler.mk options available .standard).compileCondition fields condition = .ok t ↔
      BuiltInto fields available condition t := by
  induction condition generalizing t with
  | filter f =>
    rw [compileCondition, compileFilter_eq_ok_iff]
    constructor
    · rintro ⟨p, op, hp, hf, rfl⟩
      cases hterm : p.term with
      | operator => exact .comparison hp hf hterm
      | like => exact .search hp hf hterm
    · intro h
      cases h with
      | comparison hp hf hterm => exact ⟨_, _, hp, hf, by rw [hterm]; rfl⟩
      | search hp hf hterm => exact ⟨_, _, hp, hf, by rw [hterm]; rfl⟩
  | and l r ihl ihr | or l r ihl ihr =>
    rw [compileCondition, both_eq_ok_iff]
    simp only [ihl, ihr]
    constructor
    · rintro ⟨t, u, ht, hu, rfl⟩
      constructor
      · exact ht
      · exact hu
    · intro h
      cases h
      exact ⟨_, _, ‹_›, ‹_›, rfl⟩

/-! ### Queries -/

theorem build_of_exceeds {c : Compiler} {fields : Fields} {condition : Condition}
    (h : condition.Exceeds c.options.maxFilters) :
    c.build fields (some condition) =
      .error (.tooManyFilters condition.filters.length c.options.maxFilters) := by
  rw [build, Condition.checkLimit_of_exceeds h]
  rfl

theorem build_of_not_exceeds {c : Compiler} {fields : Fields} {condition : Condition}
    (h : ¬condition.Exceeds c.options.maxFilters) :
    c.build fields (some condition) = c.compileCondition fields condition := by
  rw [build, Condition.checkLimit_of_not_exceeds h]
  rfl

/-- The number of filters is checked first, and then each filter. -/
theorem build_eq_error_iff {c : Compiler} {fields : Fields} {condition : Condition}
    {e : CompileError} :
    c.build fields (some condition) = .error e ↔
      condition.Exceeds c.options.maxFilters ∧
          e = .tooManyFilters condition.filters.length c.options.maxFilters ∨
        ¬condition.Exceeds c.options.maxFilters ∧
          FirstViolation fields c.available condition.filters e := by
  by_cases h : condition.Exceeds c.options.maxFilters
  · rw [build_of_exceeds h, Except.error.injEq, eq_comm]
    simp [h]
  · rw [build_of_not_exceeds h, compileCondition_eq_error_iff]
    simp [h]

theorem build_eq_ok_iff {options : Options} {available : Table Policy} {fields : Fields}
    {condition : Condition} {t : Sql.Term} :
    (Compiler.mk options available .standard).build fields (some condition) = .ok t ↔
      ¬condition.Exceeds options.maxFilters ∧ BuiltInto fields available condition t := by
  by_cases h : condition.Exceeds options.maxFilters
  · rw [build_of_exceeds h]
    simp [h]
  · rw [build_of_not_exceeds h, compileCondition_eq_ok_iff]
    simp [h]

end

/-- With the standard builders an empty query becomes the empty term. A condition is refused if it
has too many filters, and otherwise for the first violation of a policy, and for no other reason.
What is not refused becomes the term that the condition is built into. -/
theorem build_enforces_policies [Pattern.Engine] (options : Options) (available : Table Policy)
    (fields : Fields) :
    (Compiler.mk options available .standard).build fields none = .ok .empty ∧
    ∀ condition : Condition,
      (∀ e, (Compiler.mk options available .standard).build fields (some condition) = .error e ↔
        condition.Exceeds options.maxFilters ∧
            e = .tooManyFilters condition.filters.length options.maxFilters ∨
          ¬condition.Exceeds options.maxFilters ∧
            FirstViolation fields available condition.filters e) ∧
      ((∃ t, (Compiler.mk options available .standard).build fields (some condition) = .ok t) ↔
        ¬condition.Exceeds options.maxFilters ∧
          ∀ f ∈ condition.filters, ∀ e, ¬Violation fields available f e) ∧
      ∀ t, (Compiler.mk options available .standard).build fields (some condition) = .ok t ↔
        ¬condition.Exceeds options.maxFilters ∧ BuiltInto fields available condition t := by
  refine ⟨rfl, fun condition => ⟨fun e => build_eq_error_iff, ?_, fun t => build_eq_ok_iff⟩⟩
  rw [exists_eq_ok_iff, ← not_exists_firstViolation_iff]
  simp only [build_eq_error_iff]
  by_cases h : condition.Exceeds options.maxFilters <;> simp [h]

end Compiler

end FilterQuery
