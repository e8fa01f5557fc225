import Mathlib.Data.List.Forall2
import FilterQuery.Proofs.Compiler.Structure

/-!
# Writing operators out

A filter without an operator stands for the first operator of the policy of its field. To write this
operator out in some filters of a query, and not in others, makes no difference: the query becomes
the same term, or it is refused for the same filter and for the same reason.

The operator is chosen in the last check of a filter, while the errors of all checks show the
operator as it was written. So two filters that stand for the same operators
(`Filter.Equivalent`) pass and fail the same checks, and their errors differ in what they show.
-/

namespace FilterQuery

/-! ### Filters -/

/-- `Filter.Completion fields available f g`: the filter `g` is `f` itself, or it is `f` with the
first operator of the policy of its field where `f` has none. -/
inductive Filter.Completion (fields : Fields) (available : Table Policy) (f : Filter) :
    Filter → Prop
  | same : Completion fields available f f
  | first {p : Policy} {op : String} {ops : List String} (hdefault : f.operator = defaultOperator)
    (hp : HasPolicy fields available f.field p) (hops : p.operators = op :: ops) :
    Completion fields available f { f with operator := op }

/-- Two filters on one field with one value, whose operators stand for the same operator of the
policy of the field or both for none. -/
structure Filter.Equivalent (fields : Fields) (available : Table Policy) (f g : Filter) :
    Prop where
  field : f.field = g.field
  value : f.value = g.value
  resolves : ∀ p, HasPolicy fields available f.field p →
    ∀ op, p.Resolves f.operator op ↔ p.Resolves g.operator op

/-- The error with another operator in the filter that it shows. -/
def CompileError.withOperator (op : String) : CompileError → CompileError
  | unknownField f => unknownField { f with operator := op }
  | forbiddenOperator f => forbiddenOperator { f with operator := op }
  | wrongKind f expected => wrongKind { f with operator := op } expected
  | patternMismatch f pattern => patternMismatch { f with operator := op } pattern
  | e => e

section

variable {fields : Fields} {available : Table Policy} {f g : Filter}

/-- The first operator stands for itself, even if it is written like no operator. -/
theorem Policy.resolves_first {p : Policy} {op : String} {ops : List String}
    (h : p.operators = op :: ops) : p.Resolves op op := by
  by_cases hdefault : op = defaultOperator
  · subst hdefault
    exact .first h
  · exact .listed hdefault (h ▸ List.mem_cons_self)

theorem Filter.Completion.equivalent (h : f.Completion fields available g) :
    f.Equivalent fields available g := by
  cases h with
  | same => exact ⟨rfl, rfl, fun _ _ _ => Iff.rfl⟩
  | first hdefault hp hops =>
    refine ⟨rfl, rfl, fun p hp' op => ?_⟩
    obtain rfl := hp.unique hp'
    have hleft : Policy.Resolves _ f.operator _ := hdefault ▸ Policy.Resolves.first hops
    have hright := Policy.resolves_first hops
    constructor
    · intro h
      exact hleft.unique h ▸ hright
    · intro h
      exact hright.unique h ▸ hleft

namespace Filter.Equivalent

theorem symm (h : f.Equivalent fields available g) : g.Equivalent fields available f where
  field := h.field.symm
  value := h.value.symm
  resolves p hp op := (h.resolves p (h.field ▸ hp) op).symm

theorem eq_withOperator (h : f.Equivalent fields available g) :
    { f with operator := g.operator } = g := by
  obtain ⟨field, operator, value⟩ := f
  obtain ⟨rfl, rfl, -⟩ := h
  rfl

variable [Pattern.Engine]

theorem permits {p : Policy} {op : String} (h : f.Equivalent fields available g)
    (hp : HasPolicy fields available f.field p) (hf : p.Permits f op) : p.Permits g op where
  kind := h.value ▸ hf.kind
  pattern pattern hpattern := h.value ▸ hf.pattern pattern hpattern
  operator := (h.resolves p hp op).1 hf.operator

/-- The same check fails, and its error shows the operator of the other filter. -/
theorem violation {e : CompileError} (h : f.Equivalent fields available g)
    (hv : Violation fields available f e) :
    Violation fields available g (e.withOperator g.operator) := by
  cases hv with
  | unknownField hnone =>
    rw [CompileError.withOperator, h.eq_withOperator]
    exact .unknownField (h.field ▸ hnone)
  | wrongKind hp hkind =>
    rw [CompileError.withOperator, h.eq_withOperator]
    exact .wrongKind (h.field ▸ hp) (h.value ▸ hkind)
  | patternMismatch hp hkind hpattern hadmits =>
    rw [CompileError.withOperator, h.eq_withOperator]
    exact .patternMismatch (h.field ▸ hp) (h.value ▸ hkind) hpattern (h.value ▸ hadmits)
  | forbiddenOperator hp hkind hpattern hresolves =>
    rw [CompileError.withOperator, h.eq_withOperator]
    refine .forbiddenOperator (h.field ▸ hp) (h.value ▸ hkind) (h.value ▸ hpattern) ?_
    intro op hop
    exact hresolves op ((h.resolves _ hp op).2 hop)

theorem not_violation (h : f.Equivalent fields available g)
    (hf : ∀ e, ¬Violation fields available f e) (e : CompileError) :
    ¬Violation fields available g e :=
  fun hv => hf _ (h.symm.violation hv)

end Filter.Equivalent

end

/-! ### Conditions -/

section

variable [Pattern.Engine]

/-- The first violations in two lists of filters stand at the same place, and their errors differ in
the operator that they show at most. -/
def SameViolation (fields : Fields) (available : Table Policy) (fs gs : List Filter)
    (e e' : CompileError) : Prop :=
  ∃ before f after before' g after', fs = before ++ f :: after ∧ gs = before' ++ g :: after' ∧
    before.length = before'.length ∧
    (∀ k ∈ before ++ before', ∀ e, ¬Violation fields available k e) ∧
    Violation fields available f e ∧ Violation fields available g e' ∧
    e' = e.withOperator g.operator

/-- The same answer to two lists of filters: the same result, the same complaint about their number,
or the same violation. -/
inductive SameAnswer {α : Type} (fields : Fields) (available : Table Policy) (fs gs : List Filter) :
    Except CompileError α → Except CompileError α → Prop
  | ok (a : α) : SameAnswer fields available fs gs (.ok a) (.ok a)
  | tooManyFilters (observed max : Nat) :
    SameAnswer fields available fs gs (.error (.tooManyFilters observed max))
      (.error (.tooManyFilters observed max))
  | violation {e e' : CompileError} (h : SameViolation fields available fs gs e e') :
    SameAnswer fields available fs gs (.error e) (.error e')

variable {fields : Fields} {available : Table Policy} {fs gs : List Filter} {e e' : CompileError}

theorem SameAnswer.map {α β : Type} {x y : Except CompileError α}
    (h : SameAnswer fields available fs gs x y) (φ : α → β) :
    SameAnswer fields available fs gs (x.map φ) (y.map φ) := by
  cases h with
  | ok a => exact .ok (φ a)
  | tooManyFilters observed max => exact .tooManyFilters observed max
  | violation h => exact .violation h

theorem SameViolation.firstViolation (h : SameViolation fields available fs gs e e') :
    FirstViolation fields available gs e' := by
  obtain ⟨before, f, after, before', g, after', -, hgs, -, hfirst, -, hg, -⟩ := h
  exact ⟨before', g, after', hgs, (List.forall_mem_append.1 hfirst).2, hg⟩

theorem SameViolation.cons {k k' : Filter} (h : SameViolation fields available fs gs e e')
    (hk : ∀ e, ¬Violation fields available k e) (hk' : ∀ e, ¬Violation fields available k' e) :
    SameViolation fields available (k :: fs) (k' :: gs) e e' := by
  obtain ⟨before, f, after, before', g, after', rfl, rfl, hplace, hfirst, hf, hg, he⟩ := h
  obtain ⟨hbefore, hbefore'⟩ := List.forall_mem_append.1 hfirst
  refine ⟨k :: before, f, after, k' :: before', g, after', rfl, rfl, ?_, ?_, hf, hg, he⟩
  · rw [List.length_cons, List.length_cons, hplace]
  · exact List.forall_mem_append.2
      ⟨List.forall_mem_cons.2 ⟨hk, hbefore⟩, List.forall_mem_cons.2 ⟨hk', hbefore'⟩⟩

/-- Filters that are equivalent one by one have their first violation at the same place. -/
theorem FirstViolation.exists_sameViolation (hv : FirstViolation fields available fs e)
    (h : List.Forall₂ (Filter.Equivalent fields available) fs gs) :
    ∃ e', SameViolation fields available fs gs e e' := by
  induction h with
  | nil => exact absurd hv not_firstViolation_nil
  | @cons f g fs gs hfg _ ih =>
    rcases firstViolation_cons.1 hv with hf | ⟨hf, hrest⟩
    · exact ⟨_, [], f, fs, [], g, gs, rfl, rfl, rfl, nofun, hf, hfg.violation hf, rfl⟩
    · obtain ⟨e', hsame⟩ := ih hrest
      exact ⟨e', hsame.cons hf (hfg.not_violation hf)⟩

end

theorem Condition.Corresponds.forall₂_filters {R : Filter → Filter → Prop} {c c' : Condition}
    (h : c.Corresponds R c') : List.Forall₂ R c.filters c'.filters := by
  induction h with
  | filter h => exact .cons h .nil
  | and _ _ ihl ihr | or _ _ ihl ihr => exact List.rel_append ihl ihr

theorem Condition.Corresponds.mono {R S : Filter → Filter → Prop} (hRS : ∀ f g, R f g → S f g)
    {c c' : Condition} (h : c.Corresponds R c') : c.Corresponds S c' := by
  induction h with
  | filter h => exact .filter (hRS _ _ h)
  | and _ _ ihl ihr => exact .and ihl ihr
  | or _ _ ihl ihr => exact .or ihl ihr

namespace Compiler

section

variable [Pattern.Engine] {c : Compiler} {fields : Fields}

theorem compileFilter_of_equivalent {f g : Filter} {t : Sql.Term}
    (h : f.Equivalent fields c.available g) (ht : c.compileFilter fields f = .ok t) :
    c.compileFilter fields g = .ok t := by
  obtain ⟨p, op, hp, hf, rfl⟩ := compileFilter_eq_ok_iff.1 ht
  refine compileFilter_eq_ok_iff.2 ⟨p, op, h.field ▸ hp, h.permits hp hf, ?_⟩
  rw [h.field, h.value]

/-- Whatever the builders are, they are given the same terms. -/
theorem compileCondition_of_corresponds {condition condition' : Condition} {t : Sql.Term}
    (h : condition.Corresponds (Filter.Equivalent fields c.available) condition')
    (ht : c.compileCondition fields condition = .ok t) :
    c.compileCondition fields condition' = .ok t := by
  induction h generalizing t with
  | filter h => exact compileFilter_of_equivalent h ht
  | and _ _ ihl ihr | or _ _ ihl ihr =>
    obtain ⟨left, right, hleft, hright, rfl⟩ := both_eq_ok_iff.1 ht
    exact both_eq_ok_iff.2 ⟨left, right, ihl hleft, ihr hright, rfl⟩

theorem compileCondition_sameAnswer {condition condition' : Condition}
    (h : condition.Corresponds (Filter.Equivalent fields c.available) condition') :
    SameAnswer fields c.available condition.filters condition'.filters
      (c.compileCondition fields condition) (c.compileCondition fields condition') := by
  cases hresult : c.compileCondition fields condition with
  | ok t =>
    rw [compileCondition_of_corresponds h hresult]
    exact .ok t
  | error e =>
    have hfirst := compileCondition_eq_error_iff.1 hresult
    obtain ⟨e', hsame⟩ := hfirst.exists_sameViolation h.forall₂_filters
    rw [compileCondition_eq_error_iff.2 hsame.firstViolation]
    exact .violation hsame

theorem build_sameAnswer {q q' : Query}
    (h : Query.Corresponds (Filter.Equivalent fields c.available) q q') :
    SameAnswer fields c.available (Query.filters q) (Query.filters q') (c.build fields q)
      (c.build fields q') := by
  cases h with
  | none => exact .ok _
  | @some condition condition' h =>
    by_cases hlimit : condition.Exceeds c.options.maxFilters
    · have hlimit' : condition'.Exceeds c.options.maxFilters := by
        rwa [Condition.Exceeds, ← h.length_filters]
      rw [build_of_exceeds hlimit, build_of_exceeds hlimit', h.length_filters]
      exact .tooManyFilters _ _
    · have hlimit' : ¬condition'.Exceeds c.options.maxFilters := by
        rwa [Condition.Exceeds, ← h.length_filters]
      rw [build_of_not_exceeds hlimit, build_of_not_exceeds hlimit']
      exact compileCondition_sameAnswer h

theorem renderOnto_sameAnswer {available : Table Policy} {fs gs : List Filter}
    {x y : Except CompileError Sql.Term} (h : SameAnswer fields available fs gs x y)
    (params : Array Value) :
    SameAnswer fields available fs gs (renderOnto params x).1 (renderOnto params y).1 ∧
      (renderOnto params x).2 = (renderOnto params y).2 := by
  cases h with
  | ok t => exact ⟨.ok _, rfl⟩
  | tooManyFilters observed max => exact ⟨.tooManyFilters observed max, rfl⟩
  | violation h => exact ⟨.violation h, rfl⟩

/-- To write the first operator of the policy out in any of the filters without an operator does not
change what a query is compiled to, neither with the plain text of its values nor with placeholders,
and it leaves the parameters as they would be. A query that is refused is refused for the same
filter and the same reason. -/
theorem completing_operators_keeps_answer (c : Compiler) (fields : Fields) (params : Array Value)
    {q q' : Query} (h : Query.Corresponds (Filter.Completion fields c.available) q q') :
    SameAnswer fields c.available (Query.filters q) (Query.filters q') (c.plainQuery fields q)
        (c.plainQuery fields q') ∧
      SameAnswer fields c.available (Query.filters q) (Query.filters q')
        (c.sqlQuery fields params q).1 (c.sqlQuery fields params q').1 ∧
      (c.sqlQuery fields params q).2 = (c.sqlQuery fields params q').2 := by
  have hequivalent : Query.Corresponds (Filter.Equivalent fields c.available) q q' := by
    cases h with
    | none => exact .none
    | some h => exact .some (h.mono fun _ _ => Filter.Completion.equivalent)
  have hbuild := build_sameAnswer hequivalent
  exact ⟨hbuild.map Sql.Term.plain, renderOnto_sameAnswer hbuild params⟩

end

/-- The operator of the note stays as it is, since the first operator of its policy is written like
no operator. With a tag of the wrong kind both queries are refused for the tag. -/
theorem completing_operators_keeps_answer_of_tag :
    let fields : Fields := {
      entries := [("age", .own ⟨.number, [">=", "default"], .operator, none⟩),
        ("note", .own ⟨.string, ["default", "="], .operator, none⟩), ("tag", .named "string")]
      nodup := by decide }
    let query (age tag : String) (value : Value) : Query :=
      some (.or (.and (.filter ⟨"age", age, .number ⟨14, 0, by decide, by decide⟩⟩)
        (.filter ⟨"note", defaultOperator, .string "a"⟩)) (.filter ⟨"tag", tag, value⟩))
    let without := query defaultOperator defaultOperator
    let written := query ">=" "="
    let text := "((age >= 14) AND (note default a)) OR (tag LIKE '%x%')"
    let refused (tag : String) : Except CompileError String :=
      .error (.wrongKind ⟨"tag", tag, .boolean true⟩ .string)
    (∀ value, Query.Corresponds (Filter.Completion fields Policy.builtin) (without value)
        (written value)) ∧
      standard.plainQuery fields (without (.string "x")) = .ok text ∧
      standard.plainQuery fields (written (.string "x")) = .ok text ∧
      standard.plainQuery fields (without (.boolean true)) = refused defaultOperator ∧
      standard.plainQuery fields (written (.boolean true)) = refused "=" ∧
      SameAnswer fields Policy.builtin (Query.filters (without (.boolean true)))
        (Query.filters (written (.boolean true))) (refused defaultOperator) (refused "=") := by
  intro fields query without written text refused
  have hcompletes : ∀ value, Query.Corresponds (Filter.Completion fields standard.available)
      (without value) (written value) := by
    intro value
    refine .some (.or (.and (.filter ?_) (.filter ?_)) (.filter ?_))
    · exact .first rfl (.own rfl) rfl
    · exact .first rfl (.own rfl) rfl
    · exact .first rfl (.named rfl rfl) rfl
  have hkept : standard.plainQuery fields (without (.string "x")) = .ok text := by
    rw [plainQuery, build_of_not_exceeds (by decide)]
    rfl
  have hrefused :
      standard.plainQuery fields (without (.boolean true)) = refused defaultOperator := by
    rw [plainQuery, build_of_not_exceeds (by decide)]
    rfl
  have hrefused' : standard.plainQuery fields (written (.boolean true)) = refused "=" := by
    rw [plainQuery, build_of_not_exceeds (by decide)]
    rfl
  have hsame := (completing_operators_keeps_answer standard fields #[] (hcompletes (.string "x"))).1
  have hsame' := (completing_operators_keeps_answer standard fields #[]
    (hcompletes (.boolean true))).1
  rw [hkept] at hsame
  rw [hrefused, hrefused'] at hsame'
  refine ⟨hcompletes, hkept, ?_, hrefused, hrefused', hsame'⟩
  generalize standard.plainQuery fields (written (.string "x")) = answer at hsame ⊢
  cases hsame
  rfl

end Compiler

end FilterQuery
