import FilterQuery.Proofs.Compiler.Noninterference
import FilterQuery.Proofs.Compiler.Parameters
import FilterQuery.Proofs.Policy.Faults

/-!
# Compiling with validated fields

Validation goes through the policies of all fields before there is a query. A compilation meets a
policy when a filter uses its field, and checks the value of the filter before the operator. Both
agree on which policies are of any use (`Policy.Usable`):

* If validation finds no fault, whatever a compilation complains about is the fault of the query
  (`Violation.misuse`).
* If validation finds a fault with a field, no filter on this field meets its policy, since a filter
  that does so shows that the policy is usable (`Policy.Permits.usable`).
-/

namespace FilterQuery

/-! ### What validation says about the policies -/

/-- The field that a fault of a configuration is about. -/
def ConfigError.field? : ConfigError → Option String
  | json _ => none
  | unknownPolicy field _ | noOperators field | invalidPattern field _ => some field

section

variable [Pattern.Engine] {fields : Fields} {available : Table Policy} {field : String}
  {p : Policy}

theorem Fault.field?_eq {e : ConfigError} (h : Fault fields available field e) :
    e.field? = some field := by
  cases h <;> rfl

theorem HasPolicy.usable (h : HasPolicy fields available field p)
    (hvalid : fields.validate available = .ok ()) : p.Usable := by
  obtain ⟨s, hs, -⟩ := hasPolicy_iff_resolve?.1 h
  obtain ⟨p', hp', husable⟩ := Fields.validate_eq_ok_iff_usable.1 hvalid field s hs
  rwa [h.unique hp']

/-- The field of a fault has no usable policy. -/
theorem Fields.not_usable_of_validate_eq_error {e : ConfigError}
    (h : fields.validate available = .error e) :
    ∃ field, e.field? = some field ∧ ∀ p, HasPolicy fields available field p → ¬p.Usable := by
  obtain ⟨field, hfault, -⟩ := Fields.validate_eq_error_iff.1 h
  exact ⟨field, hfault.field?_eq, fun p hp => hfault.not_usable hp⟩

/-- Only a usable policy permits anything. -/
theorem Policy.Permits.usable {f : Filter} {op : String} (h : p.Permits f op) : p.Usable where
  operators_ne_nil := List.ne_nil_of_mem h.operator.mem
  valid pattern hpattern := (h.pattern pattern hpattern).valid

end

/-! ### The fault of the query -/

section

variable [Pattern.Engine]

/-- What a filter can do wrong where the policies are in order: use a field that is not in the
table, have a value of the wrong kind, have a value of which some scalar does not match a pattern
that can be read, or be written with an operator that the policy does not list. -/
inductive Misuse (fields : Fields) (available : Table Policy) (f : Filter) : CompileError → Prop
  | unknownField (h : fields.get? f.field = none) : Misuse fields available f (.unknownField f)
  | wrongKind {p : Policy} (hp : HasPolicy fields available f.field p)
    (hkind : f.value.kind ≠ p.kind) : Misuse fields available f (.wrongKind f p.kind)
  | patternMismatch {p : Policy} {pattern : Pattern} {s : Value}
    (hp : HasPolicy fields available f.field p) (hpattern : p.pattern = some pattern)
    (hvalid : pattern.isValid = true) (hs : f.value.HasScalar s)
    (hmatch : pattern.isMatch? s.text = some false) :
    Misuse fields available f (.patternMismatch f pattern)
  | forbiddenOperator {p : Policy} (hp : HasPolicy fields available f.field p)
    (hwritten : f.operator ≠ defaultOperator) (hop : f.operator ∉ p.operators) :
    Misuse fields available f (.forbiddenOperator f)

/-- A pattern that can be read and does not admit a value has a scalar that it does not match. -/
theorem Pattern.exists_mismatch {pattern : Pattern} {v : Value} (hvalid : pattern.isValid = true)
    (h : ¬pattern.Admits v) : ∃ s, v.HasScalar s ∧ pattern.isMatch? s.text = some false := by
  obtain ⟨isMatch, hread⟩ := Option.isSome_iff_exists.1 hvalid
  have hmatch : ∀ text, pattern.isMatch? text = some (isMatch text) := by
    intro text
    rw [isMatch?, hread, Option.map_some]
  apply Classical.byContradiction
  intro hnone
  apply h
  refine ⟨hvalid, fun s hs => ?_⟩
  rw [hmatch]
  cases hm : isMatch s.text with
  | true => rfl
  | false => exact absurd ⟨s, hs, by rw [hmatch, hm]⟩ hnone

/-- A policy with operators has one for every filter that is written without. -/
theorem Policy.Usable.exists_resolves {p : Policy} (h : p.Usable) :
    ∃ op, p.Resolves defaultOperator op := by
  obtain ⟨op, ops, hops⟩ := List.exists_cons_of_ne_nil h.operators_ne_nil
  exact ⟨op, .first hops⟩

/-- With valid fields a violation is a misuse. -/
theorem Violation.misuse {fields : Fields} {available : Table Policy} {f : Filter}
    {e : CompileError} (h : Violation fields available f e)
    (hvalid : fields.validate available = .ok ()) : Misuse fields available f e := by
  cases h with
  | unknownField h =>
    apply Misuse.unknownField
    rw [Option.eq_none_iff_forall_ne_some]
    intro s hs
    obtain ⟨p, hp, -⟩ := Fields.validate_eq_ok_iff_usable.1 hvalid _ s hs
    exact h p hp
  | wrongKind hp hkind => exact .wrongKind hp hkind
  | patternMismatch hp hkind hpattern h =>
    have hread := (hp.usable hvalid).valid _ hpattern
    obtain ⟨s, hs, hmatch⟩ := Pattern.exists_mismatch hread h
    exact .patternMismatch hp hpattern hread hs hmatch
  | forbiddenOperator hp hkind hpattern h =>
    have hwritten : f.operator ≠ defaultOperator := by
      intro hdefault
      obtain ⟨op, hop⟩ := (hp.usable hvalid).exists_resolves
      exact h op (hdefault ▸ hop)
    refine .forbiddenOperator hp hwritten ?_
    intro hmem
    exact h _ (.listed hwritten hmem)

end

/-! ### Compilations -/

namespace Compiler

section

variable [Pattern.Engine] {c : Compiler} {fields : Fields} {q : Query}

/-- The query can be compiled: into a term, with the plain text of its values, or behind some
parameters. -/
def Accepts (c : Compiler) (fields : Fields) (q : Query) : Prop :=
  (∃ t, c.build fields q = .ok t) ∨ (∃ text, c.plainQuery fields q = .ok text) ∨
    ∃ params text, (c.sqlQuery fields params q).1 = .ok text

/-- A compilation of the query, into any of these, fails with `e`. -/
def Rejects (c : Compiler) (fields : Fields) (q : Query) (e : CompileError) : Prop :=
  c.build fields q = .error e ∨ c.plainQuery fields q = .error e ∨
    ∃ params, (c.sqlQuery fields params q).1 = .error e

theorem accepts_iff : c.Accepts fields q ↔ ∃ t, c.build fields q = .ok t := by
  unfold Accepts plainQuery sqlQuery
  cases c.build fields q with
  | error e => simp [renderOnto, Except.map]
  | ok t => simp

theorem rejects_iff {e : CompileError} : c.Rejects fields q e ↔ c.build fields q = .error e := by
  unfold Rejects plainQuery sqlQuery
  cases c.build fields q with
  | error e' => simp [renderOnto, Except.map]
  | ok t => simp [renderOnto, Except.map]

/-- A compilation fails for the number of filters or for the violation of a policy. -/
theorem Rejects.exists_violation {e : CompileError} (h : c.Rejects fields q e) :
    (∃ observed, e = .tooManyFilters observed c.options.maxFilters) ∨
      ∃ f ∈ q.filters, Violation fields c.available f e := by
  cases q with
  | none => cases rejects_iff.1 h
  | some condition =>
    rcases build_eq_error_iff.1 (rejects_iff.1 h) with ⟨-, rfl⟩ | ⟨-, before, f, after, hfs, -, hv⟩
    · exact .inl ⟨_, rfl⟩
    · refine .inr ⟨f, ?_, hv⟩
      show f ∈ condition.filters
      rw [hfs]
      simp

/-- Each filter of a query that can be compiled meets its policy. -/
theorem Accepts.exists_permits {f : Filter} (h : c.Accepts fields q) (hf : f ∈ q.filters) :
    ∃ p op, HasPolicy fields c.available f.field p ∧ p.Permits f op := by
  cases q with
  | none => cases hf
  | some condition =>
    have hno := exists_eq_ok_iff.1 (accepts_iff.1 h)
    simp only [build_eq_error_iff] at hno
    rcases f.permits_or_violation fields c.available with hpermits | hviolation
    · exact hpermits
    · exfalso
      by_cases hlimit : condition.Exceeds c.options.maxFilters
      · exact hno ⟨_, .inl ⟨hlimit, rfl⟩⟩
      · have hnone : ¬∃ e, FirstViolation fields c.available condition.filters e :=
          fun ⟨e, he⟩ => hno ⟨e, .inr ⟨hlimit, he⟩⟩
        obtain ⟨e, he⟩ := hviolation
        exact not_exists_firstViolation_iff.1 hnone f hf e he

end

/-- Validation and compilation agree about the policies, whatever engine reads the patterns. With
valid fields, a compilation fails only for too many filters or for what a filter of the query does
wrong. A field that validation finds fault with cannot be used in any query. -/
theorem validation_agrees_with_compilation [Pattern.Engine] (c : Compiler) (fields : Fields) :
    (fields.validate c.available = .ok () → ∀ (q : Query) (e : CompileError),
      c.Rejects fields q e →
      (∃ observed, e = .tooManyFilters observed c.options.maxFilters) ∨
        ∃ f ∈ q.filters, Misuse fields c.available f e) ∧
    ∀ e, fields.validate c.available = .error e → ∃ field, e.field? = some field ∧
      ∀ q : Query, (∃ f ∈ q.filters, f.field = field) → ¬c.Accepts fields q := by
  constructor
  · intro hvalid q e h
    rcases h.exists_violation with hlimit | ⟨f, hf, hv⟩
    · exact .inl hlimit
    · exact .inr ⟨f, hf, hv.misuse hvalid⟩
  · intro e he
    obtain ⟨field, hfield, hunusable⟩ := Fields.not_usable_of_validate_eq_error he
    refine ⟨field, hfield, ?_⟩
    rintro q ⟨f, hf, rfl⟩ h
    obtain ⟨p, op, hp, hpermits⟩ := h.exists_permits hf
    exact hunusable p hp hpermits.usable

/-- An empty list has no scalar that a pattern could fail to match. It is refused all the same where
the pattern cannot be read, and validation has said so. Where the pattern can be read, what is
refused is a member that does not match. -/
theorem validation_agrees_with_compilation_of_patterns :
    let fieldsWith (source : String) : Fields :=
      ⟨[("sku", .own ⟨.array, ["="], .operator, some ⟨source⟩⟩)], by simp⟩
    let without : Filter := ⟨"sku", defaultOperator, .list []⟩
    let other : Filter := ⟨"sku", defaultOperator, .list [.string "b"]⟩
    (fieldsWith "[").validate Policy.builtin = .error (.invalidPattern "sku" ⟨"["⟩) ∧
      ¬standard.Accepts (fieldsWith "[") (some (.filter without)) ∧
      (fieldsWith "^a").validate Policy.builtin = .ok () ∧
      standard.Rejects (fieldsWith "^a") (some (.filter other)) (.patternMismatch other ⟨"^a"⟩) ∧
      Misuse (fieldsWith "^a") Policy.builtin other (.patternMismatch other ⟨"^a"⟩) := by
  intro fieldsWith without other
  have hvalidate : ∀ source, (fieldsWith source).validate Policy.builtin =
      if Pattern.isValid ⟨source⟩ then .ok () else .error (.invalidPattern "sku" ⟨source⟩) := by
    intro source
    rw [Fields.validate, Table.sorted, List.mergeSort_singleton]
    cases h : Pattern.isValid ⟨source⟩ <;> simp [Standard.fault?, Policy.fault?, h]
  have hbroken : (fieldsWith "[").validate Policy.builtin =
      .error (.invalidPattern "sku" ⟨"["⟩) :=
    (hvalidate "[").trans (if_neg (by decide +kernel))
  have hsound : (fieldsWith "^a").validate Policy.builtin = .ok () :=
    (hvalidate "^a").trans (if_pos (by decide +kernel))
  have hrejects : standard.Rejects (fieldsWith "^a") (some (.filter other))
      (.patternMismatch other ⟨"^a"⟩) := by
    have hrefuses : ¬Pattern.Admits ⟨"^a"⟩ other.value := by
      rw [← Pattern.accepts_iff]
      decide +kernel
    have hviolation : Violation (fieldsWith "^a") standard.available other
        (.patternMismatch other ⟨"^a"⟩) :=
      .patternMismatch (.own rfl) rfl rfl hrefuses
    exact rejects_iff.2 ((build_of_not_exceeds (by decide)).trans hviolation.compileFilter_eq)
  refine ⟨hbroken, ?_, hsound, hrejects, ?_⟩
  · obtain ⟨field, hfield, h⟩ :=
      (validation_agrees_with_compilation standard (fieldsWith "[")).2 _ hbroken
    exact h _ ⟨without, by simp [Query.filters, Condition.filters], Option.some.inj hfield⟩
  · rcases (validation_agrees_with_compilation standard (fieldsWith "^a")).1 hsound _ _ hrejects
      with ⟨_, h⟩ | ⟨f, hf, h⟩
    · cases h
    · obtain rfl : f = other := by simpa [Query.filters, Condition.filters] using hf
      exact h

end Compiler

end FilterQuery
