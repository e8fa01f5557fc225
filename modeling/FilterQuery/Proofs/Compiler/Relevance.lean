import FilterQuery.Pattern.Engine
import FilterQuery.Proofs.Compiler.Parameters
import FilterQuery.Proofs.Lexing.Spelling

/-!
# Fields that matter

A compilation looks fields up when it meets a filter on them. What else stands in the table of
fields or among the shared policies has no influence, and neither has the way in which a field comes
to its policy: by its own entry or by a name.
-/

namespace FilterQuery

/-- Two configurations agree on a field: it has the same policy in both, or none in both. -/
def AgreeOn (fields : Fields) (available : Table Policy) (fields' : Fields)
    (available' : Table Policy) (field : String) : Prop :=
  ∀ p, HasPolicy fields available field p ↔ HasPolicy fields' available' field p

theorem AgreeOn.policy?_eq {fields fields' : Fields} {available available' : Table Policy}
    {field : String} (h : AgreeOn fields available fields' available' field) :
    Fields.policy? fields available field = Fields.policy? fields' available' field := by
  apply Option.ext
  intro p
  rw [policy?_eq_some_iff, policy?_eq_some_iff]
  exact h p

namespace Compiler

section

variable [Pattern.Engine] {c : Compiler} {fields fields' : Fields} {available' : Table Policy}

theorem compileFilter_congr {f : Filter}
    (h : AgreeOn fields c.available fields' available' f.field) :
    c.compileFilter fields f = { c with available := available' }.compileFilter fields' f := by
  rw [compileFilter, compileFilter, h.policy?_eq]

theorem compileCondition_congr {condition : Condition}
    (h : ∀ f ∈ condition.filters, AgreeOn fields c.available fields' available' f.field) :
    c.compileCondition fields condition =
      { c with available := available' }.compileCondition fields' condition := by
  induction condition with
  | filter f => exact compileFilter_congr (h f List.mem_cons_self)
  | and l r ihl ihr | or l r ihl ihr =>
    obtain ⟨hl, hr⟩ := List.forall_mem_append.1 h
    rw [compileCondition, compileCondition, ihl hl, ihr hr]

theorem build_congr {q : Query}
    (h : ∀ f ∈ Query.filters q, AgreeOn fields c.available fields' available' f.field) :
    c.build fields q = { c with available := available' }.build fields' q := by
  cases q with
  | none => rfl
  | some condition =>
    -- The number of filters is counted without regard to any policy.
    by_cases hlimit : condition.Exceeds c.options.maxFilters
    · rw [build_of_exceeds hlimit,
        build_of_exceeds (c := { c with available := available' }) hlimit]
    · rw [build_of_not_exceeds hlimit,
        build_of_not_exceeds (c := { c with available := available' }) hlimit]
      exact compileCondition_congr h

/-- A text is compiled alike with two configurations that agree on the fields of the query that is
read from it, be it to a statement or to an error. Nothing is asked of the configurations if no
query can be read. -/
theorem compilation_depends_on_fields_used (c : Compiler) (fields fields' : Fields)
    (available' : Table Policy) (params : Array Value) (source : String)
    (h : ∀ q, parseQuery source 0 = .ok q →
      ∀ f ∈ Query.filters q, AgreeOn fields c.available fields' available' f.field) :
    c.plain fields source = { c with available := available' }.plain fields' source ∧
      c.sql fields params source =
        { c with available := available' }.sql fields' params source := by
  cases hq : parseQuery source 0 with
  | error e =>
    rw [plain_of_parseQuery_error hq, plain_of_parseQuery_error hq, sql_of_parseQuery_error hq,
      sql_of_parseQuery_error hq]
    exact ⟨rfl, rfl⟩
  | ok q =>
    have hbuild := build_congr (h q hq)
    rw [plain_of_parseQuery_ok hq, plain_of_parseQuery_ok hq, sql_of_parseQuery_ok hq,
      sql_of_parseQuery_ok hq, plainQuery, plainQuery, sqlQuery, sqlQuery, hbuild]
    exact ⟨rfl, rfl⟩

end

/-- Both configurations give `age` and `tag` the same policies, by a name in one and by an entry of
their own in the other, which has no shared policies at all. A field that is missing is refused like
one that refers to a policy that is not there. The entry for `sku` could not be used, and no query
here does so. -/
theorem compilation_depends_on_fields_used_of_ghost :
    let years : Policy := ⟨.number, [">", "<"], .operator, none⟩
    let label : Policy := ⟨.string, ["="], .like, none⟩
    let fields : Fields := {
      entries := [("age", .named "years"), ("tag", .named "label")]
      nodup := by decide }
    let fields' : Fields := {
      entries := [("sku", .own ⟨.string, [], .like, some ⟨"["⟩⟩), ("tag", .own label),
        ("ghost", .named "years"), ("age", .own years)]
      nodup := by decide }
    let c : Compiler := {
      options := .standard
      available := { entries := [("years", years), ("label", label)], nodup := by decide }
      builders := .standard }
    let c' : Compiler := { c with available := ∅ }
    let accepted := "age : < 14 tag : x"
    let refused := "age : < 14 OR ghost : true"
    let text := "(age < 14) AND (tag LIKE '%x%')"
    let ghost : Filter := ⟨"ghost", defaultOperator, .boolean true⟩
    c.plain fields accepted = .ok text ∧ c'.plain fields' accepted = .ok text ∧
      c.plain fields refused = .error (.unknownField ghost) ∧
      c'.plain fields' refused = .error (.unknownField ghost) := by
  intro years label fields fields' c c' accepted refused text ghost
  let age : Grammar.FilterTree := ⟨"age", some .lt, .number ⟨14, 0, by decide, by decide⟩⟩
  let d₁ : Grammar.QueryTree := .condition ⟨⟨age, [(false, ⟨"tag", none, .word "x"⟩)]⟩, []⟩
  let d₂ : Grammar.QueryTree := .condition ⟨⟨age, []⟩, [⟨⟨"ghost", none, .boolean true⟩, []⟩]⟩
  have hq₁ : parseQuery accepted 0 = .ok d₁.query := by
    have hsource : accepted = String.ofList (Token.spaced d₁.tokens) := by decide +kernel
    rw [hsource]
    exact parseQuery_spaced (by decide)
  have hq₂ : parseQuery refused 0 = .ok d₂.query := by
    have hsource : refused = String.ofList (Token.spaced d₂.tokens) := by decide +kernel
    rw [hsource]
    exact parseQuery_spaced (by decide)
  have hagree : ∀ field ∈ ["age", "tag", "ghost"],
      AgreeOn fields c.available fields' ∅ field := by
    intro field hfield p
    rw [← policy?_eq_some_iff, ← policy?_eq_some_iff]
    simp only [List.mem_cons, List.not_mem_nil, or_false] at hfield
    rcases hfield with rfl | rfl | rfl <;> rfl
  have hkept : c.plain fields accepted = .ok text := by
    rw [plain_of_parseQuery_ok hq₁, plainQuery]
    exact congrArg (Except.map Sql.Term.plain) ((build_of_not_exceeds (by decide)).trans rfl)
  have hrefused : c.plain fields refused = .error (.unknownField ghost) := by
    rw [plain_of_parseQuery_ok hq₂, plainQuery]
    exact congrArg (Except.map Sql.Term.plain) ((build_of_not_exceeds (by decide)).trans rfl)
  have hused₁ : ∀ f ∈ Query.filters d₁.query, f.field ∈ ["age", "tag", "ghost"] := by decide
  have hused₂ : ∀ f ∈ Query.filters d₂.query, f.field ∈ ["age", "tag", "ghost"] := by decide
  have hsame₁ := compilation_depends_on_fields_used c fields fields' ∅ #[] accepted (by
    intro q hq f hf
    cases hq₁.symm.trans hq
    exact hagree _ (hused₁ f hf))
  have hsame₂ := compilation_depends_on_fields_used c fields fields' ∅ #[] refused (by
    intro q hq f hf
    cases hq₂.symm.trans hq
    exact hagree _ (hused₂ f hf))
  exact ⟨hkept, hsame₁.1.symm.trans hkept, hrefused, hsame₂.1.symm.trans hrefused⟩

end Compiler

end FilterQuery
