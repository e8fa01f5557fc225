import FilterQuery.Cli.Compile
import FilterQuery.Proofs.Compiler.Enforcement
import FilterQuery.Proofs.Parsing.Limit

/-!
# Compiling from text

A query that is compiled from its text is parsed with the limit of the compiler. The number of
filters is then counted twice, by the parser and in the tree that it has read. Both counts lead to
the same verdict, so that it makes no difference whether the text is compiled or the query that is
parsed from it without any limit.
-/

namespace FilterQuery

theorem Query.allow_of_exceeds {condition : Condition} {max : Nat} (h : condition.Exceeds max) :
    Query.allow max (some condition) =
      .error (.tooManyFilters condition.filters.length max) := by
  rw [allow, condition.size_eq_length_filters]
  exact if_pos h

theorem Query.allow_of_not_exceeds {condition : Condition} {max : Nat}
    (h : ¬condition.Exceeds max) : Query.allow max (some condition) = .ok (some condition) := by
  rw [allow, condition.size_eq_length_filters]
  exact if_neg h

theorem Cli.check_of_parseQuery_error {source : String} {e : ParseError}
    (h : parseQuery source 0 = .error e) : Cli.check source = .error (.parse e) := by
  rw [check, h]
  rfl

theorem Cli.check_of_parseQuery_ok {source : String} {q : Query}
    (h : parseQuery source 0 = .ok q) : Cli.check source = .ok () := by
  rw [check, h]
  rfl

theorem Cli.exists_check_eq_error_iff {source : String} :
    (∃ e, Cli.check source = .error e) ↔ ∃ e, parseQuery source 0 = .error e := by
  cases h : parseQuery source 0 with
  | error e => simp [check_of_parseQuery_error h]
  | ok q => simp [check_of_parseQuery_ok h]

namespace Compiler

variable {c : Compiler} {fields : Fields} {source : String}

/-- Without a tree to count in, parsing fails as it does without a limit. -/
theorem parse_of_parseQuery_error {e : ParseError} (h : parseQuery source 0 = .error e) :
    c.parse source = .error (.malformed e) := by
  have hmax : parseQuery source c.options.maxFilters = .error e := by
    rw [parseQuery_eq_bind_allow, h]
    rfl
  rw [parse, hmax]
  cases e with
  | tooManyFilters observed max => exact absurd h (parseQuery_zero_ne_tooManyFilters source _ _)
  | _ => rfl

theorem parse_of_parseQuery_none (h : parseQuery source 0 = .ok none) :
    c.parse source = .ok none := by
  rw [parse, parseQuery_eq_bind_allow, h]
  rfl

/-- The parser counts the filters as they are counted in the tree. -/
theorem parse_of_parseQuery_some {condition : Condition}
    (h : parseQuery source 0 = .ok (some condition)) :
    c.parse source = (condition.checkLimit c.options.maxFilters).map some := by
  have hmax : parseQuery source c.options.maxFilters =
      Query.allow c.options.maxFilters (some condition) := by
    rw [parseQuery_eq_bind_allow, h]
    rfl
  rw [parse, hmax]
  by_cases hlimit : condition.Exceeds c.options.maxFilters
  · rw [Query.allow_of_exceeds hlimit, Condition.checkLimit_of_exceeds hlimit]
    rfl
  · rw [Query.allow_of_not_exceeds hlimit, Condition.checkLimit_of_not_exceeds hlimit]
    rfl

variable [Pattern.Engine]

/-- A condition that the first count refuses would be refused by the second one. -/
theorem checkLimit_bind_build (condition : Condition) :
    ((condition.checkLimit c.options.maxFilters).map some).bind (c.build fields) =
      c.build fields (some condition) := by
  by_cases hlimit : condition.Exceeds c.options.maxFilters
  · rw [build_of_exceeds hlimit, Condition.checkLimit_of_exceeds hlimit]
    rfl
  · rw [Condition.checkLimit_of_not_exceeds hlimit]
    rfl

theorem parse_bind_build :
    (c.parse source).bind (c.build fields) =
      ((parseQuery source 0).mapError .malformed).bind (c.build fields) := by
  match h : parseQuery source 0 with
  | .error e =>
    rw [parse_of_parseQuery_error h]
    rfl
  | .ok none =>
    rw [parse_of_parseQuery_none h]
    rfl
  | .ok (some condition) =>
    rw [parse_of_parseQuery_some h, checkLimit_bind_build]
    rfl

theorem plain_eq_map : c.plain fields source =
    ((c.parse source).bind (c.build fields)).map Sql.Term.plain := by
  rw [plain]
  cases c.parse source <;> rfl

theorem sql_eq_renderOnto {params : Array Value} : c.sql fields params source =
    renderOnto params ((c.parse source).bind (c.build fields)) := by
  rw [sql]
  cases c.parse source <;> rfl

theorem plain_of_parseQuery_error {e : ParseError} (h : parseQuery source 0 = .error e) :
    c.plain fields source = .error (.malformed e) := by
  rw [plain_eq_map, parse_bind_build, h]
  rfl

theorem plain_of_parseQuery_ok {q : Query} (h : parseQuery source 0 = .ok q) :
    c.plain fields source = c.plainQuery fields q := by
  rw [plain_eq_map, parse_bind_build, h]
  rfl

theorem sql_of_parseQuery_error {params : Array Value} {e : ParseError}
    (h : parseQuery source 0 = .error e) :
    c.sql fields params source = (.error (.malformed e), params) := by
  rw [sql_eq_renderOnto, parse_bind_build, h]
  rfl

theorem sql_of_parseQuery_ok {params : Array Value} {q : Query} (h : parseQuery source 0 = .ok q) :
    c.sql fields params source = c.sqlQuery fields params q := by
  rw [sql_eq_renderOnto, parse_bind_build, h]
  rfl

/-- A query that has been read is not malformed. -/
theorem build_ne_malformed (q : Query) (e : ParseError) :
    c.build fields q ≠ .error (.malformed e) := by
  cases q with
  | none => nofun
  | some condition =>
    intro h
    rcases build_eq_error_iff.1 h with ⟨-, he⟩ | ⟨-, _, _, _, -, -, hv⟩
    · cases he
    · cases hv

theorem plainQuery_ne_malformed (q : Query) (e : ParseError) :
    c.plainQuery fields q ≠ .error (.malformed e) := by
  rw [plainQuery]
  cases h : c.build fields q with
  | ok t => nofun
  | error e' =>
    intro he
    cases he
    exact build_ne_malformed q e h

theorem sqlQuery_ne_malformed (params : Array Value) (q : Query) (e : ParseError) :
    (c.sqlQuery fields params q).1 ≠ .error (.malformed e) := by
  rw [sqlQuery]
  cases h : c.build fields q with
  | ok t => nofun
  | error e' =>
    intro he
    cases he
    exact build_ne_malformed q e h

/-- A compilation of a text is malformed exactly if checking the text fails. -/
theorem exists_plain_malformed_iff :
    (∃ e, c.plain fields source = .error (.malformed e)) ↔ ∃ e, Cli.check source = .error e := by
  rw [Cli.exists_check_eq_error_iff]
  constructor
  · rintro ⟨e, he⟩
    cases h : parseQuery source 0 with
    | ok q => exact absurd (plain_of_parseQuery_ok h ▸ he) (plainQuery_ne_malformed q e)
    | error e' => exact ⟨e', rfl⟩
  · rintro ⟨e, h⟩
    exact ⟨e, plain_of_parseQuery_error h⟩

theorem exists_sql_malformed_iff {params : Array Value} :
    (∃ e, (c.sql fields params source).1 = .error (.malformed e)) ↔
      ∃ e, Cli.check source = .error e := by
  rw [Cli.exists_check_eq_error_iff]
  constructor
  · rintro ⟨e, he⟩
    cases h : parseQuery source 0 with
    | ok q => exact absurd (sql_of_parseQuery_ok h ▸ he) (sqlQuery_ne_malformed params q e)
    | error e' => exact ⟨e', rfl⟩
  · rintro ⟨e, h⟩
    exact ⟨e, by rw [sql_of_parseQuery_error h]⟩

/-- Compiling a text is compiling the query that is parsed from it without a limit, or reporting why
it cannot be parsed: the counts of the parser and of the compiler agree, and a query is reported as
malformed exactly if checking its text fails. -/
theorem source_compiles_as_query (c : Compiler) (fields : Fields) (params : Array Value)
    (source : String) :
    (∀ q, parseQuery source 0 = .ok q →
      c.plain fields source = c.plainQuery fields q ∧
      c.sql fields params source = c.sqlQuery fields params q) ∧
    (∀ e, parseQuery source 0 = .error e →
      c.plain fields source = .error (.malformed e) ∧
      c.sql fields params source = (.error (.malformed e), params)) ∧
    (∀ condition, parseQuery source 0 = .ok (some condition) →
      c.parse source = (condition.checkLimit c.options.maxFilters).map some) ∧
    ((∃ e, c.plain fields source = .error (.malformed e)) ↔
      ∃ e, Cli.check source = .error e) ∧
    ((∃ e, (c.sql fields params source).1 = .error (.malformed e)) ↔
      ∃ e, Cli.check source = .error e) := by
  refine ⟨?_, ?_, ?_, exists_plain_malformed_iff, exists_sql_malformed_iff⟩
  · intro q h
    exact ⟨plain_of_parseQuery_ok h, sql_of_parseQuery_ok h⟩
  · intro e h
    exact ⟨plain_of_parseQuery_error h, sql_of_parseQuery_error h⟩
  · intro condition h
    exact parse_of_parseQuery_some h

end Compiler

end FilterQuery
