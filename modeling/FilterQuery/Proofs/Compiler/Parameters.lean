import FilterQuery.Proofs.Compiler.Source

/-!
# The list of parameters

A term that is made by the standard builders is rendered as a fixed text, whatever the parameters
before it, and leaves exactly its values behind them (`Sql.Term.render_eq`). `Sql.Term.chars` and
`Sql.Term.values` describe both by recursion on the term.

The placeholders of the text are its question marks, but for those that fields and operators bring
along (`Sql.Term.strayMarks`).
-/

namespace FilterQuery

namespace Sql

/-! ### Terms without an accumulator -/

/-- The characters between two joined terms. -/
def Connective.between : Connective → List Char
  | and => [')', ' ', 'A', 'N', 'D', ' ', '(']
  | or => [')', ' ', 'O', 'R', ' ', '(']

namespace Term

/-- The characters before the placeholder of a field that is searched. -/
def likeStart : List Char :=
  [' ', 'L', 'I', 'K', 'E', ' ', 'C', 'O', 'N', 'C', 'A', 'T', '(', '\x27', '%', '\x27', ',', ' ']

/-- The characters behind the placeholder of a field that is searched. -/
def likeEnd : List Char := [',', ' ', '\x27', '%', '\x27', ')']

/-- The characters of the term with placeholders. -/
def chars : Term → List Char
  | empty => []
  | operator field symbol _ =>
    identifierChars field.toList ++ ' ' :: (symbol.toList ++ [' ', '?'])
  | like field _ => field.toList ++ (likeStart ++ '?' :: likeEnd)
  | junction connective left right =>
    '(' :: (left.chars ++ (connective.between ++ (right.chars ++ [')'])))
  | custom _ _ => []

/-- The values of the term, from left to right. -/
def values : Term → List Value
  | empty => []
  | operator _ _ value | like _ value => [value]
  | junction _ left right => left.values ++ right.values
  | custom _ _ => []

/-- The number of question marks in the fields of the term and in the operators that are written.
They are no placeholders. -/
def strayMarks : Term → Nat
  | empty => 0
  | operator field symbol _ => field.toList.count '?' + symbol.toList.count '?'
  | like field _ => field.toList.count '?'
  | junction _ left right => left.strayMarks + right.strayMarks
  | custom _ _ => 0

/-- A term in which no builders of its own have a part. -/
def IsStandard : Term → Prop
  | junction _ left right => left.IsStandard ∧ right.IsStandard
  | custom _ _ => False
  | _ => True

theorem toList_join (c : Connective) (left right : String) :
    (c.join left right).toList =
      '(' :: (left.toList ++ (c.between ++ (right.toList ++ [')']))) := by
  cases c <;>
    simp [Connective.join, Connective.keyword, Connective.between, String.toList_append]

/-- A term is rendered without regard to the parameters before it, and its values follow them. -/
theorem render_eq {t : Term} (h : t.IsStandard) (params : Array Value) :
    t.render params = (String.ofList t.chars, params ++ t.values.toArray) := by
  induction t generalizing params with
  | empty => simp [render, chars, values]
  | operator field symbol value =>
    have htext : identifier field ++ " " ++ symbol ++ " ?" =
        String.ofList (chars (.operator field symbol value)) := by
      apply String.toList_inj.1
      simp [chars, identifier, String.toList_append]
    rw [render, htext]
    simp [values]
  | like field value =>
    have htext : field ++ " LIKE CONCAT('%', ?, '%')" =
        String.ofList (chars (.like field value)) := by
      apply String.toList_inj.1
      simp [chars, likeStart, likeEnd, String.toList_append]
    rw [render, htext]
    simp [values]
  | junction c left right ihl ihr =>
    have htext : c.join (String.ofList left.chars) (String.ofList right.chars) =
        String.ofList (chars (.junction c left right)) := by
      apply String.toList_inj.1
      rw [toList_join, String.toList_ofList, String.toList_ofList, String.toList_ofList, chars]
    simp only [render, ihl h.1, ihr h.2, htext, values]
    simp [Array.append_assoc]
  | custom plain render => exact absurd h id

/-! ### Question marks -/

/-- Quoting an identifier adds backticks and dots only. -/
theorem count_identifierChars (name : List Char) :
    (identifierChars name).count '?' = name.count '?' := by
  have hchar : ∀ c, (identifierChar c).count '?' = [c].count '?' := by
    intro c
    unfold identifierChar
    split
    · next h => rw [h]; rfl
    · split
      · next h => rw [h]; rfl
      · rfl
  have hname : (name.flatMap identifierChar).count '?' = name.count '?' := by
    induction name with
    | nil => rfl
    | cons c cs ih =>
      rw [List.flatMap_cons, List.count_append, hchar, ih, ← List.count_append]
      rfl
  rw [identifierChars, List.cons_append, List.count_cons_of_ne (by decide), List.count_append, hname]
  rfl

/-- Each value has a placeholder, and all other question marks come from names. -/
theorem count_chars {t : Term} (h : t.IsStandard) :
    t.chars.count '?' = t.values.length + t.strayMarks := by
  induction t with
  | empty => rfl
  | operator field symbol value =>
    rw [chars, List.count_append, count_identifierChars, List.count_cons_of_ne (by decide),
      List.count_append, values, strayMarks]
    show _ + (_ + 1) = 1 + _
    omega
  | like field value =>
    rw [chars, List.count_append, values, strayMarks]
    show _ + 1 = 1 + _
    omega
  | junction c left right ihl ihr =>
    have hbetween : c.between.count '?' = 0 := by cases c <;> rfl
    rw [chars, List.count_cons_of_ne (by decide), List.count_append, List.count_append,
      List.count_append, ihl h.1, ihr h.2, hbetween, values, List.length_append, strayMarks]
    show _ + (0 + (_ + 0)) = _
    omega
  | custom plain render => exact absurd h id

end Term

end Sql

/-! ### Queries -/

/-- The filters of a query, from left to right. -/
def Query.filters : Query → List Filter
  | none => []
  | some condition => condition.filters

variable [Pattern.Engine]

theorem BuiltInto.isStandard {fields : Fields} {available : Table Policy} {condition : Condition}
    {t : Sql.Term} (h : BuiltInto fields available condition t) : t.IsStandard := by
  induction h with
  | comparison | search => trivial
  | and _ _ ihl ihr | or _ _ ihl ihr => exact ⟨ihl, ihr⟩

/-- The values of a term are those of the filters that it is built from. -/
theorem BuiltInto.values_eq {fields : Fields} {available : Table Policy} {condition : Condition}
    {t : Sql.Term} (h : BuiltInto fields available condition t) :
    t.values = condition.filters.map Filter.value := by
  induction h with
  | comparison | search => rfl
  | and _ _ ihl ihr | or _ _ ihl ihr =>
    rw [Sql.Term.values, Condition.filters, List.map_append, ihl, ihr]

namespace Compiler

variable {options : Options} {available : Table Policy} {fields : Fields} {q : Query}
  {t : Sql.Term}

theorem isStandard_of_build_eq_ok
    (h : (Compiler.mk options available .standard).build fields q = .ok t) :
    t.IsStandard ∧ t.values = (Query.filters q).map Filter.value := by
  cases q with
  | none =>
    cases h
    exact ⟨trivial, rfl⟩
  | some condition =>
    have hbuilt := (build_eq_ok_iff.1 h).2
    exact ⟨hbuilt.isStandard, hbuilt.values_eq⟩

theorem sqlQuery_of_build_eq_error {c : Compiler} {e : CompileError}
    (h : c.build fields q = .error e) (params : Array Value) :
    c.sqlQuery fields params q = (.error e, params) := by
  rw [sqlQuery, h]
  rfl

theorem sqlQuery_of_build_eq_ok
    (h : (Compiler.mk options available .standard).build fields q = .ok t)
    (params : Array Value) :
    (Compiler.mk options available .standard).sqlQuery fields params q =
      (.ok (String.ofList t.chars), params ++ t.values.toArray) := by
  rw [sqlQuery, h, renderOnto, Sql.Term.render_eq (isStandard_of_build_eq_ok h).1]

/-- What a text is compiled to: the text and the values of the term of the query that is read. -/
theorem compileParams_eq_ok_iff {source sql : String} {params : List Value} :
    Cli.compileParams ⟨options, available, .standard⟩ fields source = .ok (sql, params) ↔
      ∃ q t, parseQuery source 0 = .ok q ∧
        (Compiler.mk options available .standard).build fields q = .ok t ∧
        sql = String.ofList t.chars ∧ params = t.values := by
  rw [Cli.compileParams]
  cases hq : parseQuery source 0 with
  | error e => simp [sql_of_parseQuery_error hq]
  | ok q =>
    rw [sql_of_parseQuery_ok hq]
    cases ht : (Compiler.mk options available .standard).build fields q with
    | error e => simp [sqlQuery_of_build_eq_error ht, ht]
    | ok t =>
      rw [sqlQuery_of_build_eq_ok ht]
      constructor
      · intro h
        obtain ⟨rfl, rfl⟩ := Prod.mk.inj (Except.ok.inj h)
        exact ⟨q, t, rfl, ht, rfl, by simp⟩
      · rintro ⟨q', t', hq', ht', rfl, rfl⟩
        cases hq'
        cases ht.symm.trans ht'
        simp

/-- A compilation, given as a function of the parameters before it, that fails and leaves them as
they are. -/
def FailsOn (run : Array Value → Except CompileError String × Array Value) : Prop :=
  ∃ e, ∀ seed, run seed = (.error e, seed)

/-- A compilation of `q`, given as a function of the parameters before it, that appends the value of
each filter of `q`, in order. Neither the text nor the values depend on what was there before. The
text has a question mark for each of the values, and those of the fields and operators in it. -/
def AppendsValues (c : Compiler) (fields : Fields) (q : Query)
    (run : Array Value → Except CompileError String × Array Value) : Prop :=
  ∃ t text, c.build fields q = .ok t ∧
    (∀ seed, run seed = (.ok text, seed ++ ((Query.filters q).map Filter.value).toArray)) ∧
    text.toList.count '?' = (Query.filters q).length + t.strayMarks

theorem sqlQuery_fails_or_appends (options : Options) (available : Table Policy) (fields : Fields)
    (q : Query) :
    FailsOn ((Compiler.mk options available .standard).sqlQuery fields · q) ∨
      AppendsValues ⟨options, available, .standard⟩ fields q
        ((Compiler.mk options available .standard).sqlQuery fields · q) := by
  cases h : (Compiler.mk options available .standard).build fields q with
  | error e => exact .inl ⟨e, sqlQuery_of_build_eq_error h⟩
  | ok t =>
    obtain ⟨hstandard, hvalues⟩ := isStandard_of_build_eq_ok h
    refine .inr ⟨t, String.ofList t.chars, h, ?_, ?_⟩
    · intro seed
      have hrun := sqlQuery_of_build_eq_ok h seed
      rw [hvalues] at hrun
      exact hrun
    · rw [String.toList_ofList, Sql.Term.count_chars hstandard, hvalues, List.length_map]

/-- With the standard builders a compilation that fails leaves the parameters as they are, and one
that succeeds appends one value for each filter, in order, with a placeholder for each. This holds
of a text as of a query. -/
theorem compilation_fails_or_appends (options : Options) (available : Table Policy)
    (fields : Fields) :
    (∀ q : Query,
      FailsOn ((Compiler.mk options available .standard).sqlQuery fields · q) ∨
        AppendsValues ⟨options, available, .standard⟩ fields q
          ((Compiler.mk options available .standard).sqlQuery fields · q)) ∧
    ∀ source : String,
      FailsOn ((Compiler.mk options available .standard).sql fields · source) ∨
        ∃ q, parseQuery source 0 = .ok q ∧
          AppendsValues ⟨options, available, .standard⟩ fields q
            ((Compiler.mk options available .standard).sql fields · source) := by
  refine ⟨sqlQuery_fails_or_appends options available fields, ?_⟩
  intro source
  cases h : parseQuery source 0 with
  | error e => exact .inl ⟨_, fun seed => sql_of_parseQuery_error h⟩
  | ok q =>
    -- The text is compiled as the query that it is parsed into.
    have hsql : ((Compiler.mk options available .standard).sql fields · source) =
        ((Compiler.mk options available .standard).sqlQuery fields · q) :=
      funext fun seed => sql_of_parseQuery_ok h
    rw [hsql]
    rcases sqlQuery_fails_or_appends options available fields q with hfails | happends
    · exact .inl hfails
    · exact .inr ⟨q, rfl, happends⟩

end Compiler

end FilterQuery
