import FilterQuery.Pattern.Engine
import FilterQuery.Proofs.Compiler.Parameters
import FilterQuery.Proofs.Sql.Literals
import FilterQuery.Proofs.Sql.Placeholders

/-!
# Filling the placeholders of a compiled query

Placeholders are found by their question mark only. Therefore a compiled query is filled with each
value in its own place exactly if none of its fields and written operators holds a question mark
(`Sql.Term.fill_eq_inline_iff`).

* Without stray question marks, filling puts a literal in the place of each placeholder, from left to
  right, and passes over all else (`fillFrom_chars`).
* The first stray question mark takes the value of a later placeholder. No literal starts with a
  question mark, so that the text differs at this character at the latest (`misfills_of_strayMarks`).
-/

namespace FilterQuery

namespace Sql

namespace Term

/-! ### Terms with their literals in place -/

theorem toList_inline_operator (field symbol : String) (value : Value) :
    (operator field symbol value).inline.toList =
      identifierChars field.toList ++ ' ' :: (symbol.toList ++ ' ' :: literalChars value) := by
  simp [inline, identifier, literal, String.toList_append]

theorem toList_inline_like (field : String) (value : Value) :
    (like field value).inline.toList =
      field.toList ++ (likeStart ++ (literalChars value ++ likeEnd)) := by
  simp [inline, literal, likeStart, likeEnd, String.toList_append]

theorem toList_inline_junction (c : Connective) (left right : Term) :
    (junction c left right).inline.toList =
      '(' :: (left.inline.toList ++ (c.between ++ (right.inline.toList ++ [')']))) := by
  cases c <;> simp [inline, Connective.between, String.toList_append]

theorem chars_junction_append (c : Connective) (left right : Term) (rest : List Char) :
    chars (junction c left right) ++ rest =
      ['('] ++ (left.chars ++ (c.between ++ (right.chars ++ ([')'] ++ rest)))) := by
  simp [chars]

theorem not_mem_between (c : Connective) : '?' ∉ c.between := by
  cases c <;> decide

/-! ### Without stray question marks -/

theorem not_mem_of_strayMarks_operator {field symbol : String} {value : Value}
    (h : (operator field symbol value).strayMarks = 0) :
    '?' ∉ identifierChars field.toList ++ ' ' :: (symbol.toList ++ [' ']) := by
  rw [strayMarks, Nat.add_eq_zero_iff] at h
  rw [← List.count_eq_zero, List.count_append, count_identifierChars,
    List.count_cons_of_ne (by decide), List.count_append, h.1, h.2]
  rfl

theorem not_mem_of_strayMarks_like {field : String} {value : Value}
    (h : (like field value).strayMarks = 0) : '?' ∉ field.toList ++ likeStart := by
  rw [strayMarks] at h
  rw [← List.count_eq_zero, List.count_append, h]
  rfl

theorem fillFrom_chars {t : Term} (h : t.IsStandard) (hmarks : t.strayMarks = 0)
    (written rest : List Char) (params : List Value) :
    fillFrom written (t.chars ++ rest) (t.values ++ params) =
      fillFrom (t.inline.toList.reverse ++ written) rest params := by
  induction t generalizing written rest params with
  | empty => rfl
  | operator field symbol value =>
    have hchars : chars (operator field symbol value) ++ rest =
        (identifierChars field.toList ++ ' ' :: (symbol.toList ++ [' '])) ++ '?' :: rest := by
      simp [chars]
    rw [hchars, values, fillFrom_append (not_mem_of_strayMarks_operator hmarks),
      List.singleton_append, fillFrom_mark, toList_inline_operator]
    simp
  | like field value =>
    have hchars : chars (like field value) ++ rest =
        (field.toList ++ likeStart) ++ '?' :: (likeEnd ++ rest) := by
      simp [chars]
    rw [hchars, values, fillFrom_append (not_mem_of_strayMarks_like hmarks),
      List.singleton_append, fillFrom_mark, fillFrom_append (by decide), toList_inline_like]
    simp
  | junction c left right ihl ihr =>
    obtain ⟨hl, hr⟩ := h
    obtain ⟨hmarksl, hmarksr⟩ := Nat.add_eq_zero_iff.1 hmarks
    rw [chars_junction_append, values, List.append_assoc, fillFrom_append (by decide),
      ihl hl hmarksl, fillFrom_append (not_mem_between c), ihr hr hmarksr,
      fillFrom_append (by decide), toList_inline_junction]
    simp
  | custom plain render => exact absurd h id

/-! ### With stray question marks -/

/-- Filling goes wrong: where `inlined` has a question mark, there comes something else, and before
it there is no difference. -/
def Misfills (text inlined : List Char) (values : List Value) : Prop :=
  ∃ before after, inlined = before ++ '?' :: after ∧
    ∀ written rest params, ∃ c cs, c ≠ '?' ∧
      fillFrom written (text ++ rest) (values ++ params) = written.reverse ++ (before ++ c :: cs)

/-- A question mark before the placeholder of a value takes the value. -/
theorem misfills_of_mem {name : List Char} (h : '?' ∈ name) (behind inlined : List Char)
    (v : Value) : Misfills (name ++ behind) (name ++ inlined) [v] := by
  obtain ⟨before, after, rfl, hbefore⟩ := List.eq_append_cons_of_mem h
  refine ⟨before, after ++ inlined, by simp, ?_⟩
  intro written rest params
  obtain ⟨c, cs, hliteral, hc, -⟩ := exists_literalChars_eq_cons v
  refine ⟨c, cs ++ fillFrom [] (after ++ (behind ++ rest)) params, hc, ?_⟩
  rw [List.append_assoc, List.append_assoc, fillFrom_append hbefore, List.cons_append,
    List.singleton_append, fillFrom_mark, fillFrom_eq_append, hliteral]
  simp

theorem misfills_of_strayMarks {t : Term} (h : t.IsStandard) (hmarks : t.strayMarks ≠ 0) :
    Misfills t.chars t.inline.toList t.values := by
  induction t with
  | empty => exact absurd rfl hmarks
  | operator field symbol value =>
    have hmem : '?' ∈ identifierChars field.toList ++ ' ' :: symbol.toList := by
      rw [← List.count_pos_iff, List.count_append, count_identifierChars,
        List.count_cons_of_ne (by decide)]
      exact Nat.pos_of_ne_zero hmarks
    have hmisfills := misfills_of_mem hmem [' ', '?'] (' ' :: literalChars value) value
    rw [toList_inline_operator]
    simpa [chars, values] using hmisfills
  | like field value =>
    have hmem : '?' ∈ field.toList := List.count_pos_iff.1 (Nat.pos_of_ne_zero hmarks)
    rw [toList_inline_like]
    exact misfills_of_mem hmem _ _ value
  | junction c left right ihl ihr =>
    obtain ⟨hl, hr⟩ := h
    rw [toList_inline_junction]
    by_cases hmarksl : left.strayMarks = 0
    · -- The left side is filled as it should be, up to the stray question mark of the right side.
      have hmarksr : right.strayMarks ≠ 0 := by
        intro hmarksr
        exact hmarks (by rw [strayMarks, hmarksl, hmarksr])
      obtain ⟨before, after, hinline, hfill⟩ := ihr hr hmarksr
      refine ⟨'(' :: (left.inline.toList ++ (c.between ++ before)), after ++ [')'],
        by simp [hinline], ?_⟩
      intro written rest params
      obtain ⟨d, ds, hd, hwritten⟩ := hfill
        (c.between.reverse ++ (left.inline.toList.reverse ++ '(' :: written)) ([')'] ++ rest) params
      refine ⟨d, ds, hd, ?_⟩
      rw [chars_junction_append, values, List.append_assoc, fillFrom_append (by decide),
        fillFrom_chars hl hmarksl, fillFrom_append (not_mem_between c), List.reverse_singleton,
        List.singleton_append, hwritten]
      simp
    · obtain ⟨before, after, hinline, hfill⟩ := ihl hl hmarksl
      refine ⟨'(' :: before, after ++ (c.between ++ (right.inline.toList ++ [')'])),
        by simp [hinline], ?_⟩
      intro written rest params
      obtain ⟨d, ds, hd, hwritten⟩ := hfill ('(' :: written)
        (c.between ++ (right.chars ++ ([')'] ++ rest))) (right.values ++ params)
      refine ⟨d, ds, hd, ?_⟩
      rw [chars_junction_append, values, List.append_assoc, fillFrom_append (by decide),
        List.reverse_singleton, List.singleton_append, hwritten]
      simp
  | custom plain render => exact absurd h id

/-- Each value comes to its own place exactly if there are no stray question marks. -/
theorem fill_eq_inline_iff {t : Term} (h : t.IsStandard) :
    fill (String.ofList t.chars) t.values = t.inline ↔ t.strayMarks = 0 := by
  have hfill : ∀ rest, fill (String.ofList t.chars) t.values = String.ofList rest ↔
      fillFrom [] (t.chars ++ []) (t.values ++ []) = rest := by
    intro rest
    rw [fill, String.toList_ofList, List.append_nil, List.append_nil, String.ofList_inj]
  have hinline : t.inline = String.ofList t.inline.toList := String.ofList_toList.symm
  rw [hinline, hfill]
  constructor
  · intro heq
    apply Classical.byContradiction
    intro hmarks
    obtain ⟨before, after, hafter, hwrong⟩ := misfills_of_strayMarks h hmarks
    obtain ⟨c, cs, hc, hwritten⟩ := hwrong [] [] []
    rw [hwritten, hafter, List.reverse_nil, List.nil_append] at heq
    exact hc (List.cons.inj (List.append_cancel_left heq)).1
  · intro hmarks
    rw [fillFrom_chars h hmarks]
    simp [fillFrom]

end Term

end Sql

/-! ### Compiled queries -/

namespace Cli

theorem compile_inline_eq_ok [Pattern.Engine] {query text : String} {table : Option String}
    {specs : List String} {options : Options}
    (h : compile ⟨query, table, specs, options, .inline⟩ = .ok (.sql text)) :
    ∃ fields sql params, assembleFields table specs = .ok fields ∧
      compileParams ⟨options, Policy.builtin, .standard⟩ fields query = .ok (sql, params) ∧
      text = Sql.fill sql params := by
  rw [compile] at h
  cases hfields : assembleFields table specs with
  | error e =>
    rw [hfields] at h
    cases h
  | ok fields =>
    rw [hfields] at h
    cases hparams : compileParams ⟨options, Policy.builtin, .standard⟩ fields query with
    | error e =>
      change (compileParams ⟨options, Policy.builtin, .standard⟩ fields query >>= _) = _ at h
      rw [hparams] at h
      cases h
    | ok compiled =>
      change (compileParams ⟨options, Policy.builtin, .standard⟩ fields query >>= _) = _ at h
      rw [hparams] at h
      cases h
      exact ⟨fields, compiled.1, compiled.2, rfl, hparams, rfl⟩

end Cli

namespace Compiler

/-- A compiled query that is filled with its parameters has each value in its own place exactly if
no question mark stands in its fields or in the operators that are written. So it is for the command
line, which fills what it has compiled. -/
theorem filling_puts_values_in_place_iff [Pattern.Engine] (options : Options) :
    (∀ (available : Table Policy) (fields : Fields) (source sql : String) (params : List Value),
      Cli.compileParams ⟨options, available, .standard⟩ fields source = .ok (sql, params) →
      ∃ q t, parseQuery source 0 = .ok q ∧
        (Compiler.mk options available .standard).build fields q = .ok t ∧
        (Sql.fill sql params = t.inline ↔ t.strayMarks = 0)) ∧
    ∀ (query : String) (table : Option String) (specs : List String) (text : String),
      Cli.compile ⟨query, table, specs, options, .inline⟩ = .ok (.sql text) →
      ∃ fields q t, Cli.assembleFields table specs = .ok fields ∧ parseQuery query 0 = .ok q ∧
        (Compiler.mk options Policy.builtin .standard).build fields q = .ok t ∧
        (text = t.inline ↔ t.strayMarks = 0) := by
  constructor
  · intro available fields source sql params h
    obtain ⟨q, t, hq, ht, rfl, rfl⟩ := compileParams_eq_ok_iff.1 h
    exact ⟨q, t, hq, ht, Sql.Term.fill_eq_inline_iff (isStandard_of_build_eq_ok ht).1⟩
  · intro query table specs text h
    obtain ⟨fields, sql, params, hfields, hcompiled, rfl⟩ := Cli.compile_inline_eq_ok h
    obtain ⟨q, t, hq, ht, rfl, rfl⟩ := compileParams_eq_ok_iff.1 hcompiled
    exact ⟨fields, q, t, hfields, hq, ht,
      Sql.Term.fill_eq_inline_iff (isStandard_of_build_eq_ok ht).1⟩

/-- A question mark inside a value is in nobody's way. -/
theorem filling_puts_marked_value_in_place :
    let fields : Fields := {
      entries := [("age", .named "number"), ("tag", .named "string")]
      nodup := by decide }
    let source := "tag : \"a?b\" OR age : > 14"
    let sql := "(tag LIKE CONCAT('%', ?, '%')) OR (`age` > ?)"
    let params : List Value := [.string "a?b", .number ⟨14, 0, by decide, by decide⟩]
    Cli.compileParams .standard fields source = .ok (sql, params) ∧
      Sql.fill sql params = "(tag LIKE CONCAT('%', 'a?b', '%')) OR (`age` > 14)" := by
  intro fields source sql params
  let d : Grammar.QueryTree := .condition ⟨⟨⟨"tag", none, .string "a?b"⟩, []⟩,
    [⟨⟨"age", some .gt, .number ⟨14, 0, by decide, by decide⟩⟩, []⟩]⟩
  have hd : ∀ t ∈ d.tokens, t.WellFormed := by decide
  have hq : parseQuery source 0 = .ok d.query := by
    have hsource : source = String.ofList (Token.spaced d.tokens) := by decide +kernel
    rw [hsource]
    exact parseQuery_spaced hd
  let term : Sql.Term := .junction .or (.like "tag" (.string "a?b"))
    (.operator "age" ">" (.number ⟨14, 0, by decide, by decide⟩))
  have ht : Compiler.standard.build fields d.query = .ok term :=
    (build_of_not_exceeds (by decide)).trans rfl
  have hcompiled : Cli.compileParams .standard fields source = .ok (sql, params) :=
    compileParams_eq_ok_iff.2 ⟨_, _, hq, ht, by decide +kernel, rfl⟩
  obtain ⟨q, t, hq', ht', hfill⟩ :=
    (filling_puts_values_in_place_iff .standard).1 _ _ _ _ _ hcompiled
  cases hq.symm.trans hq'
  cases ht.symm.trans ht'
  exact ⟨hcompiled, hfill.2 (by decide +kernel)⟩

/-- A question mark in the name of a field takes the value of the filter, and the placeholder is left
empty, although the table of fields is valid. -/
theorem filling_misplaces_value_of_marked_field :
    let fields : Fields := ⟨[("a?b", .named "number")], by decide⟩
    let one : Value := .number ⟨1, 0, by decide, by decide⟩
    Fields.validate fields Policy.builtin = .ok () ∧
      parseQuery "a?b : 1" 0 = .ok (some (.filter ⟨"a?b", defaultOperator, one⟩)) ∧
      Compiler.standard.build fields (some (.filter ⟨"a?b", defaultOperator, one⟩)) =
        .ok (.operator "a?b" "=" one) ∧
      Cli.compileParams .standard fields "a?b : 1" = .ok ("`a?b` = ?", [one]) ∧
      Sql.fill "`a?b` = ?" [one] = "`a1b` = ?" ∧
      (Sql.Term.operator "a?b" "=" one).inline = "`a?b` = 1" := by
  intro fields one
  let d : Grammar.QueryTree :=
    .condition ⟨⟨⟨"a?b", none, .number ⟨1, 0, by decide, by decide⟩⟩, []⟩, []⟩
  have hd : ∀ t ∈ d.tokens, t.WellFormed := by decide
  have hq : parseQuery "a?b : 1" 0 = .ok (some (.filter ⟨"a?b", defaultOperator, one⟩)) := by
    have hsource : "a?b : 1" = String.ofList (Token.spaced d.tokens) := by decide +kernel
    rw [hsource]
    exact parseQuery_spaced hd
  have ht : Compiler.standard.build fields (some (.filter ⟨"a?b", defaultOperator, one⟩)) =
      .ok (.operator "a?b" "=" one) :=
    (build_of_not_exceeds (by decide)).trans rfl
  have hvalid : Fields.validate fields Policy.builtin = .ok () := by
    rw [Fields.validate, Table.sorted, List.mergeSort_singleton]
    rfl
  have hcompiled : Cli.compileParams .standard fields "a?b : 1" = .ok ("`a?b` = ?", [one]) :=
    compileParams_eq_ok_iff.2 ⟨_, _, hq, ht, by decide +kernel, rfl⟩
  exact ⟨hvalid, hq, ht, hcompiled, by decide +kernel, by decide +kernel⟩

end Compiler

end FilterQuery
