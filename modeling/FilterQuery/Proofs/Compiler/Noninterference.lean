import FilterQuery.Pattern.Engine
import FilterQuery.Proofs.Compiler.Enforcement

/-!
# Values stay out of the text

The text of a statement with placeholders is assembled from fixed text, fields that have a policy and
operators of these policies. `Condition.WrittenAs` gives the rules, and no rule looks at a value.
Therefore two queries that differ in their values only have the same text.
-/

namespace FilterQuery

/-- The same tree of filters, but for the values of the filters. -/
inductive Condition.SameShape : Condition → Condition → Prop
  | filter {f g : Filter} (hfield : f.field = g.field) (hoperator : f.operator = g.operator) :
    SameShape (.filter f) (.filter g)
  | and {l r l' r' : Condition} (hl : SameShape l l') (hr : SameShape r r') :
    SameShape (.and l r) (.and l' r')
  | or {l r l' r' : Condition} (hl : SameShape l l') (hr : SameShape r r') :
    SameShape (.or l r) (.or l' r')

/-- Two empty queries, or two conditions of the same shape. -/
def Query.SameShape : Query → Query → Prop := Option.Rel Condition.SameShape

/-- The text of a condition with placeholders. A field that is compared is written as an identifier,
with an operator from the list of its policy; a field that is searched is written as it is. Either
way the field is one of `fields`. -/
inductive Condition.WrittenAs (fields : Fields) (available : Table Policy) :
    Condition → String → Prop
  | comparison {f : Filter} {p : Policy} {op : String} (hp : HasPolicy fields available f.field p)
    (hterm : p.term = .operator) (hop : p.Resolves f.operator op) (hmem : op ∈ p.operators) :
    WrittenAs fields available (.filter f) (Sql.identifier f.field ++ " " ++ op ++ " ?")
  | search {f : Filter} {p : Policy} (hp : HasPolicy fields available f.field p)
    (hterm : p.term = .like) :
    WrittenAs fields available (.filter f) (f.field ++ " LIKE CONCAT('%', ?, '%')")
  | and {l r : Condition} {s t : String} (hl : WrittenAs fields available l s)
    (hr : WrittenAs fields available r t) :
    WrittenAs fields available (.and l r) ("(" ++ s ++ ") AND (" ++ t ++ ")")
  | or {l r : Condition} {s t : String} (hl : WrittenAs fields available l s)
    (hr : WrittenAs fields available r t) :
    WrittenAs fields available (.or l r) ("(" ++ s ++ ") OR (" ++ t ++ ")")

/-- The text of a query with placeholders: that of its condition, or none. -/
def Query.WrittenAs (fields : Fields) (available : Table Policy) : Query → String → Prop
  | none, text => text = ""
  | some condition, text => condition.WrittenAs fields available text

section

variable {fields : Fields} {available : Table Policy} {options : Options}

theorem Policy.Resolves.mem {p : Policy} {written op : String} (h : p.Resolves written op) :
    op ∈ p.operators := by
  cases h with
  | first h => exact h ▸ List.mem_cons_self
  | listed _ h => exact h

theorem Policy.Resolves.unique {p : Policy} {written op op' : String}
    (h : p.Resolves written op) (h' : p.Resolves written op') : op = op' :=
  Option.some.inj ((operatorFor?_eq_some_iff.2 h).symm.trans (operatorFor?_eq_some_iff.2 h'))

theorem join_and (s t : String) :
    Sql.Connective.and.join s t = "(" ++ s ++ ") AND (" ++ t ++ ")" := by
  have h : ") AND (" = ") " ++ "AND" ++ " (" := rfl
  simp only [Sql.Connective.join, Sql.Connective.keyword, h, String.append_assoc]

theorem join_or (s t : String) :
    Sql.Connective.or.join s t = "(" ++ s ++ ") OR (" ++ t ++ ")" := by
  have h : ") OR (" = ") " ++ "OR" ++ " (" := rfl
  simp only [Sql.Connective.join, Sql.Connective.keyword, h, String.append_assoc]

/-- Each constructor of a term writes what the rule for its condition says. -/
theorem BuiltInto.writtenAs [Pattern.Engine] {condition : Condition} {t : Sql.Term}
    (h : BuiltInto fields available condition t) (params : Array Value) :
    condition.WrittenAs fields available (t.render params).1 := by
  induction h generalizing params with
  | comparison hp hf hterm => exact .comparison hp hterm hf.operator hf.operator.mem
  | search hp _ hterm => exact .search hp hterm
  | and _ _ ihl ihr =>
    show Condition.WrittenAs _ _ _ (Sql.Connective.and.join _ _)
    rw [join_and]
    exact .and (ihl params) (ihr _)
  | or _ _ ihl ihr =>
    show Condition.WrittenAs _ _ _ (Sql.Connective.or.join _ _)
    rw [join_or]
    exact .or (ihl params) (ihr _)

/-- The rules determine the text, whatever the values are. -/
theorem Condition.WrittenAs.eq_of_sameShape {c₁ c₂ : Condition} {s₁ s₂ : String}
    (hshape : c₁.SameShape c₂) (h₁ : c₁.WrittenAs fields available s₁)
    (h₂ : c₂.WrittenAs fields available s₂) : s₁ = s₂ := by
  induction hshape generalizing s₁ s₂ with
  | filter hfield hoperator =>
    -- A field has one policy, so that both filters become terms of one kind.
    cases h₁ with
    | comparison hp hterm hop =>
      cases h₂ with
      | comparison hp' hterm' hop' =>
        obtain rfl := hp.unique (hfield ▸ hp')
        obtain rfl := hop.unique (hoperator ▸ hop')
        rw [hfield]
      | search hp' hterm' =>
        obtain rfl := hp.unique (hfield ▸ hp')
        exact absurd (hterm.symm.trans hterm') nofun
    | search hp hterm =>
      cases h₂ with
      | comparison hp' hterm' _ =>
        obtain rfl := hp.unique (hfield ▸ hp')
        exact absurd (hterm.symm.trans hterm') nofun
      | search => rw [hfield]
  | and _ _ ihl ihr =>
    cases h₁ with
    | and hl₁ hr₁ =>
      cases h₂ with
      | and hl₂ hr₂ => rw [ihl hl₁ hl₂, ihr hr₁ hr₂]
  | or _ _ ihl ihr =>
    cases h₁ with
    | or hl₁ hr₁ =>
      cases h₂ with
      | or hl₂ hr₂ => rw [ihl hl₁ hl₂, ihr hr₁ hr₂]

theorem Query.WrittenAs.eq_of_sameShape {q₁ q₂ : Query} {s₁ s₂ : String}
    (hshape : Query.SameShape q₁ q₂) (h₁ : Query.WrittenAs fields available q₁ s₁)
    (h₂ : Query.WrittenAs fields available q₂ s₂) : s₁ = s₂ := by
  cases hshape with
  | none => exact h₁.trans h₂.symm
  | some hshape => exact Condition.WrittenAs.eq_of_sameShape hshape h₁ h₂

namespace Compiler

theorem writtenAs_of_sqlQuery_eq_ok [Pattern.Engine] {params : Array Value} {q : Query}
    {text : String}
    (h : ((Compiler.mk options available .standard).sqlQuery fields params q).1 = .ok text) :
    Query.WrittenAs fields available q text := by
  cases hb : (Compiler.mk options available .standard).build fields q with
  | error e =>
    rw [sqlQuery, hb] at h
    cases h
  | ok t =>
    rw [sqlQuery, hb] at h
    obtain rfl : (t.render params).1 = text := Except.ok.inj h
    cases q with
    | none =>
      cases hb
      rfl
    | some condition => exact (build_eq_ok_iff.1 hb).2.writtenAs params

/-- Two queries that differ in their values only and can both be compiled have the same text, which
is written by rules that do not look at values. The parameters before them do not matter either. -/
theorem sqlQuery_text_ignores_values [Pattern.Engine] (options : Options)
    (available : Table Policy) (fields : Fields) (params₁ params₂ : Array Value) {q₁ q₂ : Query}
    {text₁ text₂ : String} (hshape : Query.SameShape q₁ q₂)
    (h₁ : ((Compiler.mk options available .standard).sqlQuery fields params₁ q₁).1 = .ok text₁)
    (h₂ : ((Compiler.mk options available .standard).sqlQuery fields params₂ q₂).1 = .ok text₂) :
    text₁ = text₂ ∧ Query.WrittenAs fields available q₁ text₁ := by
  have hw₁ := writtenAs_of_sqlQuery_eq_ok h₁
  have hw₂ := writtenAs_of_sqlQuery_eq_ok h₂
  exact ⟨hw₁.eq_of_sameShape hshape hw₂, hw₁⟩

/-- A name that would end the statement, and tags in nested lists, leave the text as it is for a
harmless name without tags. -/
theorem sqlQuery_text_ignores_hostile_name :
    let fields : Fields := {
      entries := [("name", .named "title"), ("tags", .own ⟨.array, ["="], .like, none⟩)]
      nodup := by decide }
    let available : Table Policy := {
      entries := [("title", ⟨.string, ["=", "!="], .operator, none⟩)]
      nodup := by decide }
    let query (name : String) (tags : List Value) : Query :=
      some (.and (.filter ⟨"name", "!=", .string name⟩)
        (.filter ⟨"tags", defaultOperator, .list tags⟩))
    let harmless := query "x" []
    let hostile := query "x'; DROP TABLE t; --" [.string "?", .list [.boolean true]]
    let c : Compiler := ⟨.standard, available, .standard⟩
    let text := "(`name` != ?) AND (tags LIKE CONCAT('%', ?, '%'))"
    (c.sqlQuery fields #[] harmless).1 = .ok text ∧
      (c.sqlQuery fields #[.boolean false] hostile).1 = .ok text ∧
      Query.WrittenAs fields available harmless text := by
  intro fields available query harmless hostile c text
  have hshape : Query.SameShape harmless hostile :=
    .some (.and (.filter rfl rfl) (.filter rfl rfl))
  have h₁ : (c.sqlQuery fields #[] harmless).1 = .ok text := by
    rw [sqlQuery, build_of_not_exceeds (by decide)]
    rfl
  have h₂ : (c.sqlQuery fields #[.boolean false] hostile).1 = .ok text := by
    rw [sqlQuery, build_of_not_exceeds (by decide)]
    rfl
  exact ⟨h₁, h₂, (sqlQuery_text_ignores_values _ _ _ _ _ hshape h₁ h₂).2⟩

end Compiler

end

end FilterQuery
