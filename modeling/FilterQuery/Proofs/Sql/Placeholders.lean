import FilterQuery.Sql.Placeholder

/-!
# Filling is one pass

Filling goes through a text once. What stands between the question marks stays, and each question
mark gives way to the literal of its parameter, if there is one. The law behind it is
`fill_append`: a text can be filled in two parts, of which the second one takes the parameters that
the first one leaves. From it follows what a text of any number of pieces is filled to
(`fill_intercalate`).
-/

namespace FilterQuery.Sql

/-! ### Characters -/

theorem fillFrom_cons_of_ne {c : Char} (h : c ≠ '?') (written cs : List Char)
    (params : List Value) :
    fillFrom written (c :: cs) params = fillFrom (c :: written) cs params := by
  rw [fillFrom.eq_def]
  exact if_neg h

theorem fillFrom_mark (written rest : List Char) (v : Value) (params : List Value) :
    fillFrom written ('?' :: rest) (v :: params) =
      fillFrom ((literalChars v).reverse ++ written) rest params := by
  rw [fillFrom, if_pos rfl]

/-- Text without question marks is passed over. -/
theorem fillFrom_append {cs : List Char} (h : '?' ∉ cs) (written rest : List Char)
    (params : List Value) :
    fillFrom written (cs ++ rest) params = fillFrom (cs.reverse ++ written) rest params := by
  induction cs generalizing written with
  | nil => rfl
  | cons c cs ih =>
    rw [List.mem_cons, not_or] at h
    obtain ⟨hc, hcs⟩ := h
    rw [List.cons_append, fillFrom_cons_of_ne (Ne.symm hc), ih hcs, List.reverse_cons,
      List.append_assoc]
    rfl

/-- What was written stays in front. -/
theorem fillFrom_eq_append (written cs : List Char) (params : List Value) :
    fillFrom written cs params = written.reverse ++ fillFrom [] cs params := by
  induction cs generalizing written params with
  | nil => simp [fillFrom]
  | cons c cs ih =>
    unfold fillFrom
    split
    · cases params with
      | nil =>
        simp only
        rw [ih (c :: written), ih [c]]
        simp
      | cons v vs =>
        simp only
        rw [ih (_ ++ written), ih (_ ++ [])]
        simp
    · rw [ih (c :: written), ih [c]]
      simp

/-- A text is filled in two parts, and the second part takes the parameters that are left. -/
theorem fillFrom_append_drop (cs rest : List Char) (params : List Value) :
    fillFrom [] (cs ++ rest) params =
      fillFrom [] cs params ++ fillFrom [] rest (params.drop (cs.count '?')) := by
  induction cs generalizing params with
  | nil => rfl
  | cons c cs ih =>
    rw [List.cons_append]
    by_cases hc : c = '?'
    · subst hc
      rw [List.count_cons_self]
      cases params with
      | nil =>
        have hkeep : ∀ cs, fillFrom [] ('?' :: cs) [] = '?' :: fillFrom [] cs [] :=
          fun cs => fillFrom_eq_append ['?'] cs []
        rw [hkeep, hkeep, ih]
        simp
      | cons v vs =>
        rw [fillFrom_mark, fillFrom_mark, fillFrom_eq_append, fillFrom_eq_append _ cs, ih]
        simp
    · rw [fillFrom_cons_of_ne hc, fillFrom_cons_of_ne hc, fillFrom_eq_append,
        fillFrom_eq_append _ cs, ih, List.count_cons_of_ne hc]
      simp

/-- Parameters for which there is no question mark do not count. -/
theorem fillFrom_append_params {cs : List Char} {params : List Value}
    (h : cs.count '?' ≤ params.length) (written : List Char) (surplus : List Value) :
    fillFrom written cs (params ++ surplus) = fillFrom written cs params := by
  induction cs generalizing written params with
  | nil => rfl
  | cons c cs ih =>
    by_cases hc : c = '?'
    · subst hc
      rw [List.count_cons_self] at h
      cases params with
      | nil => simp at h
      | cons v vs =>
        rw [List.cons_append, fillFrom_mark, fillFrom_mark, ih (Nat.le_of_succ_le_succ h)]
    · rw [List.count_cons_of_ne hc] at h
      rw [fillFrom_cons_of_ne hc, fillFrom_cons_of_ne hc, ih h]

/-! ### Texts -/

/-- What comes to the place of the question mark of the given number: the literal of its parameter,
or the question mark itself if there are not so many parameters. -/
def placed (params : List Value) (i : Nat) : String :=
  match params[i]? with
  | some v => literal v
  | none => "?"

variable (params : List Value)

theorem fill_append (a b : String) :
    fill (a ++ b) params = fill a params ++ fill b (params.drop (a.toList.count '?')) := by
  rw [fill, String.toList_append, fillFrom_append_drop, String.ofList_append]
  rfl

theorem fill_of_not_mem {sql : String} (h : '?' ∉ sql.toList) : fill sql params = sql := by
  have hfill := fillFrom_append h [] [] params
  rw [List.append_nil, List.append_nil, fillFrom, List.reverse_reverse] at hfill
  rw [fill, hfill, String.ofList_toList]

theorem fill_mark : fill "?" params = placed params 0 := by
  cases params with
  | nil => rfl
  | cons v vs =>
    show String.ofList (fillFrom [] ['?'] (v :: vs)) = literal v
    rw [fillFrom_mark, fillFrom, List.append_nil, List.reverse_reverse, literal]

/-- The text behind a question mark is filled with the parameters behind the first one. -/
theorem placed_drop_one (i : Nat) : placed (params.drop 1) i = placed params (i + 1) := by
  rw [placed, placed, List.getElem?_drop, Nat.add_comm]

theorem fill_intercalate (first : String) (pieces : List String)
    (h : ∀ piece ∈ first :: pieces, '?' ∉ piece.toList) :
    fill ("?".intercalate (first :: pieces)) params =
      first ++ String.join (pieces.mapIdx fun i piece => placed params i ++ piece) := by
  induction pieces generalizing first params with
  | nil =>
    rw [String.intercalate_singleton, fill_of_not_mem params (h first (by simp))]
    simp
  | cons piece pieces ih =>
    obtain ⟨hfirst, hpieces⟩ := List.forall_mem_cons.1 h
    have hcount : first.toList.count '?' = 0 := List.count_eq_zero.2 hfirst
    have hmark : (first ++ "?").toList.count '?' = 1 := by
      rw [String.toList_append, List.count_append, hcount]
      rfl
    rw [String.intercalate_cons_cons, fill_append, fill_append, fill_of_not_mem params hfirst,
      hcount, List.drop_zero, fill_mark, hmark, ih (params.drop 1) piece hpieces, List.mapIdx_cons,
      String.join_cons]
    simp only [placed_drop_one, String.append_assoc]

/-- Every text is made of pieces without question marks, with question marks between them. -/
theorem exists_eq_intercalate (sql : String) :
    ∃ first pieces, (∀ piece ∈ first :: pieces, '?' ∉ piece.toList) ∧
      sql = "?".intercalate (first :: pieces) := by
  rw [← sql.ofList_toList]
  induction sql.toList with
  | nil => exact ⟨"", [], by simp, by simp⟩
  | cons c cs ih =>
    obtain ⟨first, pieces, hpieces, hcs⟩ := ih
    rw [String.ofList_cons, hcs]
    by_cases hc : c = '?'
    · subst hc
      refine ⟨"", first :: pieces, List.forall_mem_cons.2 ⟨by simp, hpieces⟩, ?_⟩
      rw [String.intercalate_cons_cons, String.empty_append]
      rfl
    · obtain ⟨hfirst, hpieces⟩ := List.forall_mem_cons.1 hpieces
      refine ⟨String.singleton c ++ first, pieces, List.forall_mem_cons.2 ⟨?_, hpieces⟩, ?_⟩
      · simp [hfirst, Ne.symm hc]
      · rw [String.intercalate_cons_append]

/-- Filling goes through a text once. Whatever the pieces between its question marks are, they stay,
and each question mark gives way to the literal of its parameter if there is one. So a text can be
filled in two parts, parameters behind the last question mark do not count, and a literal stands in
the filled text as it is, whichever question marks are in it. -/
theorem filling_is_one_pass (params : List Value) :
    (∀ (first : String) (pieces : List String),
      (∀ piece ∈ first :: pieces, '?' ∉ piece.toList) →
      fill ("?".intercalate (first :: pieces)) params =
        first ++ String.join (pieces.mapIdx fun i piece => placed params i ++ piece)) ∧
    (∀ sql : String, ∃ first pieces, (∀ piece ∈ first :: pieces, '?' ∉ piece.toList) ∧
      sql = "?".intercalate (first :: pieces)) ∧
    (∀ a b : String,
      fill (a ++ b) params = fill a params ++ fill b (params.drop (a.toList.count '?'))) ∧
    (∀ (sql : String) (surplus : List Value), sql.toList.count '?' ≤ params.length →
      fill sql (params ++ surplus) = fill sql params) ∧
    ∀ (a b : String) (v : Value) (rest : List Value), a.toList.count '?' = params.length →
      fill (a ++ "?" ++ b) (params ++ v :: rest) = fill a params ++ literal v ++ fill b rest := by
  have hsurplus : ∀ (sql : String) (surplus : List Value), sql.toList.count '?' ≤ params.length →
      fill sql (params ++ surplus) = fill sql params := by
    intro sql surplus h
    rw [fill, fillFrom_append_params h, fill]
  refine ⟨fill_intercalate params, exists_eq_intercalate, fill_append params, hsurplus, ?_⟩
  intro a b v rest h
  have hmark : (a ++ "?").toList.count '?' = params.length + 1 := by
    rw [String.toList_append, List.count_append, h]
    rfl
  have hrest : (params ++ v :: rest).drop (params.length + 1) = rest := by
    rw [← List.drop_drop, List.drop_left]
    rfl
  rw [fill_append, fill_append, hsurplus a _ (Nat.le_of_eq h), h, hmark, hrest, List.drop_left,
    fill_mark]
  rfl

/-- A question mark inside a value is not filled, a question mark without a parameter stays, and a
parameter without a question mark is left out. -/
theorem filling_is_one_pass_of_marked_values :
    let marked : Value := .string "?"
    fill "a = ? AND b = ? OR ?" [marked, .boolean true] = "a = '?' AND b = true OR ?" ∧
      fill "a = ?" [marked, .boolean true] = "a = '?'" ∧
      fill "? ?" [marked, marked] = "'?' '?'" := by
  intro marked
  obtain ⟨hpieces, -⟩ := filling_is_one_pass [marked, .boolean true]
  obtain ⟨-, -, -, hsurplus, hnext⟩ := filling_is_one_pass [marked]
  have hsql : "a = ? AND b = ? OR ?" = "?".intercalate ["a = ", " AND b = ", " OR ", ""] := by
    decide +kernel
  refine ⟨?_, ?_, ?_⟩
  · rw [hsql, hpieces _ _ (by decide +kernel)]
    decide +kernel
  · refine (hsurplus "a = ?" [.boolean true] (by decide +kernel)).trans ?_
    decide +kernel
  · refine (hnext "? " "" marked [] (by decide +kernel)).trans ?_
    decide +kernel

end FilterQuery.Sql
