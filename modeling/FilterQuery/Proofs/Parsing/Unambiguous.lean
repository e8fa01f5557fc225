import FilterQuery.Query.Grammar

/-!
# The grammar is unambiguous

Tokens have at most one derivation (`QueryTree.tokens_injective`).

Values and filters delimit themselves: whatever tokens follow, they can be read off in one way only.
A conjunction or a disjunction goes on as long as the tokens do, so that it is determined only if
what follows cannot be one more of its members. Repetitions in the grammar are all read by
`flatMap_append_inj`.
-/

namespace FilterQuery.Grammar

/-- A repetition is read in one way if each round is, and what follows it is not one more round.
Rounds may look at what follows them: `P` is what they ask of it, and every round grants it to the
one before. -/
theorem flatMap_append_inj {α β : Type} {enc : α → List β} {P : List β → Prop}
    (hnext : ∀ a r, P (enc a ++ r)) {xs ys : List α} {r s : List β}
    (hinj : ∀ a ∈ xs, ∀ b r s, P r → P s → enc a ++ r = enc b ++ s → a = b ∧ r = s)
    (hr : P r) (hs : P s) (hrEnd : ∀ a t, r ≠ enc a ++ t) (hsEnd : ∀ a t, s ≠ enc a ++ t)
    (h : xs.flatMap enc ++ r = ys.flatMap enc ++ s) : xs = ys ∧ r = s := by
  -- What follows a round is the next round or the end, and both grant `P`.
  have hrest : ∀ (zs : List α) (t : List β), P t → P (zs.flatMap enc ++ t) := by
    intro zs t ht
    cases zs with
    | nil => exact ht
    | cons z zs => rw [List.flatMap_cons, List.append_assoc]; exact hnext z _
  induction xs generalizing ys with
  | nil =>
    cases ys with
    | nil => exact ⟨rfl, h⟩
    | cons b ys =>
      rw [List.flatMap_cons, List.append_assoc] at h
      exact absurd h (hrEnd b _)
  | cons a xs ih =>
    rw [List.flatMap_cons, List.append_assoc] at h
    cases ys with
    | nil => exact absurd h.symm (hsEnd a _)
    | cons b ys =>
      rw [List.flatMap_cons, List.append_assoc] at h
      obtain ⟨rfl, hmore⟩ := hinj a (by simp) b _ _ (hrest xs r hr) (hrest ys s hs) h
      obtain ⟨rfl, rfl⟩ := ih (fun a ha => hinj a (by simp [ha])) hmore
      exact ⟨rfl, rfl⟩

/-! ### Values -/

namespace ValueTree

/-- No value starts with a closing bracket or a comparison. -/
theorem exists_tokens_eq_cons (v : ValueTree) :
    ∃ t ts, v.tokens = t :: ts ∧ t ≠ .closeBracket ∧ ∀ op, t ≠ .comparison op := by
  cases v <;> simp [tokens]

theorem moreTokens_eq_flatMap (vs : List ValueTree) :
    moreTokens vs = vs.flatMap fun v => .comma :: v.tokens := by
  induction vs with
  | nil => rfl
  | cons v vs ih => simp [moreTokens, ih]

/-- A list with members does not go on with a closing bracket. -/
theorem closeBracket_cons_ne (v : ValueTree) (r s : List Token) :
    .closeBracket :: r ≠ v.tokens ++ s := by
  obtain ⟨t, ts, hv, ht, -⟩ := v.exists_tokens_eq_cons
  rw [hv]
  intro h
  exact ht (List.cons.inj h).1.symm

/-- The end of a list is not one more member. -/
theorem listEnd_append_ne (trailingComma : Bool) (v : ValueTree) (r s : List Token) :
    listEnd trailingComma ++ r ≠ .comma :: v.tokens ++ s := by
  cases trailingComma with
  | false => simp [listEnd]
  | true =>
    intro h
    exact closeBracket_cons_ne v r s (List.cons.inj h).2

theorem listEnd_append_inj {b c : Bool} {r s : List Token} (h : listEnd b ++ r = listEnd c ++ s) :
    b = c ∧ r = s := by
  cases b <;> cases c <;> simp_all [listEnd]

/-- A value delimits itself. -/
theorem tokens_append_inj (v w : ValueTree) {r s : List Token}
    (h : v.tokens ++ r = w.tokens ++ s) : v = w ∧ r = s := by
  match v with
  | word _ | string _ | number _ | date _ | boolean _ => cases w <;> simp_all [tokens]
  | emptyList =>
    cases w with
    | list first more trailing =>
      simp only [tokens, List.cons_append, List.append_assoc, List.cons.injEq, true_and] at h
      exact absurd h (closeBracket_cons_ne first _ _)
    | _ => simp_all [tokens]
  | list first more trailing =>
    cases w with
    | list first' more' trailing' =>
      simp only [tokens, List.cons_append, List.append_assoc, List.cons.injEq, true_and] at h
      obtain ⟨rfl, hmore⟩ := tokens_append_inj first first' h
      -- The members behind commas: each delimits itself, and a trailing comma is not one of them.
      rw [moreTokens_eq_flatMap, moreTokens_eq_flatMap] at hmore
      obtain ⟨rfl, hend⟩ := flatMap_append_inj (P := fun _ => True) (fun _ _ => trivial)
        (fun a ha b r s _ _ hab => tokens_append_inj a b (List.cons.inj hab).2)
        trivial trivial (fun a t => listEnd_append_ne trailing a r t)
        (fun a t => listEnd_append_ne trailing' a s t) hmore
      obtain ⟨rfl, rfl⟩ := listEnd_append_inj hend
      exact ⟨rfl, rfl⟩
    | emptyList =>
      simp only [tokens, List.cons_append, List.append_assoc, List.cons.injEq, true_and] at h
      exact absurd h.symm (closeBracket_cons_ne first _ _)
    | _ => simp [tokens] at h
termination_by v
decreasing_by
  · simp only [list.sizeOf_spec]
    omega
  · have hlt := List.sizeOf_lt_of_mem ha
    simp only [list.sizeOf_spec]
    omega

end ValueTree

/-! ### Filters -/

namespace FilterTree

/-- A comparison can be told from a value. -/
theorem comparison_append_inj {o o' : Option Comparison} {v w : ValueTree} {r s : List Token}
    (h : (o.map Token.comparison).toList ++ (v.tokens ++ r) =
      (o'.map Token.comparison).toList ++ (w.tokens ++ s)) :
    o = o' ∧ v.tokens ++ r = w.tokens ++ s := by
  cases o with
  | none =>
    cases o' with
    | none => exact ⟨rfl, h⟩
    | some op =>
      obtain ⟨t, ts, hv, -, ht⟩ := v.exists_tokens_eq_cons
      rw [hv] at h
      exact absurd (List.cons.inj h).1 (ht op)
  | some op =>
    cases o' with
    | none =>
      obtain ⟨t, ts, hw, -, ht⟩ := w.exists_tokens_eq_cons
      rw [hw] at h
      exact absurd (List.cons.inj h).1.symm (ht op)
    | some op' =>
      obtain ⟨hop, hrest⟩ := List.cons.inj h
      obtain rfl : op = op' := Token.comparison.inj hop
      exact ⟨rfl, hrest⟩

/-- A filter delimits itself. -/
theorem tokens_append_inj {f g : FilterTree} {r s : List Token}
    (h : f.tokens ++ r = g.tokens ++ s) : f = g ∧ r = s := by
  obtain ⟨field, comparison, value⟩ := f
  obtain ⟨field', comparison', value'⟩ := g
  simp only [tokens, List.cons_append, List.append_assoc, List.cons.injEq, Token.word.injEq,
    true_and] at h
  obtain ⟨rfl, h⟩ := h
  obtain ⟨rfl, hvalue⟩ := comparison_append_inj h
  obtain ⟨rfl, rfl⟩ := ValueTree.tokens_append_inj value value' hvalue
  exact ⟨rfl, rfl⟩

end FilterTree

/-! ### Conjunctions -/

namespace AndTree

/-- Tokens that do not go on with a conjunction: they start neither with `AND` nor with a word. -/
def Stops (r : List Token) : Prop := ∀ t ∈ r.head?, t ≠ .and ∧ ∀ text, t ≠ .word text

theorem stops_nil : Stops [] := by simp [Stops]

theorem Stops.append_ne {r : List Token} (hr : Stops r) (next : Bool × FilterTree)
    (s : List Token) : r ≠ nextTokens next ++ s := by
  rintro rfl
  obtain ⟨written, f⟩ := next
  cases written with
  | false => exact (hr (.word f.field) (by simp [nextTokens, FilterTree.tokens])).2 _ rfl
  | true => exact (hr .and (by simp [nextTokens])).1 rfl

theorem nextTokens_append_inj {x y : Bool × FilterTree} {r s : List Token}
    (h : nextTokens x ++ r = nextTokens y ++ s) : x = y ∧ r = s := by
  obtain ⟨written, f⟩ := x
  obtain ⟨written', g⟩ := y
  -- An `AND` cannot be the first word of a filter.
  cases written <;> cases written'
  · obtain ⟨rfl, rfl⟩ := FilterTree.tokens_append_inj h
    exact ⟨rfl, rfl⟩
  · simp [nextTokens, FilterTree.tokens] at h
  · simp [nextTokens, FilterTree.tokens] at h
  · obtain ⟨rfl, rfl⟩ := FilterTree.tokens_append_inj (List.cons.inj h).2
    exact ⟨rfl, rfl⟩

/-- A conjunction is determined if what follows stops it. -/
theorem tokens_append_inj {a b : AndTree} {r s : List Token} (hr : Stops r) (hs : Stops s)
    (h : a.tokens ++ r = b.tokens ++ s) : a = b ∧ r = s := by
  obtain ⟨first, more⟩ := a
  obtain ⟨first', more'⟩ := b
  simp only [tokens, List.append_assoc] at h
  obtain ⟨rfl, hmore⟩ := FilterTree.tokens_append_inj h
  obtain ⟨rfl, rfl⟩ := flatMap_append_inj (P := fun _ => True) (fun _ _ => trivial)
    (fun _ _ _ _ _ _ _ hxy => nextTokens_append_inj hxy) trivial trivial hr.append_ne
    hs.append_ne hmore
  exact ⟨rfl, rfl⟩

end AndTree

/-! ### Disjunctions and queries -/

namespace OrTree

/-- Every further alternative starts with `OR`, which stops the conjunction before it. -/
theorem stops_nextTokens_append (a : AndTree) (r : List Token) :
    AndTree.Stops (nextTokens a ++ r) := by
  intro t ht
  obtain rfl : Token.or = t := by simpa [nextTokens] using ht
  simp

theorem stops_flatMap_nextTokens (more : List AndTree) :
    AndTree.Stops (more.flatMap nextTokens) := by
  cases more with
  | nil => exact AndTree.stops_nil
  | cons a more => exact stops_nextTokens_append a _

theorem tokens_injective {o o' : OrTree} (h : o.tokens = o'.tokens) : o = o' := by
  obtain ⟨first, more⟩ := o
  obtain ⟨first', more'⟩ := o'
  obtain ⟨rfl, hmore⟩ := AndTree.tokens_append_inj (stops_flatMap_nextTokens more)
    (stops_flatMap_nextTokens more') h
  obtain ⟨rfl, -⟩ := flatMap_append_inj (P := AndTree.Stops) (r := []) (s := [])
    stops_nextTokens_append
    (fun _ _ _ _ _ hr hs hab => AndTree.tokens_append_inj hr hs (List.cons.inj hab).2)
    AndTree.stops_nil AndTree.stops_nil (by simp [nextTokens]) (by simp [nextTokens])
    (by simpa using hmore)
  rfl

theorem tokens_ne_nil (o : OrTree) : o.tokens ≠ [] := by
  simp [tokens, AndTree.tokens, FilterTree.tokens]

end OrTree

/-- Tokens have at most one derivation as a query. -/
theorem QueryTree.tokens_injective {d d' : QueryTree} (h : d.tokens = d'.tokens) : d = d' := by
  cases d with
  | empty =>
    cases d' with
    | empty => rfl
    | condition o' => exact absurd h.symm o'.tokens_ne_nil
  | condition o =>
    cases d' with
    | empty => exact absurd h o.tokens_ne_nil
    | condition o' => rw [OrTree.tokens_injective h]

end FilterQuery.Grammar
