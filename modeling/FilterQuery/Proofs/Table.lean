import FilterQuery.Table

/-!
# Entries of tables

A name stands in a table at most once. So it makes no difference whether an entry is looked up under
its name or searched among all entries, and in which order these are listed.
-/

namespace FilterQuery.Table

variable {α : Type} {t : Table α} {name : String} {entry : α}

theorem get?_eq_some_iff_mem : t.get? name = some entry ↔ (name, entry) ∈ t.entries := by
  obtain ⟨entries, nodup⟩ := t
  show entries.lookup name = some entry ↔ (name, entry) ∈ entries
  induction entries with
  | nil => simp
  | cons e es ih =>
    obtain ⟨name', entry'⟩ := e
    obtain ⟨hfresh, hnodup⟩ := List.nodup_cons.1 nodup
    rw [List.lookup_cons, List.mem_cons]
    by_cases h : name = name'
    · subst h
      have hmem : (name, entry) ∉ es := by
        intro hmem
        exact hfresh (List.mem_map.2 ⟨_, hmem, rfl⟩)
      simp [hmem, eq_comm]
    · have hne : (name, entry) ≠ (name', entry') := fun heq => h (congrArg Prod.fst heq)
      have hbeq : (name == name') = false := by simp [h]
      rw [hbeq, ih hnodup]
      simp [hne]

theorem get?_congr {t' : Table α} (h : t.entries.Perm t'.entries) (name : String) :
    t.get? name = t'.get? name := by
  apply Option.ext
  intro entry
  rw [get?_eq_some_iff_mem, get?_eq_some_iff_mem, h.mem_iff]

theorem eq_of_mem_of_fst_eq {e e' : String × α} (he : e ∈ t.entries) (he' : e' ∈ t.entries)
    (h : e.1 = e'.1) : e = e' := by
  have hget := get?_eq_some_iff_mem.2 he
  have hget' := get?_eq_some_iff_mem.2 he'
  rw [h] at hget
  exact Prod.ext h (Option.some.inj (hget.symm.trans hget'))

/-! ### Listing by name -/

theorem mem_sorted {e : String × α} : e ∈ t.sorted ↔ e ∈ t.entries :=
  List.mem_mergeSort

theorem pairwise_sorted (t : Table α) : t.sorted.Pairwise fun a b => a.1 ≤ b.1 := by
  have h : t.sorted.Pairwise fun a b => decide (a.1 ≤ b.1) = true := by
    apply List.pairwise_mergeSort
    · intro a b c hab hbc
      simp only [decide_eq_true_eq] at hab hbc ⊢
      exact String.le_trans hab hbc
    · intro a b
      simpa using String.le_total a.1 b.1
  exact h.imp of_decide_eq_true

/-- The order in which entries were put in does not show. -/
theorem sorted_congr {t' : Table α} (h : t.entries.Perm t'.entries) : t.sorted = t'.sorted := by
  have hperm : t.sorted.Perm t'.sorted :=
    (List.mergeSort_perm _ _).trans (h.trans (List.mergeSort_perm _ _).symm)
  refine hperm.eq_of_pairwise ?_ t.pairwise_sorted t'.pairwise_sorted
  intro a b ha hb hab hba
  exact eq_of_mem_of_fst_eq (mem_sorted.1 ha) (mem_sorted.1 (hperm.mem_iff.2 hb))
    (String.le_antisymm hab hba)

/-- A search by name finds the least of the entries that it is after. -/
theorem findSome?_sorted_eq_some_iff {β : Type} {φ : String × α → Option β} {b : β} :
    t.sorted.findSome? φ = some b ↔
      ∃ e ∈ t.entries, φ e = some b ∧ ∀ e' ∈ t.entries, φ e' ≠ none → e.1 ≤ e'.1 := by
  have hleast : ∀ b, t.sorted.findSome? φ = some b →
      ∃ e ∈ t.entries, φ e = some b ∧ ∀ e' ∈ t.entries, φ e' ≠ none → e.1 ≤ e'.1 := by
    intro b h
    obtain ⟨before, e, after, hsorted, he, hbefore⟩ := List.findSome?_eq_some_iff.1 h
    have hpairwise := hsorted ▸ t.pairwise_sorted
    refine ⟨e, mem_sorted.1 (by simp [hsorted]), he, ?_⟩
    intro e' hmem hne
    have hmem' : e' ∈ before ++ e :: after := hsorted ▸ mem_sorted.2 hmem
    rcases List.mem_append.1 hmem' with hb | ha
    · exact absurd (hbefore e' hb) hne
    · rcases List.mem_cons.1 ha with rfl | ha
      · exact String.le_refl _
      · exact (List.pairwise_cons.1 (List.pairwise_append.1 hpairwise).2.1).1 e' ha
  refine ⟨hleast b, ?_⟩
  rintro ⟨e, hmem, he, hle⟩
  cases hfind : t.sorted.findSome? φ with
  | none =>
    rw [List.findSome?_eq_none_iff.1 hfind e (mem_sorted.2 hmem)] at he
    cases he
  | some b' =>
    obtain ⟨e', hmem', he', hle'⟩ := hleast b' hfind
    have hname := String.le_antisymm (hle e' hmem' (by simp [he'])) (hle' e hmem (by simp [he]))
    cases eq_of_mem_of_fst_eq hmem hmem' hname
    exact he'.symm.trans he

/-! ### Putting entries in -/

theorem get?_insert (t : Table α) (name : String) (entry : α) (name' : String) :
    (t.insert name entry).get? name' = if name' = name then some entry else t.get? name' := by
  apply Option.ext
  intro e
  have hmem : (name', e) ∈ (t.insert name entry).entries ↔
      ((name', e) ∈ t.entries ∧ name' ≠ name) ∨ (name', e) = (name, entry) := by
    simp [insert, erase]
  rw [get?_eq_some_iff_mem, hmem]
  by_cases h : name' = name
  · simp [h, eq_comm]
  · simp [h, get?_eq_some_iff_mem]

/-- A new name goes to the end. -/
theorem entries_insert (h : name ∉ t.entries.map Prod.fst) :
    (t.insert name entry).entries = t.entries ++ [(name, entry)] := by
  have herase : t.entries.filter (·.1 != name) = t.entries := by
    rw [List.filter_eq_self]
    intro e he
    rw [bne_iff_ne]
    rintro rfl
    exact h (List.mem_map_of_mem he)
  show t.entries.filter (·.1 != name) ++ [(name, entry)] = _
  rw [herase]

/-- Entries under different names are put in one behind the other. -/
theorem entries_foldl_insert (t : Table α) {entries : List (String × α)}
    (h : ((t.entries ++ entries).map Prod.fst).Nodup) :
    (entries.foldl (fun t e => t.insert e.1 e.2) t).entries = t.entries ++ entries := by
  induction entries generalizing t with
  | nil => simp
  | cons e entries ih =>
    have hfresh : e.1 ∉ t.entries.map Prod.fst := by
      intro hmem
      rw [List.map_append, List.nodup_append] at h
      exact h.2.2 e.1 hmem e.1 (by simp) rfl
    have hinsert : (t.insert e.1 e.2).entries = t.entries ++ [e] := entries_insert hfresh
    rw [List.foldl_cons, ih, hinsert, List.append_assoc, List.singleton_append]
    rw [hinsert, List.append_assoc, List.singleton_append]
    exact h

/-- A table is the table of its entries. -/
theorem ofList_entries (t : Table α) : ofList t.entries = t := by
  have hentries : (ofList t.entries).entries = t.entries := entries_foldl_insert empty t.nodup
  generalize ofList t.entries = t' at hentries
  cases t'
  cases hentries
  rfl

end FilterQuery.Table
