/-!
# Tables

A table gives each of its names one entry. Entries are listed in the order in which they were last
put in; no result may depend on that order, so that `sorted` lists them by name.
-/

namespace FilterQuery

/-- Entries under names, each name once. -/
structure Table (α : Type) where
  entries : List (String × α)
  nodup : (entries.map Prod.fst).Nodup

namespace Table

variable {α : Type}

/-- The table without entries. -/
def empty : Table α := ⟨[], List.nodup_nil⟩

instance : EmptyCollection (Table α) := ⟨empty⟩

instance : Inhabited (Table α) := ⟨empty⟩

/-- The entry under `name`. -/
def get? (t : Table α) (name : String) : Option α := t.entries.lookup name

/-- Whether there is an entry under `name`. -/
def contains (t : Table α) (name : String) : Bool := (t.get? name).isSome

/-- The number of entries. -/
def size (t : Table α) : Nat := t.entries.length

/-- Take the entry under `name` out, if there is one. -/
def erase (t : Table α) (name : String) : Table α where
  entries := t.entries.filter (·.1 != name)
  nodup := t.nodup.sublist (List.Sublist.map _ List.filter_sublist)

/-- Put an entry under `name`, in place of one that may be there. -/
def insert (t : Table α) (name : String) (entry : α) : Table α where
  entries := (t.erase name).entries ++ [(name, entry)]
  nodup := by
    have h := (t.erase name).nodup
    rw [List.map_append, List.nodup_append]
    refine ⟨h, by simp, ?_⟩
    intro a ha b hb
    obtain ⟨p, hp, rfl⟩ := List.mem_map.1 ha
    have hne : p.1 ≠ name := by simpa using (List.mem_filter.1 hp).2
    simp at hb
    exact hb ▸ hne

/-- The table of the given entries. Of entries under one name the last counts. -/
def ofList (entries : List (String × α)) : Table α :=
  entries.foldl (fun t e => t.insert e.1 e.2) empty

/-- The entries in the order of their names. -/
def sorted (t : Table α) : List (String × α) :=
  t.entries.mergeSort fun a b => a.1 ≤ b.1

end Table

end FilterQuery
