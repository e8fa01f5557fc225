import FilterQuery.Pattern.Engine
import FilterQuery.Policy.Validation
import FilterQuery.Proofs.Compiler.Enforcement
import FilterQuery.Proofs.Table
import FilterQuery.Proofs.Text.ByteOrder

/-!
# Faults of a table of fields

What can be wrong with a field is stated by rules, one for each check, in the order of the checks
(`Fault`). The rules look fields up by their names. So neither what validation finds nor what it
reports depends on the order in which the fields are listed: it finds a fault if there is one, and
it reports that of the least field, in the order of the bytes of their names. Which patterns can be
read is up to the engine, of which nothing is assumed.
-/

namespace FilterQuery

theorem hasPolicy_iff_resolve? {fields : Fields} {available : Table Policy} {field : String}
    {p : Policy} :
    HasPolicy fields available field p ↔
      ∃ s, fields.get? field = some s ∧ s.resolve? available = some p :=
  policy?_eq_some_iff.symm.trans Option.bind_eq_some_iff

section

variable [Pattern.Engine]

/-- What a policy must be like, so that some filter can meet it: there is an operator to choose, and
the pattern can be read. -/
structure Policy.Usable (p : Policy) : Prop where
  operators_ne_nil : p.operators ≠ []
  valid : ∀ pattern, p.pattern = some pattern → pattern.isValid = true

/-- The first check that a field fails, with the error that reports it: each rule needs the checks
of the rules before it to pass. -/
inductive Fault (fields : Fields) (available : Table Policy) (field : String) : ConfigError → Prop
  | unknownPolicy {name : String} (h : fields.get? field = some (.named name))
    (hname : available.get? name = none) :
    Fault fields available field (.unknownPolicy field name)
  | noOperators {p : Policy} (hp : HasPolicy fields available field p) (hops : p.operators = []) :
    Fault fields available field (.noOperators field)
  | invalidPattern {p : Policy} {pattern : Pattern} (hp : HasPolicy fields available field p)
    (hops : p.operators ≠ []) (hpattern : p.pattern = some pattern)
    (hvalid : pattern.isValid = false) :
    Fault fields available field (.invalidPattern field pattern)

variable {fields : Fields} {available : Table Policy} {field : String} {p : Policy} {s : Standard}
  {e : ConfigError}

/-! ### One field -/

theorem Policy.fault?_eq_some_iff :
    p.fault? field = some e ↔
      p.operators = [] ∧ e = .noOperators field ∨
        p.operators ≠ [] ∧ ∃ pattern, p.pattern = some pattern ∧ pattern.isValid = false ∧
          e = .invalidPattern field pattern := by
  unfold fault?
  by_cases hops : p.operators = []
  · rw [if_pos (by simp [hops])]
    constructor
    · rintro ⟨⟩
      exact .inl ⟨hops, rfl⟩
    · rintro (⟨-, rfl⟩ | ⟨hne, -⟩)
      · rfl
      · exact absurd hops hne
  · rw [if_neg (by simp [hops])]
    cases p.pattern with
    | none => simp [hops]
    | some pattern =>
      cases hvalid : pattern.isValid with
      | true => simp [hops, hvalid]
      | false => simp [hops, hvalid, @eq_comm _ e]

/-- The checks of a standard are those of the policy that it stands for. -/
theorem HasPolicy.fault?_eq (h : HasPolicy fields available field p)
    (hs : fields.get? field = some s) : s.fault? available field = p.fault? field := by
  cases h with
  | own hp =>
    cases hs.symm.trans hp
    rfl
  | named hname hp =>
    cases hs.symm.trans hname
    rw [Standard.fault?, hp]

/-- The checks of a standard find the faults of the field that it belongs to. -/
theorem fault?_eq_some_iff (hs : fields.get? field = some s) :
    s.fault? available field = some e ↔ Fault fields available field e := by
  constructor
  · intro h
    cases hresolve : s.resolve? available with
    | some p =>
      have hp : HasPolicy fields available field p := hasPolicy_iff_resolve?.2 ⟨s, hs, hresolve⟩
      rw [hp.fault?_eq hs, Policy.fault?_eq_some_iff] at h
      rcases h with ⟨hops, rfl⟩ | ⟨hops, pattern, hpattern, hvalid, rfl⟩
      · exact .noOperators hp hops
      · exact .invalidPattern hp hops hpattern hvalid
    | none =>
      cases s with
      | own q => cases hresolve
      | named name =>
        have hname : available.get? name = none := hresolve
        rw [Standard.fault?, hname] at h
        cases h
        exact .unknownPolicy hs hname
  · intro h
    cases h with
    | unknownPolicy hs' hname =>
      cases hs.symm.trans hs'
      rw [Standard.fault?, hname]
    | noOperators hp hops =>
      rw [hp.fault?_eq hs, Policy.fault?_eq_some_iff]
      exact .inl ⟨hops, rfl⟩
    | invalidPattern hp hops hpattern hvalid =>
      rw [hp.fault?_eq hs, Policy.fault?_eq_some_iff]
      exact .inr ⟨hops, _, hpattern, hvalid, rfl⟩

/-- Only fields of the table have faults. -/
theorem Fault.exists_get? (h : Fault fields available field e) :
    ∃ s, fields.get? field = some s := by
  cases h with
  | unknownPolicy h => exact ⟨_, h⟩
  | noOperators hp | invalidPattern hp =>
    obtain ⟨s, hs, -⟩ := hasPolicy_iff_resolve?.1 hp
    exact ⟨s, hs⟩

theorem Fault.not_usable (h : Fault fields available field e)
    (hp : HasPolicy fields available field p) : ¬p.Usable := by
  intro husable
  cases h with
  | unknownPolicy hs hname =>
    obtain ⟨s, hs', hresolve⟩ := hasPolicy_iff_resolve?.1 hp
    cases hs.symm.trans hs'
    exact Option.some_ne_none _ (hresolve.symm.trans hname)
  | noOperators hp' hops =>
    cases hp.unique hp'
    exact husable.operators_ne_nil hops
  | invalidPattern hp' hops hpattern hvalid =>
    cases hp.unique hp'
    rw [husable.valid _ hpattern] at hvalid
    cases hvalid

/-- A field of the table is without a fault if it has a policy that is usable. -/
theorem forall_not_fault_iff (hs : fields.get? field = some s) :
    (∀ e, ¬Fault fields available field e) ↔
      ∃ p, HasPolicy fields available field p ∧ p.Usable := by
  constructor
  · intro h
    cases hresolve : s.resolve? available with
    | none =>
      cases s with
      | own q => cases hresolve
      | named name => exact absurd (.unknownPolicy hs hresolve) (h _)
    | some p =>
      have hp : HasPolicy fields available field p := hasPolicy_iff_resolve?.2 ⟨s, hs, hresolve⟩
      have hops : p.operators ≠ [] := fun hops => h _ (.noOperators hp hops)
      refine ⟨p, hp, hops, fun pattern hpattern => ?_⟩
      rw [← Bool.not_eq_false]
      intro hvalid
      exact h _ (.invalidPattern hp hops hpattern hvalid)
  · rintro ⟨p, hp, husable⟩ e h
    exact h.not_usable hp husable

end

/-! ### All fields -/

namespace Fields

section

variable [Pattern.Engine] {fields fields' : Fields} {available : Table Policy} {e : ConfigError}

theorem validate_eq_error_iff_findSome? :
    fields.validate available = .error e ↔
      fields.sorted.findSome? (fun entry => entry.2.fault? available entry.1) = some e := by
  unfold validate
  split
  · next e' h => rw [h, Except.error.injEq, Option.some.injEq]
  · next h =>
    rw [h]
    exact ⟨nofun, nofun⟩

/-- Validation reports the fault of the least field that has one. -/
theorem validate_eq_error_iff :
    fields.validate available = .error e ↔
      ∃ field, Fault fields available field e ∧
        ∀ field' e', Fault fields available field' e' → field ≤ field' := by
  rw [validate_eq_error_iff_findSome?, Table.findSome?_sorted_eq_some_iff]
  constructor
  · rintro ⟨⟨field, s⟩, hmem, hfault, hleast⟩
    have hs : fields.get? field = some s := Table.get?_eq_some_iff_mem.2 hmem
    refine ⟨field, (fault?_eq_some_iff hs).1 hfault, ?_⟩
    intro field' e' h
    obtain ⟨s', hs'⟩ := h.exists_get?
    refine hleast (field', s') (Table.get?_eq_some_iff_mem.1 hs') ?_
    rw [(fault?_eq_some_iff hs').2 h]
    exact Option.some_ne_none e'
  · rintro ⟨field, h, hleast⟩
    obtain ⟨s, hs⟩ := h.exists_get?
    refine ⟨(field, s), Table.get?_eq_some_iff_mem.1 hs, (fault?_eq_some_iff hs).2 h, ?_⟩
    rintro ⟨field', s'⟩ hmem hne
    obtain ⟨e', he'⟩ := Option.ne_none_iff_exists'.1 hne
    exact hleast field' e' ((fault?_eq_some_iff (Table.get?_eq_some_iff_mem.2 hmem)).1 he')

theorem validate_eq_ok_iff :
    fields.validate available = .ok () ↔ ∀ field e, ¬Fault fields available field e := by
  constructor
  · intro h field e hfault
    obtain ⟨s, hs⟩ := hfault.exists_get?
    cases hfind : fields.sorted.findSome? (fun entry => entry.2.fault? available entry.1) with
    | some e' =>
      rw [validate_eq_error_iff_findSome?.2 hfind] at h
      cases h
    | none =>
      have hmem := Table.mem_sorted.2 (Table.get?_eq_some_iff_mem.1 hs)
      have hnone := List.findSome?_eq_none_iff.1 hfind _ hmem
      rw [(fault?_eq_some_iff hs).2 hfault] at hnone
      cases hnone
  · intro h
    cases hvalidate : fields.validate available with
    | ok => rfl
    | error e =>
      obtain ⟨field, hfault, -⟩ := validate_eq_error_iff.1 hvalidate
      exact absurd hfault (h field e)

/-- With valid fields every field has a policy, and every policy is usable. -/
theorem validate_eq_ok_iff_usable :
    fields.validate available = .ok () ↔ ∀ field s, fields.get? field = some s →
      ∃ p, HasPolicy fields available field p ∧ p.Usable := by
  rw [validate_eq_ok_iff]
  constructor
  · intro h field s hs
    exact (forall_not_fault_iff hs).1 (h field)
  · intro h field e hfault
    obtain ⟨s, hs⟩ := hfault.exists_get?
    exact (forall_not_fault_iff hs).2 (h field s hs) e hfault

theorem validate_congr (h : fields.entries.Perm fields'.entries) :
    fields.validate available = fields'.validate available := by
  rw [validate, validate, Table.sorted_congr h]

end

/-- Fields are valid if each of them has a policy that is usable. Otherwise the fault of the least
field is reported, by the bytes of its name, and for this field the first check that fails. The
order in which the fields are listed makes no difference. -/
theorem validation_reports_least_fault [Pattern.Engine] (fields : Fields)
    (available : Table Policy) :
    (fields.validate available = .ok () ↔ ∀ field s, fields.get? field = some s →
      ∃ p, HasPolicy fields available field p ∧ p.Usable) ∧
    (∀ e, fields.validate available = .error e ↔
      ∃ field, Fault fields available field e ∧
        ∀ field' e', Fault fields available field' e' → Text.bytes field ≤ Text.bytes field') ∧
    ∀ fields' : Fields, fields'.entries.Perm fields.entries →
      fields'.validate available = fields.validate available := by
  refine ⟨validate_eq_ok_iff_usable, fun e => ?_, fun fields' => validate_congr⟩
  simp only [Text.bytes_le_bytes_iff]
  exact validate_eq_error_iff

/-- Three fields have faults, one of them two. Capital letters come first by their bytes, and
letters with accents last, from whichever end the fields are listed. -/
theorem validation_reports_least_fault_of_three :
    let fields : Fields := {
      entries := [("é", .own ⟨.string, [], .like, some ⟨"["⟩⟩), ("a", .named "number"),
        ("z", .named "nothing"), ("Z", .own ⟨.string, ["="], .like, some ⟨"["⟩⟩)]
      nodup := by decide }
    let reversed : Fields := {
      entries := fields.entries.reverse
      nodup := by decide }
    Fault fields Policy.builtin "é" (.noOperators "é") ∧
      Fault fields Policy.builtin "z" (.unknownPolicy "z" "nothing") ∧
      fields.validate Policy.builtin = .error (.invalidPattern "Z" ⟨"["⟩) ∧
      reversed.validate Policy.builtin = .error (.invalidPattern "Z" ⟨"["⟩) := by
  intro fields reversed
  have hleast : ∀ field e, Fault fields Policy.builtin field e →
      Text.bytes "Z" ≤ Text.bytes field := by
    intro field e h
    obtain ⟨s, hs⟩ := h.exists_get?
    have hmem := Table.get?_eq_some_iff_mem.1 hs
    simp only [fields, List.mem_cons, Prod.mk.injEq, List.not_mem_nil, or_false] at hmem
    rcases hmem with ⟨rfl, -⟩ | ⟨rfl, -⟩ | ⟨rfl, -⟩ | ⟨rfl, -⟩ <;> decide +kernel
  obtain ⟨-, herror, hperm⟩ := validation_reports_least_fault fields Policy.builtin
  have hvalidate : fields.validate Policy.builtin = .error (.invalidPattern "Z" ⟨"["⟩) :=
    (herror _).2 ⟨"Z", .invalidPattern (.own rfl) nofun rfl (by decide +kernel), hleast⟩
  refine ⟨.noOperators (.own rfl) rfl, .unknownPolicy rfl rfl, hvalidate, ?_⟩
  exact (hperm reversed (List.reverse_perm _)).trans hvalidate

end Fields

end FilterQuery
