import FilterQuery.Cli.Compile
import FilterQuery.Proofs.Lexing.Scalars
import FilterQuery.Proofs.Policy.Faults

/-!
# Assembling the fields

The fields of a query come from a table, which must be valid in itself, and from specifications of
the form `NAME=POLICY`, of which the last one for a name counts. The assembled fields are validated
once more. This can only go wrong for a policy that a specification names: what comes from the table
has been found valid before, and the built-in policies are usable.
-/

namespace FilterQuery

theorem Policy.usable_of_builtin [Pattern.Engine] {name : String} {p : Policy}
    (h : Policy.builtin.get? name = some p) : p.Usable := by
  have hbuiltin : ∀ entry ∈ Policy.builtin.entries,
      entry.2.operators ≠ [] ∧ entry.2.pattern = none := by decide
  obtain ⟨hops, hpattern⟩ := hbuiltin _ (Table.get?_eq_some_iff_mem.1 h)
  refine ⟨hops, fun pattern h => ?_⟩
  rw [hpattern] at h
  cases h

/-- Loading fields is reading and validating them. -/
theorem Fields.load_eq_ok_iff [Pattern.Engine] {text : String} {available : Table Policy}
    {fields : Fields} :
    Fields.load text available = .ok fields ↔
      Fields.read text = .ok fields ∧ fields.validate available = .ok () := by
  rw [load]
  cases hread : read text with
  | error e => exact ⟨nofun, nofun⟩
  | ok read =>
    constructor
    · intro h
      cases hvalidate : read.validate available with
      | error e =>
        simp only [bind, Except.bind, hvalidate] at h
        cases h
      | ok =>
        simp only [bind, Except.bind, hvalidate] at h
        cases h
        exact ⟨rfl, hvalidate⟩
    · rintro ⟨hfields, hvalidate⟩
      cases hfields
      simp only [bind, Except.bind, hvalidate]
      rfl

namespace Cli

/-! ### Specifications -/

/-- The specification `spec` gives the field `name` the policy `policy`. The first equals sign
stands between them, and neither is empty. -/
structure Specifies (spec name policy : String) : Prop where
  spec_eq : spec = name ++ "=" ++ policy
  not_mem_name : '=' ∉ name.toList
  name_ne : name ≠ ""
  policy_ne : policy ≠ ""

/-- A text that specifies some field. -/
def IsSpec (spec : String) : Prop := ∃ name policy, Specifies spec name policy

/-- The last of the specifications for the field `name` gives it the policy `policy`. -/
def LastSpec (specs : List String) (name policy : String) : Prop :=
  ∃ before spec after, specs = before ++ spec :: after ∧ Specifies spec name policy ∧
    ∀ other ∈ after, ∀ policy', ¬Specifies other name policy'

/-- The first text of the list that specifies no field. -/
def FirstMalformed (specs : List String) (spec : String) : Prop :=
  ∃ before after, specs = before ++ spec :: after ∧ (∀ other ∈ before, IsSpec other) ∧ ¬IsSpec spec

section

variable {spec name policy : String} {specs : List String}

/-- A specification is read as it is meant. -/
theorem Specifies.parseField_eq (h : Specifies spec name policy) :
    parseField spec = .ok (name, .named policy) := by
  have hname : ∀ c ∈ name.toList, (c != '=') = true := by
    intro c hc
    rw [bne_iff_ne]
    rintro rfl
    exact h.not_mem_name hc
  have hspec : spec.toList = name.toList ++ '=' :: policy.toList := by
    rw [h.spec_eq, String.toList_append, String.toList_append, List.append_assoc]
    rfl
  have hrest : ∀ c ∈ ('=' :: policy.toList).head?, (c != '=') = false := by simp
  have htake := takeWhile_run hname hrest
  have hdrop := dropWhile_run hname hrest
  obtain ⟨n, ns, hn⟩ := List.exists_cons_of_ne_nil (mt String.toList_eq_nil_iff.1 h.name_ne)
  obtain ⟨c, cs, hc⟩ := List.exists_cons_of_ne_nil (mt String.toList_eq_nil_iff.1 h.policy_ne)
  rw [← hspec] at htake hdrop
  simp only [parseField, htake, hdrop, hn, hc]
  rw [← hn, ← hc, String.ofList_toList, String.ofList_toList]

/-- Nothing else is taken for a specification. -/
theorem exists_specifies_of_parseField_eq_ok {standard : Standard}
    (h : parseField spec = .ok (name, standard)) :
    ∃ policy, Specifies spec name policy ∧ standard = .named policy := by
  have hsplit := List.takeWhile_append_dropWhile (p := (· != '=')) (l := spec.toList)
  have hname := List.all_takeWhile (p := (· != '=')) (l := spec.toList)
  have hrest := List.head?_dropWhile_not (· != '=') spec.toList
  simp only [parseField] at h
  split at h
  · next n ns d c cs hn hd =>
    rw [hn] at h hname hsplit
    rw [hd] at hrest hsplit
    cases h
    obtain rfl : d = '=' := by simpa using hrest
    refine ⟨String.ofList (c :: cs), ⟨?_, ?_, by simp, by simp⟩, rfl⟩
    · apply String.toList_inj.1
      simp only [String.toList_append, String.toList_ofList, ← hsplit, List.append_assoc]
      rfl
    · rw [String.toList_ofList]
      intro hmem
      simpa using List.all_eq_true.1 hname _ hmem
  · cases h

theorem Specifies.unique {name' policy' : String} (h : Specifies spec name policy)
    (h' : Specifies spec name' policy') : name = name' ∧ policy = policy' := by
  cases h.parseField_eq.symm.trans h'.parseField_eq
  exact ⟨rfl, rfl⟩

/-- What specifies no field is reported as it stands. -/
theorem parseField_of_not_isSpec (h : ¬IsSpec spec) :
    parseField spec = .error (.invalidField spec) := by
  cases hparse : parseField spec with
  | ok field =>
    obtain ⟨policy, hspec, -⟩ := exists_specifies_of_parseField_eq_ok hparse
    exact absurd ⟨_, policy, hspec⟩ h
  | error e =>
    simp only [parseField] at hparse
    split at hparse
    · cases hparse
    · exact hparse.symm

/-! ### Names in a list of specifications -/

theorem not_lastSpec_nil : ¬LastSpec [] name policy := by
  simp [LastSpec]

theorem lastSpec_cons :
    LastSpec (spec :: specs) name policy ↔
      LastSpec specs name policy ∨
        Specifies spec name policy ∧ ∀ other ∈ specs, ∀ policy', ¬Specifies other name policy' := by
  constructor
  · rintro ⟨before, last, after, h, hlast, hafter⟩
    cases before with
    | nil =>
      obtain ⟨rfl, rfl⟩ := List.cons.inj h
      exact .inr ⟨hlast, hafter⟩
    | cons first before =>
      obtain ⟨-, rfl⟩ := List.cons.inj h
      exact .inl ⟨before, last, after, rfl, hlast, hafter⟩
  · rintro (⟨before, last, after, rfl, hlast, hafter⟩ | ⟨hspec, hafter⟩)
    · exact ⟨spec :: before, last, after, rfl, hlast, hafter⟩
    · exact ⟨[], spec, specs, rfl, hspec, hafter⟩

/-- Among the specifications for a name there is a last one. -/
theorem exists_lastSpec (h : ∃ spec ∈ specs, ∃ policy, Specifies spec name policy) :
    ∃ policy, LastSpec specs name policy := by
  induction specs with
  | nil =>
    obtain ⟨spec, hmem, -⟩ := h
    cases hmem
  | cons first specs ih =>
    by_cases hlater : ∃ spec ∈ specs, ∃ policy, Specifies spec name policy
    · obtain ⟨policy, hlast⟩ := ih hlater
      exact ⟨policy, lastSpec_cons.2 (.inl hlast)⟩
    · obtain ⟨spec, hmem, policy, hspec⟩ := h
      rcases List.mem_cons.1 hmem with rfl | hmem
      · refine ⟨policy, lastSpec_cons.2 (.inr ⟨hspec, ?_⟩)⟩
        intro other hother policy' hspec'
        exact hlater ⟨other, hother, policy', hspec'⟩
      · exact absurd ⟨spec, hmem, policy, hspec⟩ hlater

theorem not_firstMalformed_nil : ¬FirstMalformed [] spec := by
  simp [FirstMalformed]

theorem firstMalformed_cons {first : String} :
    FirstMalformed (first :: specs) spec ↔
      ¬IsSpec first ∧ spec = first ∨ IsSpec first ∧ FirstMalformed specs spec := by
  constructor
  · rintro ⟨before, after, h, hbefore, hspec⟩
    cases before with
    | nil =>
      obtain ⟨rfl, -⟩ := List.cons.inj h
      exact .inl ⟨hspec, rfl⟩
    | cons first' before =>
      obtain ⟨rfl, rfl⟩ := List.cons.inj h
      obtain ⟨hfirst, hbefore⟩ := List.forall_mem_cons.1 hbefore
      exact .inr ⟨hfirst, before, after, rfl, hbefore, hspec⟩
  · rintro (⟨hspec, rfl⟩ | ⟨hfirst, before, after, rfl, hbefore, hspec⟩)
    · exact ⟨[], specs, rfl, nofun, hspec⟩
    · exact ⟨first :: before, after, rfl, List.forall_mem_cons.2 ⟨hfirst, hbefore⟩, hspec⟩

/-! ### Adding specified fields -/

variable {fields fields' : Fields}

theorem addFields_cons_of_specifies (h : Specifies spec name policy) :
    addFields fields (spec :: specs) = addFields (fields.insert name (.named policy)) specs := by
  rw [addFields, h.parseField_eq]
  rfl

theorem addFields_cons_of_not_isSpec (h : ¬IsSpec spec) :
    addFields fields (spec :: specs) = .error (.invalidField spec) := by
  rw [addFields, parseField_of_not_isSpec h]
  rfl

theorem isSpec_of_addFields_eq_ok (h : addFields fields (spec :: specs) = .ok fields') :
    IsSpec spec := by
  apply Classical.byContradiction
  intro hspec
  rw [addFields_cons_of_not_isSpec hspec] at h
  cases h

/-- A field that no specification names stays as it was. -/
theorem get?_of_not_lastSpec (hadd : addFields fields specs = .ok fields')
    (h : ∀ policy, ¬LastSpec specs name policy) : fields'.get? name = fields.get? name := by
  induction specs generalizing fields with
  | nil =>
    cases hadd
    rfl
  | cons spec specs ih =>
    obtain ⟨name', policy', hspec⟩ := isSpec_of_addFields_eq_ok hadd
    rw [addFields_cons_of_specifies hspec] at hadd
    have hlater : ∀ policy, ¬LastSpec specs name policy :=
      fun policy hlast => h policy (lastSpec_cons.2 (.inl hlast))
    have hne : name ≠ name' := by
      -- Otherwise this specification is the last one for the name, or one behind it is.
      rintro rfl
      refine h policy' (lastSpec_cons.2 (.inr ⟨hspec, fun other hother policy hother' => ?_⟩))
      obtain ⟨policy, hlast⟩ := exists_lastSpec ⟨other, hother, policy, hother'⟩
      exact hlater policy hlast
    rw [ih hadd hlater, Table.get?_insert, if_neg hne]

/-- A field has the policy of the last specification that names it. -/
theorem get?_of_lastSpec (hadd : addFields fields specs = .ok fields')
    (h : LastSpec specs name policy) : fields'.get? name = some (.named policy) := by
  induction specs generalizing fields with
  | nil => exact absurd h not_lastSpec_nil
  | cons spec specs ih =>
    obtain ⟨name', policy', hspec⟩ := isSpec_of_addFields_eq_ok hadd
    rcases lastSpec_cons.1 h with hlast | ⟨hspec', hafter⟩
    · rw [addFields_cons_of_specifies hspec] at hadd
      exact ih hadd hlast
    · rw [addFields_cons_of_specifies hspec'] at hadd
      -- The specifications behind it are for other names, and leave the entry as it is.
      have hlater : ∀ policy, ¬LastSpec specs name policy := by
        rintro policy ⟨before, other, after, rfl, hother, -⟩
        exact hafter other (by simp) policy hother
      rw [get?_of_not_lastSpec hadd hlater, Table.get?_insert, if_pos rfl]

/-- Adding fields ends at the first text that specifies none. -/
theorem addFields_eq_error_iff {e : Error} :
    addFields fields specs = .error e ↔
      ∃ spec, FirstMalformed specs spec ∧ e = .invalidField spec := by
  induction specs generalizing fields with
  | nil =>
    constructor
    · intro h
      cases h
    · rintro ⟨spec, h, -⟩
      exact absurd h not_firstMalformed_nil
  | cons first specs ih =>
    by_cases hfirst : IsSpec first
    · obtain ⟨name, policy, hspec⟩ := hfirst
      have hfirst : IsSpec first := ⟨name, policy, hspec⟩
      simp [addFields_cons_of_specifies hspec, ih, firstMalformed_cons, hfirst]
    · simp [addFields_cons_of_not_isSpec hfirst, firstMalformed_cons, hfirst, @eq_comm _ e]

theorem isSpec_of_mem (hadd : addFields fields specs = .ok fields') (h : spec ∈ specs) :
    IsSpec spec := by
  induction specs generalizing fields with
  | nil => cases h
  | cons first specs ih =>
    obtain ⟨name, policy, hspec⟩ := isSpec_of_addFields_eq_ok hadd
    rcases List.mem_cons.1 h with rfl | h
    · exact ⟨name, policy, hspec⟩
    · rw [addFields_cons_of_specifies hspec] at hadd
      exact ih hadd h

theorem exists_addFields_eq_ok (hspecs : ∀ spec ∈ specs, IsSpec spec) :
    ∃ fields', addFields fields specs = .ok fields' := by
  rw [exists_eq_ok_iff]
  rintro ⟨e, h⟩
  obtain ⟨spec, ⟨before, after, rfl, -, hspec⟩, -⟩ := addFields_eq_error_iff.1 h
  exact hspec (hspecs spec (by simp))

end

/-! ### The table -/

section

variable [Pattern.Engine]

/-- The fields that an optional table has, if it can be loaded. -/
inductive Loads : Option String → Fields → Prop
  | absent : Loads none ∅
  | present {text : String} {loaded : Fields}
    (h : Fields.load text Policy.builtin = .ok loaded) : Loads (some text) loaded

theorem Loads.not_fault {table : Option String} {loaded : Fields} (h : Loads table loaded)
    (field : String) (e : ConfigError) : ¬Fault loaded Policy.builtin field e := by
  cases h with
  | absent =>
    intro hfault
    obtain ⟨s, hs⟩ := hfault.exists_get?
    cases hs
  | present h => exact Fields.validate_eq_ok_iff.1 (Fields.load_eq_ok_iff.1 h).2 field e

theorem Loads.unique {table : Option String} {loaded loaded' : Fields} (h : Loads table loaded)
    (h' : Loads table loaded') : loaded = loaded' := by
  cases h with
  | absent =>
    cases h'
    rfl
  | present h =>
    cases h' with
    | present h' => exact Except.ok.inj (h.symm.trans h')

/-- A table that only names built-in policies can be loaded. -/
theorem Loads.of_named {text : String} {loaded : Fields} (hread : Fields.read text = .ok loaded)
    (hnamed : ∀ entry ∈ loaded.entries, ∃ policy p,
      entry.2 = .named policy ∧ Policy.builtin.get? policy = some p) :
    Loads (some text) loaded := by
  refine .present (Fields.load_eq_ok_iff.2 ⟨hread, ?_⟩)
  rw [Fields.validate_eq_ok_iff_usable]
  intro field s hs
  obtain ⟨policy, p, rfl, hp⟩ := hnamed _ (Table.get?_eq_some_iff_mem.1 hs)
  exact ⟨p, .named hs hp, Policy.usable_of_builtin hp⟩

theorem exists_loads_or_error (table : Option String) :
    (∃ loaded, Loads table loaded) ∨
      ∃ text e, table = some text ∧ Fields.load text Policy.builtin = .error e := by
  cases table with
  | none => exact .inl ⟨_, .absent⟩
  | some text =>
    cases h : Fields.load text Policy.builtin with
    | ok loaded => exact .inl ⟨loaded, .present h⟩
    | error e => exact .inr ⟨text, e, rfl, h⟩

/-! ### The assembled fields -/

variable {table : Option String} {specs : List String} {loaded fields : Fields}

theorem assembleFields_of_load_eq_error {text : String} {e : ConfigError}
    (h : Fields.load text Policy.builtin = .error e) :
    assembleFields (some text) specs = .error (.config e) := by
  simp only [assembleFields, h]
  rfl

theorem Loads.assembleFields_eq (h : Loads table loaded) :
    assembleFields table specs = (addFields loaded specs).bind fun fields =>
      ((fields.validate Policy.builtin).mapError .config).bind fun _ => .ok fields := by
  cases h with
  | absent => rfl
  | present h =>
    simp only [assembleFields, h]
    rfl

theorem Loads.assembleFields_of_addFields_eq_error {e : Error} (h : Loads table loaded)
    (hadd : addFields loaded specs = .error e) : assembleFields table specs = .error e := by
  rw [h.assembleFields_eq, hadd]
  rfl

theorem Loads.assembleFields_of_validate_eq_error {e : ConfigError} (h : Loads table loaded)
    (hadd : addFields loaded specs = .ok fields)
    (hvalidate : fields.validate Policy.builtin = .error e) :
    assembleFields table specs = .error (.config e) := by
  rw [h.assembleFields_eq, hadd, Except.bind, hvalidate]
  rfl

theorem Loads.assembleFields_of_validate_eq_ok (h : Loads table loaded)
    (hadd : addFields loaded specs = .ok fields)
    (hvalidate : fields.validate Policy.builtin = .ok ()) :
    assembleFields table specs = .ok fields := by
  rw [h.assembleFields_eq, hadd, Except.bind, hvalidate]
  rfl

/-- A field has the policy of its last specification, or else that of the table. In either case the
policy is usable. -/
theorem Loads.usable {field : String} {p : Policy} (h : Loads table loaded)
    (hadd : addFields loaded specs = .ok fields)
    (hp : HasPolicy fields Policy.builtin field p) : p.Usable := by
  obtain ⟨s, hs, hresolve⟩ := hasPolicy_iff_resolve?.1 hp
  by_cases hlast : ∃ policy, LastSpec specs field policy
  · obtain ⟨policy, hlast⟩ := hlast
    cases (get?_of_lastSpec hadd hlast).symm.trans hs
    exact Policy.usable_of_builtin hresolve
  · rw [get?_of_not_lastSpec hadd (not_exists.1 hlast)] at hs
    obtain ⟨p', hp', husable⟩ := (forall_not_fault_iff hs).1 (h.not_fault field)
    rwa [hp'.unique (hasPolicy_iff_resolve?.2 ⟨s, hs, hresolve⟩)] at husable

/-- The only faults of the assembled fields are specifications that name no policy. -/
theorem Loads.fault_iff {field : String} {e : ConfigError} (h : Loads table loaded)
    (hadd : addFields loaded specs = .ok fields) :
    Fault fields Policy.builtin field e ↔
      ∃ policy, LastSpec specs field policy ∧ Policy.builtin.get? policy = none ∧
        e = .unknownPolicy field policy := by
  constructor
  · intro hfault
    cases hfault with
    | noOperators hp hops => exact absurd hops (h.usable hadd hp).operators_ne_nil
    | invalidPattern hp hops hpattern hvalid =>
      rw [(h.usable hadd hp).valid _ hpattern] at hvalid
      cases hvalid
    | unknownPolicy hs hname =>
      by_cases hlast : ∃ policy, LastSpec specs field policy
      · obtain ⟨policy, hlast⟩ := hlast
        cases (get?_of_lastSpec hadd hlast).symm.trans hs
        exact ⟨_, hlast, hname, rfl⟩
      · rw [get?_of_not_lastSpec hadd (not_exists.1 hlast)] at hs
        exact absurd (.unknownPolicy hs hname) (h.not_fault field _)
  · rintro ⟨policy, hlast, hname, rfl⟩
    exact .unknownPolicy (get?_of_lastSpec hadd hlast) hname

/-- Why fields cannot be assembled: each rule needs what the rules before it are about to be in
order. Of the names whose last specification names no policy, the least by its bytes is reported. -/
inductive AssemblyFault (table : Option String) (specs : List String) : Error → Prop
  | table {text : String} {e : ConfigError} (htable : table = some text)
    (h : Fields.load text Policy.builtin = .error e) : AssemblyFault table specs (.config e)
  | spec {loaded : Fields} {spec : String} (hloaded : Loads table loaded)
    (h : FirstMalformed specs spec) : AssemblyFault table specs (.invalidField spec)
  | policy {loaded : Fields} {name policy : String} (hloaded : Loads table loaded)
    (hspecs : ∀ spec ∈ specs, IsSpec spec) (hlast : LastSpec specs name policy)
    (hunknown : Policy.builtin.get? policy = none)
    (hleast : ∀ name' policy', LastSpec specs name' policy' →
      Policy.builtin.get? policy' = none → Text.bytes name ≤ Text.bytes name') :
    AssemblyFault table specs (.config (.unknownPolicy name policy))

/-- Of the assembled fields the least one whose specification names no policy is reported. -/
theorem Loads.validate_eq_error_iff {e : ConfigError} (h : Loads table loaded)
    (hadd : addFields loaded specs = .ok fields) :
    fields.validate Policy.builtin = .error e ↔
      ∃ name policy, LastSpec specs name policy ∧ Policy.builtin.get? policy = none ∧
        e = .unknownPolicy name policy ∧ ∀ name' policy', LastSpec specs name' policy' →
          Policy.builtin.get? policy' = none → Text.bytes name ≤ Text.bytes name' := by
  simp only [Fields.validate_eq_error_iff, h.fault_iff hadd, Text.bytes_le_bytes_iff]
  constructor
  · rintro ⟨name, ⟨policy, hlast, hunknown, rfl⟩, hleast⟩
    refine ⟨name, policy, hlast, hunknown, rfl, ?_⟩
    intro name' policy' hlast' hunknown'
    exact hleast name' _ ⟨policy', hlast', hunknown', rfl⟩
  · rintro ⟨name, policy, hlast, hunknown, rfl, hleast⟩
    refine ⟨name, ⟨policy, hlast, hunknown, rfl⟩, ?_⟩
    rintro name' _ ⟨policy', hlast', hunknown', rfl⟩
    exact hleast name' policy' hlast' hunknown'

theorem AssemblyFault.assembleFields_eq {e : Error} (h : AssemblyFault table specs e) :
    assembleFields table specs = .error e := by
  cases h with
  | table htable h =>
    rw [htable]
    exact assembleFields_of_load_eq_error h
  | spec hloaded h =>
    exact hloaded.assembleFields_of_addFields_eq_error (addFields_eq_error_iff.2 ⟨_, h, rfl⟩)
  | policy hloaded hspecs hlast hunknown hleast =>
    obtain ⟨fields, hadd⟩ := exists_addFields_eq_ok hspecs
    exact hloaded.assembleFields_of_validate_eq_error hadd
      ((hloaded.validate_eq_error_iff hadd).2 ⟨_, _, hlast, hunknown, rfl, hleast⟩)

/-- Assembling fields takes three steps. Each fails for a reason of its own, or all succeed. -/
theorem assembled_or_fault (table : Option String) (specs : List String) :
    (∃ loaded fields, Loads table loaded ∧ addFields loaded specs = .ok fields ∧
      fields.validate Policy.builtin = .ok () ∧ assembleFields table specs = .ok fields) ∨
      ∃ e, AssemblyFault table specs e := by
  rcases exists_loads_or_error table with ⟨loaded, hloaded⟩ | ⟨text, e, htable, h⟩
  · cases hadd : addFields loaded specs with
    | error e =>
      obtain ⟨spec, hspec, rfl⟩ := addFields_eq_error_iff.1 hadd
      exact .inr ⟨_, .spec hloaded hspec⟩
    | ok fields =>
      cases hvalidate : fields.validate Policy.builtin with
      | error e =>
        obtain ⟨name, policy, hlast, hunknown, rfl, hleast⟩ :=
          (hloaded.validate_eq_error_iff hadd).1 hvalidate
        have hspecs : ∀ spec ∈ specs, IsSpec spec := fun spec => isSpec_of_mem hadd
        exact .inr ⟨_, .policy hloaded hspecs hlast hunknown hleast⟩
      | ok =>
        have h := hloaded.assembleFields_of_validate_eq_ok hadd hvalidate
        exact .inl ⟨loaded, fields, hloaded, hadd, hvalidate, h⟩
  · exact .inr ⟨_, .table htable h⟩

theorem assembleFields_eq_error_iff {e : Error} :
    assembleFields table specs = .error e ↔ AssemblyFault table specs e := by
  refine ⟨fun h => ?_, AssemblyFault.assembleFields_eq⟩
  rcases assembled_or_fault table specs with ⟨_, _, -, -, -, hok⟩ | ⟨e', hfault⟩
  · cases hok.symm.trans h
  · cases hfault.assembleFields_eq.symm.trans h
    exact hfault

end

/-- Fields can be assembled if the table, where there is one, can be loaded, every specification has
a name and a policy, and the last specification for each name names a built-in policy. A field then
has the standard that its last specification gives it, and otherwise that of the table. If fields
cannot be assembled, the table is reported before the first specification that is malformed, and
this before the least name without a policy; there is nothing else to report. -/
theorem last_specification_wins [Pattern.Engine] (table : Option String) (specs : List String) :
    ((∃ fields, assembleFields table specs = .ok fields) ↔
      (∃ loaded, Loads table loaded) ∧ (∀ spec ∈ specs, IsSpec spec) ∧
        ∀ name policy, LastSpec specs name policy → ∃ p, Policy.builtin.get? policy = some p) ∧
    (∀ fields, assembleFields table specs = .ok fields → ∃ loaded, Loads table loaded ∧ ∀ name,
      (∀ policy, LastSpec specs name policy → fields.get? name = some (.named policy)) ∧
      ((∀ policy, ¬LastSpec specs name policy) → fields.get? name = loaded.get? name)) ∧
    ∀ e, assembleFields table specs = .error e ↔ AssemblyFault table specs e := by
  refine ⟨⟨?_, ?_⟩, ?_, fun e => assembleFields_eq_error_iff⟩
  · rintro ⟨fields, h⟩
    rcases assembled_or_fault table specs with ⟨loaded, added, hloaded, hadd, hvalid, -⟩ | ⟨e, he⟩
    · refine ⟨⟨loaded, hloaded⟩, fun spec => isSpec_of_mem hadd, fun name policy hlast => ?_⟩
      apply Option.ne_none_iff_exists'.1
      intro hunknown
      have hfault := (hloaded.fault_iff hadd).2 ⟨policy, hlast, hunknown, rfl⟩
      exact Fields.validate_eq_ok_iff.1 hvalid name _ hfault
    · cases h.symm.trans he.assembleFields_eq
  · rintro ⟨⟨loaded, hloaded⟩, hspecs, hknown⟩
    obtain ⟨fields, hadd⟩ := exists_addFields_eq_ok hspecs
    have hvalid : fields.validate Policy.builtin = .ok () := by
      rw [Fields.validate_eq_ok_iff]
      intro name e hfault
      obtain ⟨policy, hlast, hunknown, -⟩ := (hloaded.fault_iff hadd).1 hfault
      obtain ⟨p, hp⟩ := hknown name policy hlast
      cases hp.symm.trans hunknown
    exact ⟨fields, hloaded.assembleFields_of_validate_eq_ok hadd hvalid⟩
  · intro fields h
    rcases assembled_or_fault table specs with ⟨loaded, added, hloaded, hadd, -, hok⟩ | ⟨e, he⟩
    · cases hok.symm.trans h
      exact ⟨loaded, hloaded, fun name =>
        ⟨fun policy => get?_of_lastSpec hadd, get?_of_not_lastSpec hadd⟩⟩
    · cases h.symm.trans he.assembleFields_eq

/-- The specifications for `a` win over the table, and the last one over the first, which names no
policy. The table counts for `c`. In the last list neither policy is known: `y` comes before `é`,
and its policy is all that stands behind the first equals sign. -/
theorem last_specification_wins_of_repeated_names :
    let text := "\x7b\"a\": \"number\", \"c\": \"date\"\x7d"
    (∃ fields, assembleFields (some text) ["a=lost", "a=boolean"] = .ok fields ∧
      fields.get? "a" = some (.named "boolean") ∧ fields.get? "c" = some (.named "date")) ∧
    assembleFields none ["a=lost", "=date"] = .error (.invalidField "=date") ∧
    assembleFields none ["é=lost", "y=x=y"] = .error (.config (.unknownPolicy "y" "x=y")) := by
  intro text
  have hlost : Specifies "a=lost" "a" "lost" :=
    ⟨by decide +kernel, by decide, by decide, by decide⟩
  have hboolean : Specifies "a=boolean" "a" "boolean" :=
    ⟨by decide +kernel, by decide, by decide, by decide⟩
  have haccent : Specifies "é=lost" "é" "lost" :=
    ⟨by decide +kernel, by decide, by decide, by decide⟩
  have htwice : Specifies "y=x=y" "y" "x=y" :=
    ⟨by decide +kernel, by decide, by decide, by decide⟩
  obtain ⟨loaded, hloaded, hdate⟩ : ∃ loaded, Loads (some text) loaded ∧
      loaded.get? "c" = some (.named "date") := by
    have hread : (Fields.read text).toOption.map Table.entries =
        some [("a", .named "number"), ("c", .named "date")] := by decide +kernel
    cases h : Fields.read text with
    | error e =>
      rw [h] at hread
      cases hread
    | ok loaded =>
      rw [h] at hread
      have hentries : loaded.entries = _ := Option.some.inj hread
      refine ⟨loaded, .of_named h ?_, by rw [Table.get?, hentries]; rfl⟩
      rw [hentries]
      simpa using ⟨⟨_, rfl⟩, ⟨_, rfl⟩⟩
  refine ⟨?_, ?_, ?_⟩
  · obtain ⟨hok, hget, -⟩ := last_specification_wins (some text) ["a=lost", "a=boolean"]
    have hspecs : ∀ spec ∈ ["a=lost", "a=boolean"], IsSpec spec := by
      simpa using ⟨⟨_, _, hlost⟩, ⟨_, _, hboolean⟩⟩
    have hlast : LastSpec ["a=lost", "a=boolean"] "a" "boolean" :=
      ⟨["a=lost"], "a=boolean", [], rfl, hboolean, nofun⟩
    have hnames : ∀ name policy, LastSpec ["a=lost", "a=boolean"] name policy →
        name = "a" ∧ policy = "boolean" := by
      intro name policy h
      rcases lastSpec_cons.1 h with h | ⟨h, hafter⟩
      · rcases lastSpec_cons.1 h with h | ⟨h, -⟩
        · exact absurd h not_lastSpec_nil
        · exact h.unique hboolean
      · obtain ⟨rfl, rfl⟩ := h.unique hlost
        exact absurd hboolean (hafter _ (by simp) _)
    have hknown : ∀ name policy, LastSpec ["a=lost", "a=boolean"] name policy →
        ∃ p, Policy.builtin.get? policy = some p := by
      intro name policy h
      rw [(hnames name policy h).2]
      exact ⟨_, rfl⟩
    obtain ⟨fields, hfields⟩ := hok.2 ⟨⟨loaded, hloaded⟩, hspecs, hknown⟩
    obtain ⟨loaded', hloaded', hget⟩ := hget fields hfields
    refine ⟨fields, hfields, (hget "a").1 _ hlast, ?_⟩
    rw [(hget "c").2 fun policy h => absurd (hnames _ _ h).1 (by decide), hloaded'.unique hloaded,
      hdate]
  · apply ((last_specification_wins none _).2.2 _).2
    refine .spec .absent ⟨["a=lost"], [], rfl, by simpa using ⟨_, _, hlost⟩, ?_⟩
    rintro ⟨name, policy, h⟩
    have herror : parseField "=date" = .error (.invalidField "=date") := rfl
    cases herror.symm.trans h.parseField_eq
  · apply ((last_specification_wins none _).2.2 _).2
    refine .policy .absent (by simpa using ⟨⟨_, _, haccent⟩, ⟨_, _, htwice⟩⟩)
      ⟨["é=lost"], _, [], rfl, htwice, nofun⟩ rfl ?_
    rintro name policy ⟨before, spec, after, hspecs, h, -⟩ -
    have hmem : spec ∈ ["é=lost", "y=x=y"] := by simp [hspecs]
    simp only [List.mem_cons, List.not_mem_nil, or_false] at hmem
    rcases hmem with rfl | rfl
    · rw [(h.unique haccent).1]
      decide +kernel
    · rw [(h.unique htwice).1]
      decide +kernel

end Cli

end FilterQuery
