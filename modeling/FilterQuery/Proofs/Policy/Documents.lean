import FilterQuery.Policy.Json
import FilterQuery.Proofs.Json.Documents
import FilterQuery.Proofs.Policy.Faults

/-!
# Policies survive being written and read

The document of a policy describes this policy, whether or not its pattern can be read, and so it is
for standards and for tables of fields. The documents are not deep, so that their texts are read as
the same documents again. What is left to go wrong when the text of a table is loaded is the table
itself: loading finds the fault that validation finds.
-/

namespace FilterQuery

/-- Reading what was written item by item gives the items. -/
theorem mapM_map_eq_some {α β : Type} {write : α → β} {read : β → Option α}
    (h : ∀ a, read (write a) = some a) (as : List α) : (as.map write).mapM read = some as := by
  induction as with
  | nil => rfl
  | cons a as ih => simp [h, ih]

/-! ### Documents -/

theorem Kind.ofName?_name (k : Kind) : ofName? k.name = some k := by
  cases k <;> decide

theorem TermKind.ofName?_name (k : TermKind) : ofName? k.name = some k := by
  cases k <;> decide

theorem Json.strings?_strings (texts : List String) : (strings texts).strings? = some texts := by
  apply mapM_map_eq_some
  intro text
  rfl

theorem Policy.ofJson?_toJson (p : Policy) : ofJson? p.toJson = some p := by
  obtain ⟨kind, operators, term, pattern⟩ := p
  cases pattern with
  | none =>
    simp [toJson, ofJson?, Json.unique?, ofParts?, Json.choice?, Kind.ofName?_name,
      Json.strings?_strings, TermKind.ofName?_name]
  | some pattern =>
    simp [toJson, ofJson?, Json.unique?, ofParts?, Json.choice?, Json.optional?, Kind.ofName?_name,
      Json.strings?_strings, TermKind.ofName?_name]

theorem Standard.ofJson?_toJson (s : Standard) : ofJson? s.toJson = some s := by
  cases s with
  | named name => rfl
  | own p =>
    show (Policy.ofJson? p.toJson).map own = some (own p)
    rw [p.ofJson?_toJson]
    rfl

/-! ### Validity and depth -/

namespace Json

theorem depthOfItems_le_iff {items : List Json} {n : Nat} :
    depthOfItems items ≤ n ↔ ∀ j ∈ items, j.depth ≤ n := by
  induction items with
  | nil => simp [depthOfItems]
  | cons j items ih => rw [depthOfItems, Nat.max_le, List.forall_mem_cons, ih]

theorem depthOfMembers_le_iff {members : List (String × Json)} {n : Nat} :
    depthOfMembers members ≤ n ↔ ∀ m ∈ members, m.2.depth ≤ n := by
  induction members with
  | nil => simp [depthOfMembers]
  | cons m members ih => rw [depthOfMembers, Nat.max_le, List.forall_mem_cons, ih]

theorem valid_strings (texts : List String) : (strings texts).Valid := by
  apply Valid.array
  intro j hj
  obtain ⟨text, -, rfl⟩ := List.mem_map.1 hj
  exact .string text

theorem depth_strings_le (texts : List String) : (strings texts).depth ≤ 1 := by
  have hitems : depthOfItems (texts.map string) ≤ 0 := by
    rw [depthOfItems_le_iff]
    intro j hj
    obtain ⟨text, -, rfl⟩ := List.mem_map.1 hj
    exact Nat.le_refl 0
  rw [strings, depth]
  omega

end Json

/-- The members of the document of a policy are valid, and none is deeper than a list of strings. -/
theorem Policy.toJson_members (p : Policy) :
    ∃ members, p.toJson = .object members ∧ ∀ m ∈ members, m.2.Valid ∧ m.2.depth ≤ 1 := by
  refine ⟨_, rfl, ?_⟩
  have hstring : ∀ text, (Json.string text).Valid ∧ (Json.string text).depth ≤ 1 :=
    fun text => ⟨.string text, Nat.zero_le 1⟩
  have hstrings := And.intro (Json.valid_strings p.operators) (Json.depth_strings_le p.operators)
  cases p.pattern <;> simp [hstring, hstrings]

theorem Standard.valid_toJson (s : Standard) : s.toJson.Valid ∧ s.toJson.depth ≤ 2 := by
  cases s with
  | named name => exact ⟨.string name, Nat.zero_le 2⟩
  | own p =>
    obtain ⟨members, htoJson, hmembers⟩ := p.toJson_members
    rw [toJson, htoJson, Json.depth]
    have hdepth : Json.depthOfMembers members ≤ 1 :=
      Json.depthOfMembers_le_iff.2 fun m hm => (hmembers m hm).2
    exact ⟨.object fun m hm => (hmembers m hm).1, by omega⟩

/-! ### Texts of fields -/

namespace Fields

/-- The document of the fields that are listed. -/
def document (listed : List (String × Standard)) : Json :=
  .object (listed.map fun entry => (entry.1, entry.2.toJson))

/-- A text that fields are written as: an object with a member for each field, in whatever order. -/
def WrittenAs (fields : Fields) (text : String) : Prop :=
  ∃ listed : List (String × Standard), listed.Perm fields.entries ∧ text = (document listed).compact

theorem writtenAs_toJson (fields : Fields) : fields.WrittenAs fields.toJson.compact :=
  ⟨fields.sorted, List.mergeSort_perm _ _, rfl⟩

theorem ofJson?_document (fields : Fields) : ofJson? (document fields.entries) = some fields := by
  have hentries : (fields.entries.map fun entry => (entry.1, entry.2.toJson)).mapM
      (fun m => (Standard.ofJson? m.2).map fun s => (m.1, s)) = some fields.entries := by
    apply mapM_map_eq_some
    intro entry
    rw [entry.2.ofJson?_toJson, Option.map_some]
  calc ofJson? (document fields.entries)
      = (some fields.entries).bind (fun entries => some (Table.ofList entries)) :=
        congrArg (Option.bind · fun entries => some (Table.ofList entries)) hentries
    _ = some fields := by rw [Option.bind_some, fields.ofList_entries]

theorem valid_document (listed : List (String × Standard)) :
    (document listed).Valid ∧ (document listed).depth ≤ 3 := by
  have hmembers : ∀ m ∈ listed.map fun entry => (entry.1, entry.2.toJson),
      m.2.Valid ∧ m.2.depth ≤ 2 := by
    intro m hm
    obtain ⟨entry, -, rfl⟩ := List.mem_map.1 hm
    exact entry.2.valid_toJson
  have hdepth := Json.depthOfMembers_le_iff.2 fun m hm => (hmembers m hm).2
  rw [document, Json.depth]
  exact ⟨.object fun m hm => (hmembers m hm).1, by omega⟩

/-- Fields are read back from their text in the order in which they are written. -/
theorem read_document (fields : Fields) :
    Fields.read (document fields.entries).compact = .ok fields := by
  obtain ⟨hvalid, hdepth⟩ := valid_document fields.entries
  have hlimit : (document fields.entries).depth ≤ Json.defaultDepth :=
    Nat.le_trans hdepth (by decide)
  rw [read, Json.parse?_compact hvalid, if_pos hlimit]
  simp only [ofJson?_document]

/-- Of fields that are read, only the policies are left to be checked. -/
theorem load_of_read_eq_ok [Pattern.Engine] {text : String} {fields : Fields}
    (h : Fields.read text = .ok fields) (available : Table Policy) :
    Fields.load text available = (fields.validate available).map fun _ => fields := by
  rw [load, h]
  show (fields.validate available >>= fun _ => pure fields) = _
  cases fields.validate available <;> rfl

theorem validate_ne_json [Pattern.Engine] (fields : Fields) (available : Table Policy)
    (detail : String) : fields.validate available ≠ .error (.json detail) := by
  intro h
  obtain ⟨field, hfault, -⟩ := validate_eq_error_iff.1 h
  cases hfault

/-- Whatever a standard is, it is read back from its text, and so is a table of fields, whatever the
order of its members. A table that was written can be loaded exactly if its policies are valid, and
otherwise the fault of the policies is reported. -/
theorem policies_survive_writing [Pattern.Engine] :
    (∀ s : Standard,
      (Json.parse? s.toJson.compact Json.defaultDepth).bind Standard.ofJson? = some s) ∧
    (∀ fields : Fields, fields.WrittenAs fields.toJson.compact) ∧
    ∀ (fields : Fields) (text : String), fields.WrittenAs text →
      ∃ written : Fields, Fields.read text = .ok written ∧
        (∀ field, written.get? field = fields.get? field) ∧
        ∀ available : Table Policy,
          (∀ loaded, Fields.load text available = .ok loaded ↔
            fields.validate available = .ok () ∧ loaded = written) ∧
          (∀ e, Fields.load text available = .error e ↔ fields.validate available = .error e) ∧
          ∀ detail, Fields.load text available ≠ .error (.json detail) := by
  refine ⟨?_, writtenAs_toJson, ?_⟩
  · intro s
    obtain ⟨hvalid, hdepth⟩ := s.valid_toJson
    have hlimit : s.toJson.depth ≤ Json.defaultDepth := Nat.le_trans hdepth (by decide)
    rw [Json.parse?_compact hvalid, if_pos hlimit, Option.bind_some, s.ofJson?_toJson]
  · rintro fields text ⟨listed, hperm, rfl⟩
    let written : Fields := ⟨listed, (hperm.map Prod.fst).nodup_iff.2 fields.nodup⟩
    have hread : Fields.read (document listed).compact = .ok written := read_document written
    refine ⟨written, hread, Table.get?_congr hperm, ?_⟩
    intro available
    have hvalidate : written.validate available = fields.validate available := validate_congr hperm
    have hjson := fields.validate_ne_json available
    rw [load_of_read_eq_ok hread, hvalidate]
    generalize fields.validate available = outcome at hjson
    cases outcome with
    | ok => simp [Except.map, eq_comm]
    | error e => simpa [Except.map] using hjson

/-- Quotes, backslashes and control characters come back as they were, and a pattern that cannot be
read is kept until the table is validated. -/
theorem policies_survive_writing_of_broken_pattern :
    let policy : Policy := ⟨.string, ["\"", "\x01"], .like, some ⟨"["⟩⟩
    let fields : Fields := ⟨[("b\\", .own policy), ("é", .named "number")], by decide⟩
    let text := "\x7b\"é\":\"number\",\"b\\\\\":\x7b\"type\":\"string\","
      ++ "\"operators\":[\"\\\"\",\"\\u0001\"],\"term\":\"like\",\"pattern\":\"[\"\x7d\x7d"
    fields.WrittenAs text ∧
      (∃ written : Fields, Fields.read text = .ok written ∧
        written.get? "b\\" = some (.own policy) ∧ written.get? "é" = some (.named "number")) ∧
      Fields.load text Policy.builtin = .error (.invalidPattern "b\\" ⟨"["⟩) := by
  intro policy fields text
  have htext : fields.WrittenAs text :=
    ⟨fields.entries.reverse, List.reverse_perm _, by decide +kernel⟩
  have hleast : ∀ field e, Fault fields Policy.builtin field e → "b\\" ≤ field := by
    intro field e h
    obtain ⟨s, hs⟩ := h.exists_get?
    have hmem := Table.get?_eq_some_iff_mem.1 hs
    simp only [fields, List.mem_cons, Prod.mk.injEq, List.not_mem_nil, or_false] at hmem
    rcases hmem with ⟨rfl, -⟩ | ⟨rfl, -⟩ <;> decide +kernel
  have hvalidate : fields.validate Policy.builtin = .error (.invalidPattern "b\\" ⟨"["⟩) :=
    validate_eq_error_iff.2
      ⟨"b\\", .invalidPattern (.own rfl) nofun rfl (by decide +kernel), hleast⟩
  obtain ⟨written, hread, hget, hload⟩ := policies_survive_writing.2.2 fields text htext
  exact ⟨htext, ⟨written, hread, hget _, hget _⟩, ((hload Policy.builtin).2.1 _).2 hvalidate⟩

end Fields

end FilterQuery
