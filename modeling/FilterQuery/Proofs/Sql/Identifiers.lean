import FilterQuery.Sql.IdentifierReader

/-!
# Identifiers are read back

A name in backticks ends where it was written to end, and is read as its parts again.

The text of an identifier is made of its parts: each stands in backticks of its own, with a dot in
between (`identifierChars_dot_append`). Inside a part a backtick is never alone, so the part ends at
the backtick that closes it (`readPart_flatMap_identifierChar`), provided that no backtick follows.
What follows is a dot, or the text behind the identifier: `ClosesIdentifier` is what an identifier
asks of it.
-/

namespace FilterQuery.Sql

variable {cs part rest : List Char}

/-! ### One part -/

/-- A character of a part is passed over, be it a doubled backtick or itself. -/
theorem readPart_identifierChar (read : List Char) {c : Char} (hc : c ≠ '.') (cs : List Char) :
    readPart read (identifierChar c ++ cs) = readPart (c :: read) cs := by
  by_cases hquote : c = '\x60'
  · subst hquote
    simp [identifierChar, readPart]
  · have hchar : identifierChar c = [c] := by rw [identifierChar, if_neg hquote, if_neg hc]
    rw [hchar, List.singleton_append, readPart.eq_def]
    simp only [if_neg hquote]

/-- A backtick that no other follows ends a part. -/
theorem readPart_quote (read : List Char) (hrest : ∀ ds, rest ≠ '\x60' :: ds) :
    readPart read ('\x60' :: rest) = some (read.reverse, rest) := by
  cases rest with
  | nil => simp [readPart]
  | cons d ds =>
    have hd : d ≠ '\x60' := by
      rintro rfl
      exact hrest ds rfl
    simp [readPart, hd]

/-- A part is read up to its closing backtick. -/
theorem readPart_flatMap_identifierChar (read : List Char) (hpart : '.' ∉ part)
    (hrest : ∀ ds, rest ≠ '\x60' :: ds) :
    readPart read (part.flatMap identifierChar ++ '\x60' :: rest) =
      some (read.reverse ++ part, rest) := by
  induction part generalizing read with
  | nil => simpa using readPart_quote read hrest
  | cons c part ih =>
    obtain ⟨hc, hpart⟩ := List.ne_and_not_mem_of_not_mem_cons hpart
    rw [List.flatMap_cons, List.append_assoc, readPart_identifierChar read hc.symm, ih _ hpart]
    simp

/-! ### All parts -/

/-- A text that does not go on with an identifier: it starts neither with a backtick nor with a dot
and a backtick. -/
def ClosesIdentifier (rest : List Char) : Prop :=
  ∀ ds, rest ≠ '\x60' :: ds ∧ rest ≠ '.' :: '\x60' :: ds

theorem readIdentifier_of_last (h : readPart [] cs = some (part, rest))
    (hrest : ClosesIdentifier rest) : readIdentifier ('\x60' :: cs) = some ([part], rest) := by
  rw [readIdentifier]
  split
  · next h' =>
    rw [h] at h'
    cases h'
    exact absurd rfl (hrest _).2
  · next h' =>
    rw [h] at h'
    cases h'
    rfl
  · next h' =>
    rw [h] at h'
    cases h'

theorem readIdentifier_of_dot (h : readPart [] cs = some (part, '.' :: '\x60' :: rest)) :
    readIdentifier ('\x60' :: cs) =
      (readIdentifier ('\x60' :: rest)).map fun (parts, left) => (part :: parts, left) := by
  rw [readIdentifier]
  split
  · next h' =>
    rw [h] at h'
    cases h'
    cases readIdentifier ('\x60' :: rest) <;> rfl
  · next hne h' =>
    rw [h] at h'
    cases h'
    exact absurd rfl (hne rest)
  · next h' =>
    rw [h] at h'
    cases h'

theorem identifierChars_append (name rest : List Char) :
    identifierChars name ++ rest = '\x60' :: (name.flatMap identifierChar ++ '\x60' :: rest) := by
  simp [identifierChars]

/-- Behind a dot the identifier of what is left of the name begins. -/
theorem identifierChars_dot_append (part more rest : List Char) :
    identifierChars (part ++ '.' :: more) ++ rest =
      '\x60' :: (part.flatMap identifierChar ++
        '\x60' :: '.' :: (identifierChars more ++ rest)) := by
  simp [identifierChars, identifierChar]

/-- An identifier is read as the parts of its name. -/
theorem readIdentifier_identifierChars (name : List Char) (hrest : ClosesIdentifier rest) :
    readIdentifier (identifierChars name ++ rest) = some (name.splitOn '.', rest) := by
  -- What stands behind the first dot is a shorter name, with an identifier of its own.
  by_cases hdot : '.' ∈ name
  · obtain ⟨part, more, hname, hpart⟩ := List.eq_append_cons_of_mem hdot
    have hbehind : ∀ ds, '.' :: (identifierChars more ++ rest) ≠ '\x60' :: ds := by simp
    have hread := readPart_flatMap_identifierChar [] hpart hbehind
    have hmore := readIdentifier_identifierChars more hrest
    rw [identifierChars_append] at hread hmore
    rw [hname, identifierChars_dot_append, identifierChars_append, readIdentifier_of_dot hread,
      hmore, List.splitOn_append_cons_self_of_not_mem hpart]
    rfl
  · have hread := readPart_flatMap_identifierChar [] hdot fun ds => (hrest ds).1
    rw [identifierChars_append, List.splitOn_eq_singleton hdot]
    exact readIdentifier_of_last hread hrest
termination_by name.length
decreasing_by
  rw [hname]
  simp
  omega

theorem identifierChars_injective {a b : List Char} (h : identifierChars a = identifierChars b) :
    a = b := by
  have hend : ClosesIdentifier [] := by simp [ClosesIdentifier]
  have hsplit : a.splitOn '.' = b.splitOn '.' := by
    have ha := readIdentifier_identifierChars a hend
    rw [h, readIdentifier_identifierChars b hend] at ha
    exact (Prod.mk.inj (Option.some.inj ha)).1.symm
  calc a = ['.'].intercalate (a.splitOn '.') := (List.intercalate_splitOn '.').symm
    _ = ['.'].intercalate (b.splitOn '.') := by rw [hsplit]
    _ = b := List.intercalate_splitOn '.'

/-- An identifier in front of a space or of nothing is read as the parts of its name, which dots
separate, up to exactly where the identifier ends. Hence different names have different
identifiers. -/
theorem reading_undoes_identifier :
    (∀ (name : String) (rest : List Char), (∀ c ∈ rest.head?, c = ' ') →
      readIdentifier ((identifier name).toList ++ rest) = some (name.toList.splitOn '.', rest)) ∧
    Function.Injective identifier := by
  constructor
  · intro name rest hrest
    have hcloses : ClosesIdentifier rest := by
      intro ds
      constructor
      all_goals
        rintro rfl
        exact absurd (hrest _ rfl) (by decide)
    rw [identifier, String.toList_ofList, readIdentifier_identifierChars _ hcloses]
  · intro a b h
    exact String.toList_inj.1 (identifierChars_injective (String.ofList_inj.1 h))

/-- Backticks next to dots, two dots in a row and a dot at the end: all parts are found, the empty
ones too. -/
theorem reading_undoes_identifier_of_backticks_and_dots :
    let name := "a`..`."
    let rest := [' ', '=', ' ', '?']
    identifier name = "`a```.``.````.``" ∧
      readIdentifier ((identifier name).toList ++ rest) =
        some ([['a', '\x60'], [], ['\x60'], []], rest) := by
  intro name rest
  have hparts : name.toList.splitOn '.' = [['a', '\x60'], [], ['\x60'], []] := by decide +kernel
  refine ⟨by decide +kernel, ?_⟩
  rw [← hparts]
  exact reading_undoes_identifier.1 name rest (by simp [rest])

end FilterQuery.Sql
