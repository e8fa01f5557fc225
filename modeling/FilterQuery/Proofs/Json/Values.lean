import FilterQuery.Proofs.Decimal.Digits
import FilterQuery.Proofs.Json.Documents
import FilterQuery.Value.Json

/-!
# Values survive JSON

The text of a decimal is always a number of JSON: a zero in front stands alone before the point, and
there are digits on both sides of the point (`Json.isNumber_chars`). So numbers are written as
numbers, with all their digits, and a value is read back from its document, with its dates as texts.
-/

namespace FilterQuery

/-! ### Decimals as numbers -/

/-- Digits without zeros in front are a zero, or start with another digit. -/
theorem trimZeros_cases (ds : List Char) :
    trimZeros ds = ['0'] ∨ ∃ e es, trimZeros ds = e :: es ∧ e ≠ '0' := by
  have hhead := List.head?_dropWhile_not (· == '0') ds
  unfold trimZeros
  split
  · exact .inl rfl
  · next e es hdrop =>
    rw [hdrop] at hhead
    exact .inr ⟨e, es, rfl, by simpa using hhead⟩

namespace Json

theorem isFraction_tail {fraction : List Char} (h : ∀ c ∈ fraction, c.isDigit = true) :
    isFraction (if fraction = [] then [] else '.' :: fraction) = true := by
  by_cases hnil : fraction = []
  · rw [if_pos hnil]
    rfl
  · have htake : (fraction ++ []).takeWhile Char.isDigit = fraction := takeWhile_run h nofun
    have hdrop : (fraction ++ []).dropWhile Char.isDigit = [] := dropWhile_run h nofun
    rw [List.append_nil] at htake hdrop
    rw [if_neg hnil, isFraction, htake, hdrop]
    simp [hnil, isExponent]

theorem isUnsigned_of_ne {c : Char} (h : c ≠ '0') (cs : List Char) :
    isUnsigned (c :: cs) = (c.isDigit && isFraction (cs.dropWhile Char.isDigit)) := by
  rw [isUnsigned]
  exact h

theorem isNumber_of_ne {c : Char} (h : c ≠ '-') (cs : List Char) :
    isNumber (c :: cs) = isUnsigned (c :: cs) := by
  rw [isNumber]
  exact fun _ heq => h (List.cons.inj heq).1

theorem isUnsigned_unsignedChars {n : Numeral} (hn : n.WellFormed)
    (hwhole : trimZeros n.whole = n.whole) : isUnsigned n.unsignedChars = true := by
  have hfraction := isFraction_tail hn.isDigit_fraction
  have hdigits := hn.isDigit_whole
  have hcases := trimZeros_cases n.whole
  rw [hwhole] at hcases
  rw [Numeral.unsignedChars]
  rcases hcases with hzero | ⟨e, es, hes, hne⟩
  · rw [hzero]
    exact hfraction
  · rw [hes, List.forall_mem_cons] at hdigits
    rw [hes, List.cons_append, isUnsigned_of_ne hne,
      dropWhile_run hdigits.2 n.not_isDigit_head_fraction, hdigits.1, hfraction]
    rfl

/-- A decimal is written as a number. -/
theorem isNumber_chars (d : Decimal) : isNumber d.chars = true := by
  have hwhole : trimZeros d.numeral.whole = d.numeral.whole :=
    congrArg Numeral.whole d.plain_numeral
  have hunsigned := isUnsigned_unsignedChars d.numeral_wellFormed hwhole
  rw [← d.chars_numeral, Numeral.chars]
  split
  · exact hunsigned
  · obtain ⟨c, cs, hcs, hc⟩ := d.numeral_wellFormed.exists_whole_eq_cons
    rw [Numeral.unsignedChars, hcs, List.cons_append] at hunsigned ⊢
    rw [isNumber_of_ne, hunsigned]
    rintro rfl
    exact absurd hc (by decide)

end Json

/-! ### Values -/

theorem Decimal.ofText?_text (d : Decimal) : ofText? d.text = some d := by
  rw [ofText?, text, String.toList_ofList, d.ofChars?_chars, Option.bind_some,
    d.ofNumeral?_numeral]

namespace Value

/-- A number never has to be written as a string. -/
theorem toJson_number (d : Decimal) : toJson (.number d) = .number d.text := by
  rw [toJson, if_pos (Json.isNumber_chars d)]

mutual

theorem valid_toJson (v : Value) : v.toJson.Valid := by
  match v with
  | .string s => exact .string s
  | .number d =>
    rw [toJson_number]
    apply Json.Valid.number
    rw [Decimal.text, String.toList_ofList]
    exact Json.isNumber_chars d
  | .boolean b => exact .bool b
  | .date d => exact .string d.text
  | .list members => exact .array (valid_toJsons members)
termination_by sizeOf v

theorem valid_toJsons (vs : List Value) : ∀ j ∈ toJsons vs, j.Valid := by
  match vs with
  | [] => exact nofun
  | v :: vs => exact List.forall_mem_cons.2 ⟨valid_toJson v, valid_toJsons vs⟩
termination_by sizeOf vs

end

mutual

theorem ofJson?_toJson (v : Value) : ofJson? v.toJson = some v.datesAsText := by
  match v with
  | .string s => rfl
  | .number d =>
    rw [toJson_number, ofJson?, d.ofText?_text]
    rfl
  | .boolean b => rfl
  | .date d => rfl
  | .list members =>
    rw [toJson, ofJson?, ofJsons?_toJsons members]
    rfl
termination_by sizeOf v

theorem ofJsons?_toJsons (vs : List Value) : ofJsons? (toJsons vs) = some (allDatesAsText vs) := by
  match vs with
  | [] => rfl
  | v :: vs =>
    rw [toJsons, ofJsons?, ofJson?_toJson v, ofJsons?_toJsons vs]
    rfl
termination_by sizeOf vs

end

/-- Numbers are written as numbers, and every value is read back from the text of its document, with
its dates as texts. A reader only has to allow the depth of the document. -/
theorem reading_undoes_json :
    (∀ d : Decimal, Json.isNumber d.chars = true ∧ toJson (.number d) = .number d.text) ∧
    ∀ (v : Value) (maxDepth : Nat),
      (Json.parse? v.toJson.compact maxDepth).bind ofJson? =
        if v.toJson.depth ≤ maxDepth then some v.datesAsText else none := by
  refine ⟨fun d => ⟨Json.isNumber_chars d, toJson_number d⟩, ?_⟩
  intro v maxDepth
  rw [Json.parse?_compact v.valid_toJson]
  by_cases h : v.toJson.depth ≤ maxDepth
  · rw [if_pos h, if_pos h, Option.bind_some, ofJson?_toJson]
  · rw [if_neg h, if_neg h, Option.bind_none]

end Value

end FilterQuery
