import FilterQuery.Proofs.Json.Values
import FilterQuery.Proofs.Value.Lists
import FilterQuery.Sql.Term

/-!
# Numbers are shown as they are written

A word of the form of a number is shown with the digits that it is written with, wherever numbers
are shown, be it on their own or inside lists. Only superfluous zeros in front go, and the sign of a
zero. This holds as long as all digits fit a decimal. If those before the point do not fit, the word
is an error.
-/

namespace FilterQuery

variable {n : Numeral}

/-- The lexer reads a word of the form of a number up to where it ends. -/
theorem Lexer.next_numeral (hn : n.WellFormed) {gap rest : List Char}
    (hgap : ∀ c ∈ gap, Text.isBlank c = true) (hrest : ∀ c ∈ rest.head?, isDelimiter c = true)
    (position : Nat) :
    (Lexer.mk (gap ++ (n.chars ++ rest)) position).next =
      (classify (String.ofList n.chars) (position + gap.length),
        ⟨rest, position + gap.length + n.chars.length⟩) := by
  have hbare := isBare_numeral hn
  have hblank : ∀ c ∈ (n.chars ++ rest).head?, Text.isBlank c = false := by
    obtain ⟨c, cs, hcs⟩ := List.exists_cons_of_ne_nil hbare.ne_nil
    have hc := hbare.not_isDelimiter c (by simp [hcs])
    rw [hcs]
    simpa using (isDelimiter_eq_false_iff.1 hc).1
  rw [next_append_blanks hgap hblank, next_of_isBare hbare hrest]

/-- A number has one text, which all outputs show. -/
theorem Decimal.outputs_eq_text (d : Decimal) :
    Value.text (.number d) = d.text ∧ Sql.literal (.number d) = d.text ∧
      (Value.toJson (.number d)).compact = d.text := by
  refine ⟨by rw [Value.text], by rw [Sql.literal, Sql.literalChars, text], ?_⟩
  rw [Value.toJson_number, Json.compact, Json.lexemes]
  simp [Json.Lexeme.chars]

/-- A word of the form of a number, of which all digits fit, is a number and is shown as it is
written: in the plain text of a statement, as a literal and in a document. So it is at any place
inside lists, which are shown with all their members. If the digits before the point do not fit, the
word is an error. -/
theorem numbers_show_as_written (n : Numeral) (hn : n.WellFormed) (gap rest : List Char)
    (hgap : ∀ c ∈ gap, Text.isBlank c = true)
    (hrest : ∀ c ∈ rest.head?, Lexer.isDelimiter c = true) (position : Nat) :
    (Nat.ofDigitChars 10 (n.whole ++ n.fraction) 0 < Decimal.bound →
      n.fraction.length ≤ Decimal.maxScale →
      ∃ d, (Lexer.mk (gap ++ (n.chars ++ rest)) position).next =
          (.ok (.number d), ⟨rest, position + gap.length + n.chars.length⟩) ∧
        ∀ place : Place,
          (place.fill (.number d)).text = place.shown .sql Value.text n.shown ∧
          (∀ field symbol, (Sql.Term.operator field symbol (place.fill (.number d))).plain =
            field ++ " " ++ symbol ++ " " ++ place.shown .sql Value.text n.shown) ∧
          (∀ field, (Sql.Term.like field (place.fill (.number d))).plain =
            field ++ " LIKE '%" ++ place.shown .sql Value.text n.shown ++ "%'") ∧
          Sql.literal (place.fill (.number d)) = place.shown .sql Sql.literal n.shown ∧
          (place.fill (.number d)).toJson.compact =
            place.shown .json (fun v => v.toJson.compact) n.shown) ∧
    (Decimal.bound ≤ Nat.ofDigitChars 10 n.whole 0 →
      (Lexer.mk (gap ++ (n.chars ++ rest)) position).next =
        (.error (.invalidNumber (String.ofList n.chars) (position + gap.length)),
          ⟨rest, position + gap.length + n.chars.length⟩)) := by
  rw [Lexer.next_numeral hn hgap hrest, Lexer.classify_numeral hn]
  constructor
  · intro hsize hscale
    obtain ⟨d, hd, hplain⟩ := Decimal.exists_numeral_eq_plain hn hsize hscale
    obtain ⟨htext, hliteral, hjson⟩ := d.outputs_eq_text
    rw [Decimal.text_of_numeral_eq hplain] at htext hliteral hjson
    refine ⟨d, by rw [hd, Option.elim_some], fun place => ?_⟩
    have hplace : (place.fill (.number d)).text = place.shown .sql Value.text n.shown := by
      rw [Place.render_fill .sql Value.text Value.text_list, htext]
    refine ⟨hplace, ?_, ?_, ?_, ?_⟩
    · intro field symbol
      rw [Sql.Term.plain, hplace]
    · intro field
      rw [Sql.Term.plain, hplace]
    · rw [Place.render_fill .sql Sql.literal Sql.literal_list, hliteral]
    · rw [Place.render_fill .json (fun v => v.toJson.compact) Value.compact_toJson_list, hjson]
  · intro hsize
    rw [Decimal.ofNumeral?_of_le hsize, Option.elim_none]

/-- Zeros in front go and those behind the point stay, a zero has no sign, and a number at the limit
is out of range whatever stands behind its point. Inside lists, one in the other, two numbers are
shown as they are on their own. -/
theorem numbers_show_as_written_of_zeros_and_limit :
    (∃ d e, (Lexer.mk "007.50,[ -3]]".toList 3).next =
        (.ok (.number d), ⟨",[ -3]]".toList, 9⟩) ∧
      (Lexer.mk " -3]]".toList 11).next = (.ok (.number e), ⟨"]]".toList, 14⟩) ∧
      (Sql.Term.operator "a" "=" (.list [.number d, .list [.number e]])).plain =
        "a = (7.50, (-3))" ∧
      Sql.literal (.list [.number d, .list [.number e]]) = "(7.50, (-3))" ∧
      (Value.list [.number d, .list [.number e]]).toJson.compact = "[7.50,[-3]]") ∧
    (∃ d, (Lexer.ofSource "-00.000").next = (.ok (.number d), ⟨[], 7⟩) ∧
      (Sql.Term.like "price" (.number d)).plain = "price LIKE '%0.000%'" ∧
      Sql.literal (.number d) = "0.000" ∧ (Value.toJson (.number d)).compact = "0.000") ∧
    (Lexer.ofSource "79228162514264337593543950336.5").next =
      (.error (.invalidNumber "79228162514264337593543950336.5" 0), ⟨[], 31⟩) := by
  let price : Numeral := ⟨false, ['0', '0', '7'], ['5', '0']⟩
  let count : Numeral := ⟨true, ['3'], []⟩
  let zero : Numeral := ⟨true, ['0', '0'], ['0', '0', '0']⟩
  let limit : Numeral := ⟨false, "79228162514264337593543950336".toList, ['5']⟩
  have hprice : price.WellFormed :=
    ⟨List.cons_ne_nil _ _, List.all_eq_true.1 rfl, List.all_eq_true.1 rfl⟩
  have hcount : count.WellFormed :=
    ⟨List.cons_ne_nil _ _, List.all_eq_true.1 rfl, List.all_eq_true.1 rfl⟩
  have hzero : zero.WellFormed :=
    ⟨List.cons_ne_nil _ _, List.all_eq_true.1 rfl, List.all_eq_true.1 rfl⟩
  have hlimit : limit.WellFormed :=
    ⟨by decide +kernel, List.all_eq_true.1 (by decide +kernel), List.all_eq_true.1 rfl⟩
  refine ⟨?_, ?_, ?_⟩
  · obtain ⟨d, hnext, hd⟩ :=
      (numbers_show_as_written price hprice [] ",[ -3]]".toList (by simp)
        (by simp [Lexer.isDelimiter]) 3).1 (by decide +kernel) (by decide)
    obtain ⟨e, hnext', he⟩ :=
      (numbers_show_as_written count hcount [' '] "]]".toList (List.all_eq_true.1 rfl)
        (by simp [Lexer.isDelimiter]) 11).1 (by decide +kernel) (by decide)
    have hsource : "007.50,[ -3]]".toList = [] ++ (price.chars ++ ",[ -3]]".toList) := by
      decide +kernel
    have hsource' : " -3]]".toList = [' '] ++ (count.chars ++ "]]".toList) := by decide +kernel
    have hshown : price.shown = "7.50" := by decide +kernel
    have hshown' : count.shown = "-3" := by decide +kernel
    -- The inner list is shown first, and then stands behind the first number.
    obtain ⟨htext, -, -, hliteral', hjson'⟩ := he [([], [])]
    have hinner : (Value.list [.number e]).text = "(-3)" := htext.trans (hshown' ▸ rfl)
    have hinnerLiteral : Sql.literal (.list [.number e]) = "(-3)" :=
      hliteral'.trans (hshown' ▸ rfl)
    have hinnerJson : (Value.list [.number e]).toJson.compact = "[-3]" :=
      hjson'.trans (hshown' ▸ rfl)
    obtain ⟨-, hplain, -, hliteral, hjson⟩ := hd [([], [.list [.number e]])]
    simp only [Place.shown, List.map_cons, List.map_nil, hinner, hinnerLiteral, hinnerJson, hshown]
      at hplain hliteral hjson
    exact ⟨d, e, hsource ▸ hnext, hsource' ▸ hnext', hplain "a" "=", hliteral, hjson⟩
  · obtain ⟨d, hnext, hd⟩ :=
      (numbers_show_as_written zero hzero [] [] (by simp) (by simp) 0).1 (by decide +kernel)
        (by decide)
    obtain ⟨-, -, hlike, hliteral, hjson⟩ := hd []
    have hshown : zero.shown = "0.000" := by decide +kernel
    rw [hshown] at hlike hliteral hjson
    refine ⟨d, ?_, hlike "price", hliteral, hjson⟩
    have hsource : "-00.000".toList = [] ++ (zero.chars ++ []) := by decide +kernel
    rw [Lexer.ofSource, hsource]
    exact hnext
  · have hnext := (numbers_show_as_written limit hlimit [] [] (by simp) (by simp) 0).2
      (by decide +kernel)
    have hsource : "79228162514264337593543950336.5".toList = [] ++ (limit.chars ++ []) := by
      decide +kernel
    have htext : String.ofList limit.chars = "79228162514264337593543950336.5" := by decide +kernel
    rw [htext] at hnext
    rw [Lexer.ofSource, hsource, hnext]
    rfl

end FilterQuery
