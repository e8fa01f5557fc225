import FilterQuery.Token.Spelling

/-!
# Numbers and dates are read back

What a numeral, a decimal or a date is written as is read as the same again.

* A text is read as a numeral exactly if it is what the numeral is written as
  (`Numeral.ofChars?_eq_some_iff`), and then its digits, read as one integer, are the coefficient as
  long as they fit (`Decimal.ofNumeral?_of_lt`). The digits of a decimal always fit.
* A text has the form of a date exactly if it can be split into year, month and day
  (`Date.parts?_eq_none_iff`), and the text of a date is split into its own.

No text has the form of both.
-/

namespace FilterQuery

/-! ### Runs of characters -/

section

variable {α : Type} {p : α → Bool} {run rest : List α}

/-- A run of elements with `p` ends where one without `p` follows. -/
theorem takeWhile_run (hrun : ∀ a ∈ run, p a = true) (hrest : ∀ a ∈ rest.head?, p a = false) :
    (run ++ rest).takeWhile p = run := by
  have hnil : rest.takeWhile p = [] := by
    cases rest with
    | nil => rfl
    | cons a as => simp [hrest a (by simp)]
  rw [List.takeWhile_append_of_pos hrun, hnil, List.append_nil]

theorem dropWhile_run (hrun : ∀ a ∈ run, p a = true) (hrest : ∀ a ∈ rest.head?, p a = false) :
    (run ++ rest).dropWhile p = rest := by
  rw [List.dropWhile_append_of_pos hrun]
  cases rest with
  | nil => rfl
  | cons a as => simp [hrest a (by simp)]

end

/-! ### Numerals -/

namespace Numeral

variable {n : Numeral} {cs : List Char}

theorem WellFormed.exists_whole_eq_cons (h : n.WellFormed) :
    ∃ c cs, n.whole = c :: cs ∧ c.isDigit = true := by
  cases hw : n.whole with
  | nil => exact absurd hw h.whole_ne_nil
  | cons c cs => exact ⟨c, cs, rfl, h.isDigit_whole c (by simp [hw])⟩

/-- The digits before the point end at the point, or at the end. -/
theorem not_isDigit_head_fraction (n : Numeral) :
    ∀ c ∈ (if n.fraction = [] then [] else '.' :: n.fraction).head?, c.isDigit = false := by
  split
  · simp
  · simp

theorem ofUnsigned?_unsignedChars (h : n.WellFormed) :
    ofUnsigned? n.negative n.unsignedChars = some n := by
  obtain ⟨c, cs, hw, -⟩ := h.exists_whole_eq_cons
  have htake : n.unsignedChars.takeWhile Char.isDigit = n.whole :=
    takeWhile_run h.isDigit_whole n.not_isDigit_head_fraction
  have hdrop : n.unsignedChars.dropWhile Char.isDigit =
      if n.fraction = [] then [] else '.' :: n.fraction :=
    dropWhile_run h.isDigit_whole n.not_isDigit_head_fraction
  unfold ofUnsigned?
  simp only [htake, hdrop]
  by_cases hf : n.fraction = []
  · simp only [if_pos hf, hw]
    rw [← hw, ← hf]
  · have hall : n.fraction.all Char.isDigit = true := List.all_eq_true.2 h.isDigit_fraction
    simp only [if_neg hf, hw]
    rw [if_pos ⟨hf, hall⟩, ← hw]

theorem of_ofUnsigned?_eq_some {negative : Bool} (h : ofUnsigned? negative cs = some n) :
    n.negative = negative ∧ n.WellFormed ∧ n.unsignedChars = cs := by
  have hsplit := List.takeWhile_append_dropWhile (p := Char.isDigit) (l := cs)
  have hdigits : ∀ c ∈ cs.takeWhile Char.isDigit, c.isDigit = true :=
    List.all_eq_true.1 List.all_takeWhile
  unfold ofUnsigned? at h
  simp only at h
  split at h
  · cases h
  · next hdrop hne =>
    cases h
    rw [hdrop, List.append_nil] at hsplit
    exact ⟨rfl, ⟨hne, hdigits, by simp⟩, by simp [unsignedChars, hsplit]⟩
  · next fraction hdrop hne =>
    split at h
    · next hf =>
      cases h
      rw [hdrop] at hsplit
      exact ⟨rfl, ⟨hne, hdigits, List.all_eq_true.1 hf.2⟩, by simp [unsignedChars, hf.1, hsplit]⟩
    · cases h
  · cases h

theorem ofChars?_of_head_ne (h : ∀ c ∈ cs.head?, c ≠ '-') : ofChars? cs = ofUnsigned? false cs := by
  unfold ofChars?
  split
  · next ds => exact absurd rfl (h '-' (by simp))
  · rfl

/-- Reading a numeral accepts exactly what writing one produces. -/
theorem ofChars?_eq_some_iff : ofChars? cs = some n ↔ n.WellFormed ∧ n.chars = cs := by
  constructor
  · intro h
    unfold ofChars? at h
    split at h
    · obtain ⟨hneg, hn, hcs⟩ := of_ofUnsigned?_eq_some h
      exact ⟨hn, by rw [chars, if_pos hneg, hcs]⟩
    · obtain ⟨hneg, hn, hcs⟩ := of_ofUnsigned?_eq_some h
      exact ⟨hn, by rw [chars, if_neg (by simp [hneg]), hcs]⟩
  · rintro ⟨hn, rfl⟩
    have hread := ofUnsigned?_unsignedChars hn
    cases hneg : n.negative with
    | true =>
      rw [chars, if_pos hneg]
      rw [hneg] at hread
      exact hread
    | false =>
      rw [chars, if_neg (by simp [hneg])]
      rw [hneg] at hread
      -- The first character is a digit, and so no minus sign.
      obtain ⟨c, cs, hw, hc⟩ := hn.exists_whole_eq_cons
      rw [ofChars?_of_head_ne, hread]
      intro d hd
      obtain rfl : c = d := by simpa [unsignedChars, hw] using hd
      rintro rfl
      exact absurd hc (by decide)

theorem ofChars?_eq_none_iff : ofChars? cs = none ↔ ¬HasNumberForm cs := by
  rw [Option.eq_none_iff_forall_ne_some]
  simp only [ne_eq, ofChars?_eq_some_iff, HasNumberForm, not_exists]

instance (cs : List Char) : Decidable (HasNumberForm cs) :=
  decidable_of_iff (¬ofChars? cs = none) (by rw [ofChars?_eq_none_iff, Classical.not_not])

end Numeral

/-! ### Digits with zeros in front -/

section

variable {w n : Nat}

theorem isDigit_of_mem_leftpad {c : Char} (h : c ∈ (Nat.toDigits 10 n).leftpad w '0') :
    c.isDigit = true := by
  rw [List.leftpad, List.mem_append] at h
  rcases h with h | h
  · rw [List.eq_of_mem_replicate h]
    rfl
  · exact Nat.isDigit_of_mem_toDigits (by decide) (by decide) h

/-- Zeros in front do not change the number. -/
theorem ofDigitChars_leftpad (w n : Nat) :
    Nat.ofDigitChars 10 ((Nat.toDigits 10 n).leftpad w '0') 0 = n := by
  rw [List.leftpad, Nat.ofDigitChars_append, Nat.ofDigitChars_replicate_zero, Nat.mul_zero,
    Nat.ofDigitChars_toDigits (by decide) (by decide)]

end

/-! ### Decimals -/

namespace Decimal

theorem ofDigitChars_cons_eq (size : Nat) (c : Char) (cs : List Char) :
    Nat.ofDigitChars 10 (c :: cs) size = Nat.ofDigitChars 10 cs (10 * size + digitValue c) :=
  Nat.ofDigitChars_cons

/-- More digits do not make a number smaller. -/
theorem le_ofDigitChars (size : Nat) (cs : List Char) : size ≤ Nat.ofDigitChars 10 cs size := by
  induction cs generalizing size with
  | nil => exact Nat.le_refl _
  | cons c cs ih =>
    have h := ih (10 * size + digitValue c)
    rw [ofDigitChars_cons_eq]
    omega

theorem readWhole_of_lt {size : Nat} {cs : List Char} (h : Nat.ofDigitChars 10 cs size < bound) :
    readWhole size cs = some (Nat.ofDigitChars 10 cs size) := by
  induction cs generalizing size with
  | nil => rfl
  | cons c cs ih =>
    rw [ofDigitChars_cons_eq] at h ⊢
    -- A number that fits has no beginning that does not fit.
    have hnext : 10 * size + digitValue c < bound := Nat.lt_of_le_of_lt (le_ofDigitChars _ cs) h
    rw [readWhole, if_pos hnext]
    exact ih h

theorem readFraction_of_lt {size scale : Nat} {cs : List Char}
    (h : Nat.ofDigitChars 10 cs size < bound) (hscale : scale + cs.length ≤ maxScale) :
    readFraction size scale cs = some (Nat.ofDigitChars 10 cs size, scale + cs.length) := by
  induction cs generalizing size scale with
  | nil => rfl
  | cons c cs ih =>
    rw [List.length_cons] at hscale
    rw [ofDigitChars_cons_eq] at h ⊢
    have hnext : 10 * size + digitValue c < bound := Nat.lt_of_le_of_lt (le_ofDigitChars _ cs) h
    have hlt : scale < maxScale := by omega
    have hlength : scale + 1 + cs.length ≤ maxScale := by omega
    rw [readFraction, if_pos ⟨hlt, hnext⟩, ih h hlength, List.length_cons, Nat.add_right_comm,
      Nat.add_assoc]

/-- A numeral whose digits fit is read without rounding. -/
theorem ofNumeral?_of_lt {n : Numeral}
    (h : Nat.ofDigitChars 10 (n.whole ++ n.fraction) 0 < bound)
    (hscale : n.fraction.length ≤ maxScale) :
    ofNumeral? n =
      ofParts? n.negative (Nat.ofDigitChars 10 (n.whole ++ n.fraction) 0) n.fraction.length := by
  rw [Nat.ofDigitChars_append] at h ⊢
  have hwhole := readWhole_of_lt (Nat.lt_of_le_of_lt (le_ofDigitChars _ n.fraction) h)
  have hfraction : readFraction (Nat.ofDigitChars 10 n.whole 0) 0 n.fraction =
      some (Nat.ofDigitChars 10 n.fraction (Nat.ofDigitChars 10 n.whole 0),
        0 + n.fraction.length) :=
    readFraction_of_lt h (by rwa [Nat.zero_add])
  rw [ofNumeral?, hwhole]
  simp only [Option.bind_eq_bind, Option.bind_some, hfraction, Nat.zero_add]

variable (d : Decimal)

/-- The numeral that a decimal is written as. -/
def numeral : Numeral where
  negative := decide (d.coefficient < 0)
  whole := d.digits.take (d.digits.length - d.scale)
  fraction := d.digits.drop (d.digits.length - d.scale)

theorem scale_lt_length_digits : d.scale < d.digits.length := by
  rw [digits, List.length_leftpad]
  omega

theorem length_fraction_numeral : d.numeral.fraction.length = d.scale := by
  have h := d.scale_lt_length_digits
  rw [numeral, List.length_drop]
  omega

theorem whole_append_fraction_numeral : d.numeral.whole ++ d.numeral.fraction = d.digits :=
  List.take_append_drop _ _

theorem numeral_wellFormed : d.numeral.WellFormed where
  whole_ne_nil := by
    have h := d.scale_lt_length_digits
    apply List.ne_nil_of_length_pos
    rw [numeral, List.length_take]
    omega
  isDigit_whole _ h := isDigit_of_mem_leftpad (List.mem_of_mem_take h)
  isDigit_fraction _ h := isDigit_of_mem_leftpad (List.mem_of_mem_drop h)

theorem chars_numeral : d.numeral.chars = d.chars := by
  have hfraction : d.numeral.fraction = [] ↔ d.scale = 0 := by
    rw [← List.length_eq_zero_iff, length_fraction_numeral]
  unfold Numeral.chars Numeral.unsignedChars chars
  simp only [hfraction]
  by_cases h : d.coefficient < 0 <;> simp [numeral, h]

/-- A sign and a size are those of a coefficient. -/
theorem ofParts?_coefficient :
    ofParts? (decide (d.coefficient < 0)) d.coefficient.natAbs d.scale = some d := by
  have hcoefficient : (if decide (d.coefficient < 0) = true then -(d.coefficient.natAbs : Int)
      else d.coefficient.natAbs) = d.coefficient := by
    split
    · next h =>
      have := of_decide_eq_true h
      omega
    · next h =>
      have := of_decide_eq_false (Bool.eq_false_iff.2 h)
      omega
  rw [ofParts?, dif_pos ⟨d.coefficient_lt, d.scale_le⟩]
  simp only [hcoefficient]

theorem ofDigitChars_numeral :
    Nat.ofDigitChars 10 (d.numeral.whole ++ d.numeral.fraction) 0 = d.coefficient.natAbs := by
  rw [whole_append_fraction_numeral]
  exact ofDigitChars_leftpad _ _

theorem ofNumeral?_numeral : ofNumeral? d.numeral = some d := by
  rw [ofNumeral?_of_lt, ofDigitChars_numeral, length_fraction_numeral]
  · exact d.ofParts?_coefficient
  · rw [ofDigitChars_numeral]
    exact d.coefficient_lt
  · rw [length_fraction_numeral]
    exact d.scale_le

theorem ofChars?_chars : Numeral.ofChars? d.chars = some d.numeral :=
  Numeral.ofChars?_eq_some_iff.2 ⟨d.numeral_wellFormed, d.chars_numeral⟩

end Decimal

/-! ### Dates -/

namespace Date

theorem parts?_of_form {year month day : List Char} (hyear : year.length = 4)
    (hmonth : month.length = 2) (hday : day.length = 2)
    (hdigits : ∀ c ∈ year ++ month ++ day, c.isDigit = true) :
    parts? (year ++ '-' :: (month ++ '-' :: day)) =
      some (Nat.ofDigitChars 10 year 0, Nat.ofDigitChars 10 month 0,
        Nat.ofDigitChars 10 day 0) := by
  match year, month, day, hyear, hmonth, hday with
  | [y₁, y₂, y₃, y₄], [m₁, m₂], [d₁, d₂], _, _, _ =>
    exact if_pos (List.all_eq_true.2 hdigits)

theorem hasDateForm_of_parts? {cs : List Char} {parts : Nat × Nat × Nat}
    (h : parts? cs = some parts) : HasDateForm cs := by
  unfold parts? at h
  split at h
  · next y₁ y₂ y₃ y₄ m₁ m₂ d₁ d₂ =>
    split at h
    · next hdigits =>
      exact ⟨[y₁, y₂, y₃, y₄], [m₁, m₂], [d₁, d₂], rfl, rfl, rfl, rfl,
        List.all_eq_true.1 hdigits⟩
    · cases h
  · cases h

theorem parts?_eq_none_iff {cs : List Char} : parts? cs = none ↔ ¬HasDateForm cs := by
  constructor
  · rintro h ⟨year, month, day, rfl, hyear, hmonth, hday, hdigits⟩
    rw [parts?_of_form hyear hmonth hday hdigits] at h
    cases h
  · intro h
    rw [Option.eq_none_iff_forall_ne_some]
    intro parts hparts
    exact h (hasDateForm_of_parts? hparts)

instance (cs : List Char) : Decidable (HasDateForm cs) :=
  decidable_of_iff (¬parts? cs = none) (by rw [parts?_eq_none_iff, Classical.not_not])

theorem month_le_and_day_le (d : Date) : d.month ≤ 12 ∧ d.day ≤ 31 := by
  have hpos := d.day_pos
  have hle := d.day_le
  unfold daysInMonth at hle
  repeat' split at hle
  all_goals omega

theorem length_padded {w n : Nat} (h : (Nat.toDigits 10 n).length ≤ w) : (padded w n).length = w := by
  rw [padded, List.length_leftpad]
  omega

variable (d : Date)

theorem length_padded_year : (padded 4 d.year).length = 4 :=
  length_padded ((Nat.length_toDigits_le_iff (by decide) (by decide)).2
    (Nat.lt_succ_of_le d.year_le))

theorem length_padded_month : (padded 2 d.month).length = 2 :=
  length_padded ((Nat.length_toDigits_le_iff (by decide) (by decide)).2
    (Nat.lt_of_le_of_lt d.month_le_and_day_le.1 (by decide)))

theorem length_padded_day : (padded 2 d.day).length = 2 :=
  length_padded ((Nat.length_toDigits_le_iff (by decide) (by decide)).2
    (Nat.lt_of_le_of_lt d.month_le_and_day_le.2 (by decide)))

theorem isDigit_of_mem_padded {c : Char}
    (h : c ∈ padded 4 d.year ++ padded 2 d.month ++ padded 2 d.day) : c.isDigit = true := by
  rw [List.mem_append, List.mem_append] at h
  rcases h with (h | h) | h
  all_goals exact isDigit_of_mem_leftpad h

theorem parts?_chars : parts? d.chars = some (d.year, d.month, d.day) := by
  rw [chars, parts?_of_form d.length_padded_year d.length_padded_month d.length_padded_day
    fun _ => d.isDigit_of_mem_padded]
  simp only [padded, ofDigitChars_leftpad]

theorem ofParts?_self : ofParts? d.year d.month d.day = some d :=
  dif_pos ⟨d.year_le, d.day_pos, d.day_le⟩

end Date

/-- A number has a minus sign in front only, and a date has a dash behind digits. -/
theorem not_hasDateForm_of_hasNumberForm {cs : List Char} (h : HasNumberForm cs) :
    ¬HasDateForm cs := by
  obtain ⟨n, hn, rfl⟩ := h
  rintro ⟨year, month, day, hcs, hyear, -, -, hdigits⟩
  have hdigits : ∀ c ∈ year, c.isDigit = true := fun c hc => hdigits c (by simp [hc])
  have hdate : n.chars.dropWhile Char.isDigit = '-' :: (month ++ '-' :: day) := by
    rw [hcs]
    exact dropWhile_run hdigits (by simp)
  cases hneg : n.negative with
  | true =>
    -- The sign would be the first digit of the year.
    rw [Numeral.chars, if_pos hneg] at hcs
    cases year with
    | nil => cases hyear
    | cons y ys =>
      obtain ⟨rfl, -⟩ := List.cons.inj hcs
      exact absurd (hdigits '-' (by simp)) (by decide)
  | false =>
    -- Behind its first digits stands a point, or nothing.
    rw [Numeral.chars, if_neg (by simp [hneg]), Numeral.unsignedChars,
      dropWhile_run hn.isDigit_whole n.not_isDigit_head_fraction] at hdate
    split at hdate <;> simp at hdate

end FilterQuery
