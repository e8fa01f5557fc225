import FilterQuery.Proofs.Lexing.Spelling

/-!
# The digits of a decimal

A numeral in range is read into a decimal that is written with the same digits, but for zeros in
front (`Decimal.exists_numeral_eq_plain`). Two things meet here.

* Reading and writing a natural number takes its digits to themselves without the zeros in front
  (`toDigits_ofDigitChars`).
* Writing a decimal puts zeros back, so that one digit stands before the point, and no others
  (`leftpad_trimZeros`).
-/

namespace FilterQuery

/-! ### Zeros in front -/

/-- Digits without the zeros in front. Of nothing but zeros one stays. -/
def trimZeros (ds : List Char) : List Char :=
  match ds.dropWhile (· == '0') with
  | [] => ['0']
  | d :: ds => d :: ds

theorem trimZeros_zero_cons (ds : List Char) : trimZeros ('0' :: ds) = trimZeros ds := rfl

theorem trimZeros_cons_of_ne {d : Char} (h : d ≠ '0') (ds : List Char) :
    trimZeros (d :: ds) = d :: ds := by
  rw [trimZeros, List.dropWhile_cons_of_neg (by simpa using h)]

/-- Behind zeros in front of the point, what is behind the point can be filled up again. -/
theorem leftpad_trimZeros_of_zeros (ds : List Char) :
    (trimZeros ds).length ≤ ds.length + 1 ∧
      (trimZeros ds).leftpad (ds.length + 1) '0' = '0' :: ds := by
  induction ds with
  | nil => exact ⟨Nat.le_refl _, rfl⟩
  | cons d ds ih =>
    by_cases hd : d = '0'
    · subst hd
      obtain ⟨hlength, hpad⟩ := ih
      rw [trimZeros_zero_cons, List.length_cons]
      refine ⟨by omega, ?_⟩
      rw [List.leftpad, Nat.succ_sub hlength, List.replicate_succ, List.cons_append]
      rw [← hpad]
      rfl
    · rw [trimZeros_cons_of_ne hd]
      refine ⟨by simp, ?_⟩
      simp [List.leftpad]

/-- Zeros in front are cut off, and put back as far as they are needed for a digit to stand in front
of the point. -/
theorem leftpad_trimZeros {whole : List Char} (h : whole ≠ []) (fraction : List Char) :
    (trimZeros (whole ++ fraction)).leftpad (fraction.length + 1) '0' =
      trimZeros whole ++ fraction := by
  induction whole with
  | nil => exact absurd rfl h
  | cons d whole ih =>
    by_cases hd : d = '0'
    · subst hd
      rw [List.cons_append, trimZeros_zero_cons, trimZeros_zero_cons]
      cases whole with
      | nil => exact (leftpad_trimZeros_of_zeros fraction).2
      | cons e whole => exact ih (by simp)
    · rw [List.cons_append, trimZeros_cons_of_ne hd, trimZeros_cons_of_ne hd]
      have hlength : fraction.length + 1 ≤ (d :: (whole ++ fraction)).length := by simp
      rw [List.leftpad, Nat.sub_eq_zero_of_le hlength]
      rfl

/-! ### Natural numbers -/

section

variable {c : Char} (h : c.isDigit = true)

include h

theorem digitValue_lt_ten : Decimal.digitValue c < 10 := by
  have hc := toNat_of_isDigit h
  show c.toNat - 48 < 10
  omega

theorem toDigits_digitValue : Nat.toDigits 10 (Decimal.digitValue c) = [c] := by
  have hc := toNat_of_isDigit h
  have hlt := digitValue_lt_ten h
  rw [Nat.toDigits_of_lt_base hlt, List.singleton_inj, ← Char.toNat_inj,
    Nat.toNat_digitChar_of_lt_ten hlt]
  show 48 + (c.toNat - 48) = c.toNat
  omega

theorem digitValue_pos (hne : c ≠ '0') : 0 < Decimal.digitValue c := by
  have hc := toNat_of_isDigit h
  have hcode : c.toNat ≠ 48 := fun heq => hne (Char.toNat_inj.1 heq)
  show 0 < c.toNat - 48
  omega

end

/-- Digits that are read behind a number are written behind it. -/
theorem toDigits_ofDigitChars_of_pos {size : Nat} (hsize : 0 < size) {ds : List Char}
    (h : ∀ c ∈ ds, c.isDigit = true) :
    Nat.toDigits 10 (Nat.ofDigitChars 10 ds size) = Nat.toDigits 10 size ++ ds := by
  induction ds generalizing size with
  | nil => simp
  | cons c ds ih =>
    rw [List.forall_mem_cons] at h
    rw [Decimal.ofDigitChars_cons_eq, ih (by omega) h.2,
      ← Nat.toDigits_append_toDigits (by decide) hsize (digitValue_lt_ten h.1),
      toDigits_digitValue h.1, List.append_assoc]
    rfl

/-- A number is written with the digits that it was read from, without the zeros in front. -/
theorem toDigits_ofDigitChars {ds : List Char} (h : ∀ c ∈ ds, c.isDigit = true) :
    Nat.toDigits 10 (Nat.ofDigitChars 10 ds 0) = trimZeros ds := by
  induction ds with
  | nil => rfl
  | cons c ds ih =>
    rw [List.forall_mem_cons] at h
    rw [Decimal.ofDigitChars_cons_eq]
    by_cases hc : c = '0'
    · subst hc
      rw [trimZeros_zero_cons, ← ih h.2]
      rfl
    · rw [trimZeros_cons_of_ne hc, Nat.mul_zero, Nat.zero_add,
        toDigits_ofDigitChars_of_pos (digitValue_pos h.1 hc) h.2, toDigits_digitValue h.1]
      rfl

theorem ofDigitChars_eq_zero_iff {ds : List Char} (h : ∀ c ∈ ds, c.isDigit = true) :
    Nat.ofDigitChars 10 ds 0 = 0 ↔ ∀ c ∈ ds, c = '0' := by
  induction ds with
  | nil => simp
  | cons c ds ih =>
    rw [List.forall_mem_cons] at h ⊢
    by_cases hc : c = '0'
    · subst hc
      rw [Decimal.ofDigitChars_cons_eq]
      show Nat.ofDigitChars 10 ds 0 = 0 ↔ _
      simpa using ih h.2
    · have hpos := digitValue_pos h.1 hc
      have hle := Decimal.le_ofDigitChars (10 * 0 + Decimal.digitValue c) ds
      rw [Decimal.ofDigitChars_cons_eq]
      constructor
      · intro hzero
        omega
      · intro hzero
        exact absurd hzero.1 hc

/-! ### Decimals -/

/-- The numeral without superfluous zeros in front, and without its sign if there are nothing but
zeros. -/
def Numeral.plain (n : Numeral) : Numeral where
  negative := n.negative && (n.whole ++ n.fraction).any (· != '0')
  whole := trimZeros n.whole
  fraction := n.fraction

/-- The text that a numeral is shown as. -/
def Numeral.shown (n : Numeral) : String := String.ofList n.plain.chars

namespace Decimal

variable {n : Numeral} {d : Decimal}

theorem numeral_eq_plain (hn : n.WellFormed)
    (hcoefficient : d.coefficient =
      let size := Nat.ofDigitChars 10 (n.whole ++ n.fraction) 0
      if n.negative then -(size : Int) else size)
    (hscale : d.scale = n.fraction.length) : d.numeral = n.plain := by
  have hdigit : ∀ c ∈ n.whole ++ n.fraction, c.isDigit = true :=
    List.forall_mem_append.2 ⟨hn.isDigit_whole, hn.isDigit_fraction⟩
  have hdigits : d.digits = trimZeros n.whole ++ n.fraction := by
    rw [digits, hcoefficient, natAbs_ite_neg, hscale, toDigits_ofDigitChars hdigit,
      leftpad_trimZeros hn.whole_ne_nil]
  have hnegative : d.coefficient < 0 ↔
      n.negative = true ∧ (n.whole ++ n.fraction).any (· != '0') = true := by
    have hsize : (n.whole ++ n.fraction).any (· != '0') = true ↔
        Nat.ofDigitChars 10 (n.whole ++ n.fraction) 0 ≠ 0 := by
      rw [ne_eq, ofDigitChars_eq_zero_iff hdigit]
      simp only [List.any_eq_true, bne_iff_ne, ne_eq, Classical.not_forall, exists_prop]
    rw [hsize, hcoefficient]
    cases n.negative with
    | true => simp; omega
    | false => simp
  have htake : d.digits.take (d.digits.length - d.scale) = trimZeros n.whole := by
    rw [hdigits, hscale, List.length_append, Nat.add_sub_cancel, List.take_left]
  have hdrop : d.digits.drop (d.digits.length - d.scale) = n.fraction := by
    rw [hdigits, hscale, List.length_append, Nat.add_sub_cancel, List.drop_left]
  rw [numeral, htake, hdrop, Numeral.plain, Numeral.mk.injEq]
  refine ⟨?_, rfl, rfl⟩
  rw [Bool.eq_iff_iff, decide_eq_true_iff, hnegative, Bool.and_eq_true]

/-- A numeral in range is read into the decimal that is written with its digits. -/
theorem exists_numeral_eq_plain (hn : n.WellFormed)
    (hsize : Nat.ofDigitChars 10 (n.whole ++ n.fraction) 0 < bound)
    (hscale : n.fraction.length ≤ maxScale) :
    ∃ d, ofNumeral? n = some d ∧ d.numeral = n.plain := by
  rw [ofNumeral?_of_lt hsize hscale, ofParts?, dif_pos ⟨hsize, hscale⟩]
  exact ⟨_, rfl, numeral_eq_plain hn rfl rfl⟩

theorem text_of_numeral_eq (h : d.numeral = n.plain) : d.text = n.shown := by
  rw [text, ← d.chars_numeral, h, Numeral.shown]

/-- Decimals are written without superfluous zeros in front. -/
theorem plain_numeral (d : Decimal) : d.numeral.plain = d.numeral := by
  obtain ⟨d', hd', hplain⟩ := exists_numeral_eq_plain d.numeral_wellFormed
    (d.ofDigitChars_numeral ▸ d.coefficient_lt) (d.length_fraction_numeral ▸ d.scale_le)
  rw [d.ofNumeral?_numeral] at hd'
  cases hd'
  exact hplain.symm

theorem readWhole_of_le {size : Nat} {cs : List Char} (hsize : size < bound)
    (h : bound ≤ Nat.ofDigitChars 10 cs size) : readWhole size cs = none := by
  induction cs generalizing size with
  | nil =>
    rw [Nat.ofDigitChars_nil] at h
    omega
  | cons c cs ih =>
    rw [ofDigitChars_cons_eq] at h
    rw [readWhole]
    by_cases hnext : 10 * size + digitValue c < bound
    · rw [if_pos hnext, ih hnext h]
    · rw [if_neg hnext]

/-- A numeral whose digits before the point do not fit is not read. -/
theorem ofNumeral?_of_le (h : bound ≤ Nat.ofDigitChars 10 n.whole 0) : ofNumeral? n = none := by
  rw [ofNumeral?, readWhole_of_le (by decide) h]
  rfl

end Decimal

end FilterQuery
