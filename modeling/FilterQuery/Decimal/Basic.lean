/-!
# Decimals

A decimal is an integer coefficient, below 2 to the power of 96 in size, and the number of its
digits that stand after the point, at most 28 of them. Trailing zeros are part of the value: `22.40`
and `22.4` are two decimals. There is one zero of each scale; it has no sign. No numeral is read as
a zero with a minus sign. Such zeros are left out, although a value that is put together without a
query could be one.
-/

namespace FilterQuery

/-- Every coefficient is smaller than this in size: 2 to the power of 96. -/
abbrev Decimal.bound : Nat := 79228162514264337593543950336

/-- The greatest number of digits after the point. -/
abbrev Decimal.maxScale : Nat := 28

/-- The decimal `coefficient / 10 ^ scale`, shown with `scale` digits after the point. -/
structure Decimal where
  coefficient : Int
  scale : Nat
  coefficient_lt : coefficient.natAbs < Decimal.bound
  scale_le : scale ≤ Decimal.maxScale
deriving DecidableEq

namespace Decimal

theorem natAbs_ite_neg (negative : Bool) (n : Nat) :
    (if negative then -(n : Int) else n).natAbs = n := by
  cases negative <;> simp

/-- The decimal with the given sign, size of the coefficient and scale, if both are in range. -/
def ofParts? (negative : Bool) (size scale : Nat) : Option Decimal :=
  if h : size < bound ∧ scale ≤ maxScale then
    some {
      coefficient := if negative then -(size : Int) else size
      scale
      coefficient_lt := by rw [natAbs_ite_neg]; exact h.1
      scale_le := h.2 }
  else
    none

/-- The integer `n` as a decimal, if it is in range. -/
def ofInt? (n : Int) : Option Decimal :=
  ofParts? (n < 0) n.natAbs 0

/-- The digits of the coefficient, with zeros in front so that one stands before the point. -/
def digits (d : Decimal) : List Char :=
  (Nat.toDigits 10 d.coefficient.natAbs).leftpad (d.scale + 1) '0'

/-- The decimal as it is written: a minus sign if it is negative, the digits, and a point before the
last `scale` of them. -/
def chars (d : Decimal) : List Char :=
  let whole := d.digits.take (d.digits.length - d.scale)
  let fraction := d.digits.drop (d.digits.length - d.scale)
  (if d.coefficient < 0 then ['-'] else []) ++ whole ++
    (if d.scale = 0 then [] else '.' :: fraction)

/-- The text of a decimal. -/
def text (d : Decimal) : String := String.ofList d.chars

end Decimal

end FilterQuery
