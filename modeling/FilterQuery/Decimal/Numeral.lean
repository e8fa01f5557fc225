import FilterQuery.Decimal.Basic

/-!
# Numerals

A numeral is an optional minus sign, at least one digit, and optionally a point with at least one
digit behind it. It is read into a decimal digit by digit. Digits before the point must all fit the
coefficient. After the point the first digit that does not fit, for the size of the coefficient or
for the scale, rounds what was read so far, and the digits behind it do not count.
-/

namespace FilterQuery

/-- A number as it is written: its sign and its digits on both sides of the point. Without a point
`fraction` is empty. -/
structure Numeral where
  negative : Bool
  whole : List Char
  fraction : List Char
deriving DecidableEq, Repr

namespace Numeral

/-- Nothing but digits, of which at least one stands before the point. -/
structure WellFormed (n : Numeral) : Prop where
  whole_ne_nil : n.whole ≠ []
  isDigit_whole : ∀ c ∈ n.whole, c.isDigit = true
  isDigit_fraction : ∀ c ∈ n.fraction, c.isDigit = true

/-- The numeral as it is written, but for its sign. -/
def unsignedChars (n : Numeral) : List Char :=
  n.whole ++ (if n.fraction = [] then [] else '.' :: n.fraction)

/-- The numeral as it is written. -/
def chars (n : Numeral) : List Char :=
  if n.negative then '-' :: n.unsignedChars else n.unsignedChars

/-- Read the digits of an unsigned numeral. -/
def ofUnsigned? (negative : Bool) (cs : List Char) : Option Numeral :=
  let whole := cs.takeWhile Char.isDigit
  match whole, cs.dropWhile Char.isDigit with
  | [], _ => none
  | _, [] => some ⟨negative, whole, []⟩
  | _, '.' :: fraction =>
    if fraction ≠ [] ∧ fraction.all Char.isDigit then some ⟨negative, whole, fraction⟩ else none
  | _, _ => none

/-- The numeral written as `cs`, if `cs` has the form of one. -/
def ofChars? : List Char → Option Numeral
  | '-' :: cs => ofUnsigned? true cs
  | cs => ofUnsigned? false cs

end Numeral

namespace Decimal

/-- The value of a digit. -/
def digitValue (c : Char) : Nat := c.toNat - '0'.toNat

/-- Read digits before the point behind the coefficient `size`. -/
def readWhole (size : Nat) : List Char → Option Nat
  | [] => some size
  | c :: cs =>
    let next := 10 * size + digitValue c
    if next < bound then readWhole next cs else none

/-- Round the coefficient `size` at `scale` by the first digit that does not fit: 5 and above go up.
If that reaches the bound, the last digit after the point is given up; without one there is no
result. -/
def roundOff (size scale digit : Nat) : Option (Nat × Nat) :=
  if digit < 5 then some (size, scale)
  else if size + 1 < bound then some (size + 1, scale)
  else if scale = 0 then none
  else some ((size + 1 + 4) / 10, scale - 1)

/-- Read digits after the point behind the coefficient `size`, of which `scale` digits stand after
the point already. -/
def readFraction (size scale : Nat) : List Char → Option (Nat × Nat)
  | [] => some (size, scale)
  | c :: cs =>
    let next := 10 * size + digitValue c
    if scale < maxScale ∧ next < bound then readFraction next (scale + 1) cs
    else roundOff size scale (digitValue c)

/-- The decimal nearest to the numeral `n` that the digits of `n` lead to, if its part before the
point is in range. -/
def ofNumeral? (n : Numeral) : Option Decimal := do
  let whole ← readWhole 0 n.whole
  let (size, scale) ← readFraction whole 0 n.fraction
  ofParts? n.negative size scale

/-- The decimal written as `s`, if `s` is a numeral in range. -/
def ofText? (s : String) : Option Decimal :=
  (Numeral.ofChars? s.toList).bind ofNumeral?

end Decimal

end FilterQuery
