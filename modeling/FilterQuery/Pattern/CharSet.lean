import FilterQuery.Text.Blank
import FilterQuery.Text.CaseFold
import FilterQuery.Text.WordChar

/-!
# Sets of characters

The sets that a pattern can name: ranges, the decimal digits, word characters and blanks of every
script, and what unions, intersections, differences and complements make of them. Where case does
not count, a range holds every character that differs in case only from one of its own; the named
sets hold those already.
-/

namespace FilterQuery.Pattern

/-- A set of characters. -/
inductive CharSet
  | none
  | range (first last : Char)
  | digit
  | word
  | blank
  | union (left right : CharSet)
  | inter (left right : CharSet)
  | diff (left right : CharSet)
  | symmDiff (left right : CharSet)
  | compl (set : CharSet)
deriving Repr

namespace CharSet

/-- The set of one character. -/
def single (c : Char) : CharSet := range c c

/-- Whether `c` is in the set; with `ignoreCase`, whether a character is that differs from `c` in
case at most. -/
def contains (ignoreCase : Bool) (c : Char) : CharSet → Bool
  | none => false
  | range first last =>
    if ignoreCase then
      (Text.caseVariants c.toNat).any fun n => first.toNat ≤ n && n ≤ last.toNat
    else
      first.toNat ≤ c.toNat && c.toNat ≤ last.toNat
  | digit => Text.decimalDigits.contains c
  | word => Text.wordChars.contains c
  | blank => Text.isBlank c
  | union l r => contains ignoreCase c l || contains ignoreCase c r
  | inter l r => contains ignoreCase c l && contains ignoreCase c r
  | diff l r => contains ignoreCase c l && !contains ignoreCase c r
  | symmDiff l r => contains ignoreCase c l != contains ignoreCase c r
  | compl s => !contains ignoreCase c s

end CharSet

end FilterQuery.Pattern
