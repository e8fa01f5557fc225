/-!
# Sets of code points

A property of characters is stored as the sorted list of the points where it changes: the code
points from the first boundary up to the second have it, those from the second up to the third do
not, and so on. A code point is in the set iff the number of boundaries at or below it is odd.
-/

namespace FilterQuery.Text

/-- A set of code points, given by the sorted boundaries of its runs. -/
structure CodePoints where
  boundaries : Array Nat

namespace CodePoints

/-- The number of boundaries at or below `n`, searched for between `lo` and `hi`. -/
def rankBetween (bs : Array Nat) (n lo hi : Nat) : Nat :=
  if h : lo < hi then
    let mid := lo + (hi - lo) / 2
    if bs.getD mid 0 ≤ n then rankBetween bs n (mid + 1) hi else rankBetween bs n lo mid
  else
    lo
termination_by hi - lo

/-- Whether the code point `n` is in the set. -/
def containsPoint (s : CodePoints) (n : Nat) : Bool :=
  rankBetween s.boundaries n 0 s.boundaries.size % 2 == 1

/-- Whether the character `c` is in the set. -/
def contains (s : CodePoints) (c : Char) : Bool :=
  s.containsPoint c.toNat

end CodePoints

end FilterQuery.Text
