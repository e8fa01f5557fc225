import FilterQuery.Pattern.CharSet

/-!
# Expressions and where they match

An expression describes pieces of a text. It is run on all positions at once: given the positions
where a piece may start, `Expr.run` marks those where one can end. A text matches if some piece of
it does, so that all positions are marked at the start.
-/

namespace FilterQuery.Pattern

/-- A condition on a position of a text. -/
inductive Assertion
  | textStart
  | textEnd
  | lineStart
  | lineEnd
  | wordBoundary
  | notWordBoundary
  | wordStart
  | wordEnd
deriving DecidableEq, Repr

namespace Assertion

/-- Whether there is a word character at the given side of a position. -/
def isWordAt (c : Option Char) : Bool := c.any Text.wordChars.contains

/-- Whether the condition holds between the characters `before` and `after` a position. -/
def holds (before after : Option Char) : Assertion → Bool
  | textStart => before.isNone
  | textEnd => after.isNone
  | lineStart => before.all (· == '\n')
  | lineEnd => after.all (· == '\n')
  | wordBoundary => isWordAt before != isWordAt after
  | notWordBoundary => isWordAt before == isWordAt after
  | wordStart => !isWordAt before && isWordAt after
  | wordEnd => isWordAt before && !isWordAt after

end Assertion

/-- An expression. -/
inductive Expr
  | empty
  | set (chars : CharSet) (ignoreCase : Bool)
  | assertion (condition : Assertion)
  | seq (first second : Expr)
  | alt (left right : Expr)
  | repeated (body : Expr) (min : Nat) (max : Option Nat)
deriving Repr

/-- A mark for each position of a text, the end included. -/
abbrev Marks := List Bool

namespace Marks

/-- The positions marked in at least one of both. -/
def or (a b : Marks) : Marks := a.zipWith (· || ·) b

/-- The positions marked in `a` and not in `b`. -/
def without (a b : Marks) : Marks := a.zipWith (· && !·) b

/-- Whether any position is marked. -/
def any (a : Marks) : Bool := List.any a id

/-- The positions of `found` and those that at most `steps` more steps of `f` lead to from the
positions of `fresh`. -/
def reach (f : Marks → Marks) : Nat → Marks → Marks → Marks
  | 0, _, found => found
  | steps + 1, fresh, found =>
    let next := (f fresh).without found
    if next.any then reach f steps next (found.or next) else found

end Marks

namespace Expr

/-- The positions where a piece can end that starts at one of the marked positions of `text`. To go
round a repetition more often than there are positions leads nowhere new. -/
def run (text : List Char) : Expr → Marks → Marks
  | empty, starts => starts
  | set chars ignoreCase, starts =>
    false :: text.zipWith (fun c b => b && chars.contains ignoreCase c) starts
  | assertion condition, starts =>
    let befores := none :: text.map some
    let afters := text.map some ++ [none]
    (befores.zipWith (condition.holds · ·) afters).zipWith (· && ·) starts
  | seq first second, starts => run text second (run text first starts)
  | alt left right, starts => (run text left starts).or (run text right starts)
  | repeated body min max, starts =>
    let limit := text.length + 1
    let least := Nat.repeat (run text body) (Nat.min min limit) starts
    let more := match max with
      | some max => Nat.min (max - min) limit
      | none => limit
    Marks.reach (run text body) more least least

/-- Whether some piece of `text` matches. -/
def isMatch (e : Expr) (text : String) : Bool :=
  (e.run text.toList (List.replicate (text.toList.length + 1) true)).any

end Expr

end FilterQuery.Pattern
