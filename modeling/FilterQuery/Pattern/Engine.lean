import FilterQuery.Pattern.Basic
import FilterQuery.Pattern.Element

/-!
# The standard engine

The last step of reading a pattern puts its elements together with a stack of the groups that are
still open. A text matches if some piece of it does.

Not every pattern that other engines know can be read: there are no sets by a property of their
characters (`\p`), no `\b{start}`, and no flags besides `i`, `m`, `s` and `U`. A name between colons
inside brackets, as in `[[:digit:]]`, has no meaning of its own. An expression may be of any size.
-/

namespace FilterQuery.Pattern

/-- The flags in force at some place of a pattern. -/
structure Flags where
  ignoreCase : Bool
  multiLine : Bool
  dotAll : Bool
deriving Repr

namespace Flags

/-- At the start no flag is on. -/
def initial : Flags := ⟨false, false, false⟩

/-- Switch a flag. -/
def set (f : Flags) : Flag × Bool → Flags
  | (.ignoreCase, on) => { f with ignoreCase := on }
  | (.multiLine, on) => { f with multiLine := on }
  | (.dotAll, on) => { f with dotAll := on }
  | (.swapGreed, _) => f

/-- Switch flags one after the other. -/
def change (f : Flags) (changes : List (Flag × Bool)) : Flags := changes.foldl set f

end Flags

/-- An open group: the flags in force before it, the alternatives read so far, and the parts of the
current one in reverse. A change of flags is a part without an expression. -/
structure Group where
  outerFlags : Flags
  alternatives : Option Expr
  parts : List (Option Expr)

namespace Group

/-- A group that was just opened. -/
def fresh (outerFlags : Flags) : Group := ⟨outerFlags, none, []⟩

/-- Put one more part behind the others. -/
def push (g : Group) (e : Expr) : Group := { g with parts := some e :: g.parts }

/-- The expression of the current alternative. -/
def current (g : Group) : Expr :=
  match g.parts.filterMap id with
  | [] => .empty
  | last :: earlier => earlier.foldl (fun e first => .seq first e) last

/-- The expression of the whole group. -/
def close (g : Group) : Expr :=
  match g.alternatives with
  | some left => .alt left g.current
  | none => g.current

/-- Go on to the next alternative. -/
def nextAlternative (g : Group) : Group :=
  { g with alternatives := some g.close, parts := [] }

/-- Repeat the last part, which must be there and have an expression. -/
def repeatLast (g : Group) (min : Nat) (max : Option Nat) : Option Group :=
  match g.parts with
  | some e :: parts => some { g with parts := some (.repeated e min max) :: parts }
  | _ => none

end Group

/-- Put elements together inside the open group `g`, which stands inside the groups `outer`. -/
def build (flags : Flags) (g : Group) (outer : List Group) : List Element → Option Expr
  | [] => if outer.isEmpty then some g.close else none
  | .set chars :: es => build flags (g.push (.set chars flags.ignoreCase)) outer es
  | .assertion condition :: es => build flags (g.push (.assertion condition)) outer es
  | .dot :: es =>
    let chars := if flags.dotAll then .compl .none else .compl (.single '\n')
    build flags (g.push (.set chars flags.ignoreCase)) outer es
  | .lineStart :: es =>
    let condition := if flags.multiLine then .lineStart else .textStart
    build flags (g.push (.assertion condition)) outer es
  | .lineEnd :: es =>
    let condition := if flags.multiLine then .lineEnd else .textEnd
    build flags (g.push (.assertion condition)) outer es
  | .bar :: es => build flags g.nextAlternative outer es
  | .openGroup _ changes :: es => build (flags.change changes) (.fresh flags) (g :: outer) es
  | .closeGroup :: es =>
    match outer with
    | o :: outer => build g.outerFlags (o.push g.close) outer es
    | [] => none
  | .setFlags changes :: es =>
    build (flags.change changes) { g with parts := none :: g.parts } outer es
  | .repetition min max :: es =>
    match g.repeatLast min max with
    | some g => build flags g outer es
    | none => none

/-- The names of the groups of a pattern. -/
def groupNames (es : List Element) : List String :=
  es.filterMap fun
    | .openGroup name _ => name
    | _ => none

/-- The expression written as `source`, if it is well formed and no two groups have one name. -/
def expr? (source : String) : Option Expr := do
  let symbols ← readSymbols [] source.toList
  let elements ← readElements [] symbols
  if (groupNames elements).Nodup then build .initial (.fresh .initial) [] elements else none

/-- The engine that the program runs with. -/
instance Engine.standard : Engine where
  read? source := (expr? source).map Expr.isMatch

end FilterQuery.Pattern
