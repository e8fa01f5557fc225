import FilterQuery.Json.Reader

/-!
# Options

The options of every compilation, and how they are written: an object with the member
`max_filters`, or an array with nothing else in it. What is missing has its standard value.
-/

namespace FilterQuery

/-- What applies to every query: how many filters it may have, 0 for any number. -/
structure Options where
  maxFilters : Nat
deriving DecidableEq, Repr

namespace Options

/-- A query may have 100 filters. -/
def standard : Options := ⟨100⟩

/-- A number of filters is below this: 2 to the power of 64. -/
abbrev countBound : Nat := 18446744073709551616

/-- The number of filters that a document states, with digits only. -/
def count? : Json → Option Nat
  | .number text =>
    let digits := text.toList
    let n := Nat.ofDigitChars 10 digits 0
    if digits.all Char.isDigit ∧ n < countBound then some n else none
  | _ => none

/-- The options that a document states. -/
def ofJson? : Json → Option Options
  | .object members =>
    match members.filter (·.1 == "max_filters") with
    | [] => some standard
    | [(_, j)] => (count? j).map Options.mk
    | _ => none
  | .array [] => some standard
  | .array [j] => (count? j).map Options.mk
  | _ => none

/-- The options written as `text`. What is not looked at may be nested to any depth. -/
def read? (text : String) : Option Options :=
  (Json.parse? text text.length).bind ofJson?

/-- The document that states the options. -/
def toJson (o : Options) : Json :=
  .object [("max_filters", .number (String.ofList (Nat.toDigits 10 o.maxFilters)))]

end Options

end FilterQuery
