import FilterQuery.Date
import FilterQuery.Decimal.Basic

/-!
# Values

What a filter compares a field with: a string, a number, a boolean, a date, or a list of values.
-/

namespace FilterQuery

/-- The kind of a value. -/
inductive Kind
  | string | number | boolean | date | array
deriving DecidableEq, Repr

namespace Kind

/-- The name of a kind, in messages and in policies. -/
def name : Kind → String
  | string => "string"
  | number => "number"
  | boolean => "boolean"
  | date => "date"
  | array => "array"

/-- All kinds. -/
def all : List Kind := [string, number, boolean, date, array]

/-- The kind of the given name. -/
def ofName? (s : String) : Option Kind := all.find? (·.name == s)

end Kind

/-- A value of a filter. -/
inductive Value
  | string (text : String)
  | number (value : Decimal)
  | boolean (value : Bool)
  | date (value : Date)
  | list (members : List Value)

namespace Value

mutual

/-- Decide whether two values are the same. -/
def decEq : (v w : Value) → Decidable (v = w)
  | string s, string t => decidable_of_iff (s = t) (by simp)
  | number m, number n => decidable_of_iff (m = n) (by simp)
  | boolean b, boolean c => decidable_of_iff (b = c) (by simp)
  | date d, date e => decidable_of_iff (d = e) (by simp)
  | list vs, list ws => @decidable_of_iff _ (vs = ws) (by simp) (decEqs vs ws)
  | string _, number _ | string _, boolean _ | string _, date _ | string _, list _
  | number _, string _ | number _, boolean _ | number _, date _ | number _, list _
  | boolean _, string _ | boolean _, number _ | boolean _, date _ | boolean _, list _
  | date _, string _ | date _, number _ | date _, boolean _ | date _, list _
  | list _, string _ | list _, number _ | list _, boolean _ | list _, date _ => isFalse nofun

/-- Decide whether two lists of values are the same. -/
def decEqs : (vs ws : List Value) → Decidable (vs = ws)
  | [], [] => isTrue rfl
  | [], _ :: _ => isFalse nofun
  | _ :: _, [] => isFalse nofun
  | v :: vs, w :: ws =>
    match decEq v w, decEqs vs ws with
    | isTrue hv, isTrue hvs => isTrue (by rw [hv, hvs])
    | isFalse hv, _ => isFalse (by simp [hv])
    | _, isFalse hvs => isFalse (by simp [hvs])

end

instance : DecidableEq Value := decEq

/-- The kind of a value. -/
def kind : Value → Kind
  | string _ => .string
  | number _ => .number
  | boolean _ => .boolean
  | date _ => .date
  | list _ => .array

mutual

/-- The plain text of a value: strings as they are, a list in parentheses. -/
def text : Value → String
  | string s => s
  | number n => n.text
  | boolean b => if b then "true" else "false"
  | date d => d.text
  | list members => "(" ++ ", ".intercalate (texts members) ++ ")"

/-- The plain texts of the members of a list. -/
def texts : List Value → List String
  | [] => []
  | v :: vs => text v :: texts vs

end

mutual

/-- The values inside `v` that are not lists, from left to right, however deep they stand. -/
def scalars : Value → List Value
  | list members => scalarsOf members
  | v => [v]

/-- The values inside the members of a list that are not lists. -/
def scalarsOf : List Value → List Value
  | [] => []
  | v :: vs => scalars v ++ scalarsOf vs

end

mutual

/-- The value with the text of each date in place of the date. -/
def datesAsText : Value → Value
  | date d => string d.text
  | list members => list (allDatesAsText members)
  | v => v

/-- The members of a list with the text of each date in place of the date. -/
def allDatesAsText : List Value → List Value
  | [] => []
  | v :: vs => datesAsText v :: allDatesAsText vs

end

end Value

end FilterQuery
