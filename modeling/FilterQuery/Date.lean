/-!
# Dates

Days of the Gregorian calendar, extended backwards without a break, in the years 0 to 9999. A date
is written with four digits for the year and two each for month and day, as in `1989-07-24`. Days of
earlier and later years cannot be written so, and no query has one. They are left out, although a
value that is put together without a query could be such a day.
-/

namespace FilterQuery

/-- Whether `year` has a 29th of February. -/
def isLeapYear (year : Nat) : Bool :=
  year % 4 == 0 && (year % 100 != 0 || year % 400 == 0)

/-- The number of days of a month, with no days for a month that does not exist. -/
def daysInMonth (year : Nat) : Nat → Nat
  | 1 | 3 | 5 | 7 | 8 | 10 | 12 => 31
  | 4 | 6 | 9 | 11 => 30
  | 2 => if isLeapYear year then 29 else 28
  | _ => 0

/-- A day of the calendar. -/
structure Date where
  year : Nat
  month : Nat
  day : Nat
  year_le : year ≤ 9999
  day_pos : 1 ≤ day
  day_le : day ≤ daysInMonth year month
deriving DecidableEq

namespace Date

/-- The date of the given year, month and day, if there is such a day. -/
def ofParts? (year month day : Nat) : Option Date :=
  if h : year ≤ 9999 ∧ 1 ≤ day ∧ day ≤ daysInMonth year month then
    some ⟨year, month, day, h.1, h.2.1, h.2.2⟩
  else
    none

/-- Year, month and day of a text of the form `dddd-dd-dd`, whether or not there is such a day. -/
def parts? : List Char → Option (Nat × Nat × Nat)
  | [y₁, y₂, y₃, y₄, '-', m₁, m₂, '-', d₁, d₂] =>
    if [y₁, y₂, y₃, y₄, m₁, m₂, d₁, d₂].all Char.isDigit then
      some (Nat.ofDigitChars 10 [y₁, y₂, y₃, y₄] 0, Nat.ofDigitChars 10 [m₁, m₂] 0,
        Nat.ofDigitChars 10 [d₁, d₂] 0)
    else
      none
  | _ => none

/-- The date written as `s`, if `s` has the form of a date and there is such a day. -/
def ofText? (s : String) : Option Date := do
  let (year, month, day) ← parts? s.toList
  ofParts? year month day

/-- The digits of `n`, with zeros in front up to `width`. -/
def padded (width n : Nat) : List Char := (Nat.toDigits 10 n).leftpad width '0'

/-- The date as it is written. -/
def chars (d : Date) : List Char :=
  padded 4 d.year ++ '-' :: (padded 2 d.month ++ '-' :: padded 2 d.day)

/-- The text of a date. -/
def text (d : Date) : String := String.ofList d.chars

end Date

end FilterQuery
