/-!
# Days of the calendar

The Gregorian calendar without a beginning and without an end. A date is numbered by the
days since the first of January 1970 (`Date.dayNumber`), and `Date.ofDayNumber` finds the
date of a number. Both count years from March on, so that the leap day is the last day of
a year, and cycles of four hundred years, which have 146097 days each.
-/

namespace QuizEngine.Time

/-- Whether the year has a twenty-ninth of February. -/
def isLeapYear (year : Int) : Bool :=
  year % 4 == 0 && (year % 100 != 0 || year % 400 == 0)

/-- How many days the month has in that year. -/
def daysInMonth (year : Int) (month : Nat) : Nat :=
  if month = 2 then (if isLeapYear year then 29 else 28)
  else if month = 4 ∨ month = 6 ∨ month = 9 ∨ month = 11 then 30
  else 31

/-- A day of the calendar. -/
structure Date where
  /-- The year; the year before year 1 is year 0. -/
  year : Int
  /-- The month, from 1 to 12. -/
  month : Nat
  /-- The day of the month, from 1. -/
  day : Nat
  deriving DecidableEq

namespace Date

/-- Whether the calendar has that day. -/
def exists? (d : Date) : Bool :=
  decide (1 ≤ d.month ∧ d.month ≤ 12 ∧ 1 ≤ d.day ∧ d.day ≤ daysInMonth d.year d.month)

/-- The first of March of year 0, counted from the first of January 1970. -/
def epochShift : Int := 719468

/-- The days since the first of January 1970. -/
def dayNumber (d : Date) : Int :=
  let year := if d.month ≤ 2 then d.year - 1 else d.year
  let month := (d.month + 9) % 12
  365 * year + year / 4 - year / 100 + year / 400 + ((153 * month + 2) / 5 : Nat) + d.day - 1 - epochShift

/-- The date of a number of days since the first of January 1970. -/
def ofDayNumber (n : Int) : Date :=
  let cycle := (n + epochShift) / 146097
  let inCycle := ((n + epochShift) % 146097).toNat
  let year := (inCycle - inCycle / 1460 + inCycle / 36524 - inCycle / 146096) / 365
  let inYear := inCycle - (365 * year + year / 4 - year / 100)
  let march := (5 * inYear + 2) / 153
  let month := if march < 10 then march + 3 else march - 9
  ⟨cycle * 400 + year + (if month ≤ 2 then 1 else 0), month, inYear - (153 * march + 2) / 5 + 1⟩

example : dayNumber ⟨1970, 1, 1⟩ = 0 := rfl
example : dayNumber ⟨2024, 2, 29⟩ + 1 = dayNumber ⟨2024, 3, 1⟩ := rfl
example : ofDayNumber (dayNumber ⟨2000, 2, 29⟩) = ⟨2000, 2, 29⟩ := by decide
example : ofDayNumber (-719529) = ⟨-1, 12, 31⟩ := by decide

end Date

end QuizEngine.Time
