/-!
# Calendar dates and day numbers

Dates of the Gregorian calendar, extended to all years, are counted by days from 1 January 1970. The
day number of a date is the number of days in the years before its year, in the months before its
month, and in its month up to it.
-/

namespace FilterQuery.Calendar

structure Date where
  year : Int
  month : Nat
  day : Nat
deriving DecidableEq, Repr

/-- Every fourth year is a leap year, except the centuries that are no multiple of four. -/
def isLeapYear (year : Int) : Bool :=
  decide (year % 4 = 0) && (decide (year % 100 ≠ 0) || decide (year % 400 = 0))

def daysInMonth (year : Int) (month : Nat) : Nat :=
  if month = 2 then if isLeapYear year then 29 else 28
  else if month ∈ [4, 6, 9, 11] then 30
  else 31

/-- The days in the months of a year before the given month. -/
def daysBeforeMonth (year : Int) : Nat → Nat
  | 0 => 0
  | 1 => 0
  | month + 1 => daysBeforeMonth year month + daysInMonth year month

/-- The days from the start of the year 1 to the start of the given year. -/
def daysBeforeYear (year : Int) : Int :=
  365 * (year - 1) + (year - 1) / 4 - (year - 1) / 100 + (year - 1) / 400

/-- The years that dates are accepted in. -/
def leastYear : Int := -262143

def greatestYear : Int := 262142

namespace Date

/-- Whether the calendar has this date, in the years that are accepted. -/
def isReal (date : Date) : Bool :=
  decide (leastYear ≤ date.year) && decide (date.year ≤ greatestYear) &&
  decide (1 ≤ date.month) && decide (date.month ≤ 12) &&
  decide (1 ≤ date.day) && decide (date.day ≤ daysInMonth date.year date.month)

/-- Days from 1 January 1970, negative before it. -/
def dayNumber (date : Date) : Int :=
  daysBeforeYear date.year + daysBeforeMonth date.year date.month + date.day - 719163

theorem dayNumber_epoch : dayNumber ⟨1970, 1, 1⟩ = 0 := by decide

end Date

end FilterQuery.Calendar
