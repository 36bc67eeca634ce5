/-!
Dates of the Gregorian calendar, carried back before its introduction, and the seconds from the
start of 1970 to a moment.
-/
namespace CredentialRotation

/-- A moment written with calendar and clock. -/
structure CalendarTime where
  year : Nat
  month : Nat
  day : Nat
  hour : Nat
  minute : Nat
  second : Nat
  deriving DecidableEq, Repr

namespace CalendarTime

def isLeapYear (year : Nat) : Bool :=
  (year % 4 = 0 && year % 100 ≠ 0) || year % 400 = 0

/-- The days of a month; a month past December has none. -/
def daysInMonth (year month : Nat) : Nat :=
  if month = 2 then (if isLeapYear year then 29 else 28)
  else if month = 4 ∨ month = 6 ∨ month = 9 ∨ month = 11 then 30
  else if 1 ≤ month ∧ month ≤ 12 then 31
  else 0

/-- The calendar has this day, and the clock shows this time on it. -/
def isReal (t : CalendarTime) : Bool :=
  1 ≤ t.day && t.day ≤ daysInMonth t.year t.month &&
    t.hour < 24 && t.minute < 60 && t.second < 60

/-- The days from the start of year zero to the start of a year. -/
private def daysBefore (year : Nat) : Nat :=
  year * 365 + (year + 3) / 4 - (year + 99) / 100 + (year + 399) / 400

private def daysInYearBefore (year month : Nat) : Nat :=
  ((List.range month).map fun m => daysInMonth year m).foldl (· + ·) 0

/-- Seconds since the start of 1970, negative before it. -/
def epochSeconds (t : CalendarTime) : Int :=
  let days : Int := daysBefore t.year + daysInYearBefore t.year t.month + t.day - 1
  (days - daysBefore 1970) * 86400 + t.hour * 3600 + t.minute * 60 + t.second

end CalendarTime
end CredentialRotation
