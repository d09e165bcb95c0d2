/-!
# Civil dates

Years are counted astronomically, so that year `0` precedes year `1`, and the Gregorian leap
rule holds throughout.  `dayNumber` counts the days from the first of March of year `0`, which
places the leap day at the end of a counted year; the difference of two day numbers is the
number of days between the dates.
-/

namespace TenantView.Calendar

/-- The Gregorian leap years. -/
def isLeap (year : Int) : Bool :=
  year % 4 = 0 && (year % 100 ≠ 0 || year % 400 = 0)

/-- The number of days of a month, or zero if there is no such month. -/
def daysInMonth (year : Int) (month : Nat) : Nat :=
  match month with
  | 2 => if isLeap year then 29 else 28
  | 4 | 6 | 9 | 11 => 30
  | 1 | 3 | 5 | 7 | 8 | 10 | 12 => 31
  | _ => 0

/-- The number of days from the first of March of year `0` to a date. -/
def dayNumber (year : Int) (month day : Nat) : Int :=
  let y : Int := if month ≤ 2 then year - 1 else year
  let m : Int := if month ≤ 2 then (month : Int) + 9 else (month : Int) - 3
  365 * y + y / 4 - y / 100 + y / 400 + (153 * m + 2) / 5 + day - 1

end TenantView.Calendar
