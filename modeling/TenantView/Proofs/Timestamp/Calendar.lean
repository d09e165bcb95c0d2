import Mathlib.Tactic.IntervalCases
import TenantView.Timestamp.Calendar

/-!
# Days are counted

The number of a date is the count of days it is said to be: from each date to the date after it
the number grows by one (`dayNumber_dayAfter`), over the ends of months and years and with the leap
days of the Gregorian rule.
-/

namespace TenantView.Calendar

/-- The date after a date. -/
def dayAfter (year : Int) (month day : Nat) : Int × Nat × Nat :=
  if day < daysInMonth year month then (year, month, day + 1)
  else if month < 12 then (year, month + 1, 1)
  else (year + 1, 1, 1)

theorem dayNumber_add_one (year : Int) (month day : Nat) :
    dayNumber year month (day + 1) = dayNumber year month day + 1 := by
  simp only [dayNumber]
  omega

/-- The years that are fully divided by four, unless by a hundred and not by four hundred. -/
theorem isLeap_iff (year : Int) :
    isLeap year = true ↔ year % 4 = 0 ∧ (year % 100 ≠ 0 ∨ year % 400 = 0) := by
  simp [isLeap]

/-- The leap day is the last day of February. -/
theorem dayNumber_march (year : Int) :
    dayNumber year 3 1 = dayNumber year 2 (daysInMonth year 2) + 1 := by
  have hleap := isLeap_iff year
  cases h : isLeap year
  all_goals
    simp [h] at hleap
    simp [dayNumber, daysInMonth, h]
    omega

/-- Behind the last day of a month comes the first one of the month after it. -/
theorem dayNumber_monthAfter {year : Int} {month : Nat} (hfirst : 1 ≤ month) (hlast : month < 12) :
    dayNumber year (month + 1) 1 = dayNumber year month (daysInMonth year month) + 1 := by
  by_cases hfebruary : month = 2
  · rw [hfebruary]
    exact dayNumber_march year
  · interval_cases month <;> simp [dayNumber, daysInMonth] at hfebruary ⊢ <;> omega

theorem dayNumber_yearAfter (year : Int) :
    dayNumber (year + 1) 1 1 = dayNumber year 12 31 + 1 := by
  simp [dayNumber]
  omega

/-- **From a date to the date after it there is one day.** -/
theorem dayNumber_dayAfter {year : Int} {month day : Nat} (hfirst : 1 ≤ month) (hlast : month ≤ 12)
    (hday : day ≤ daysInMonth year month) :
    dayNumber (dayAfter year month day).1 (dayAfter year month day).2.1
      (dayAfter year month day).2.2 = dayNumber year month day + 1 := by
  rw [dayAfter]
  split_ifs with hwithin hmonth
  · exact dayNumber_add_one year month day
  · obtain rfl : day = daysInMonth year month := by omega
    exact dayNumber_monthAfter hfirst hmonth
  · obtain rfl : month = 12 := by omega
    obtain rfl : day = 31 := Nat.le_antisymm hday (Nat.not_lt.mp hwithin)
    exact dayNumber_yearAfter year

end TenantView.Calendar
