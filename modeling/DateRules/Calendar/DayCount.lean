import DateRules.Calendar.Date

/-!
One count for all days: 1 January 1 is day 0 and 31 December 9999 is day 3652058. `Date.dayNumber`
counts, `Date.ofDayNumber?` counts back, and a date moves by adding to its count.
-/
namespace DateRules

def daysBeforeYear (year : Nat) : Nat :=
  365 * (year - 1) + (year - 1) / 4 - (year - 1) / 100 + (year - 1) / 400

def daysBeforeMonth (year : Nat) : Nat → Nat
  | 0 | 1 => 0
  | month + 1 => daysBeforeMonth year month + daysInMonth year month

/-- The month and day of the day that comes `left` days after the first of `month`; `months` bounds
the months looked at. -/
def monthAndDay (year : Nat) : (months month left : Nat) → Nat × Nat
  | 0, month, left => (month, left + 1)
  | months + 1, month, left =>
    if left < daysInMonth year month then (month, left + 1)
    else monthAndDay year months (month + 1) (left - daysInMonth year month)

/-- The year of day `n`. 400 years have 146097 days, so the mean year is off by less than one
year. -/
def yearOfDayNumber (n : Nat) : Nat :=
  let year := n * 400 / 146097 + 1
  if n < daysBeforeYear year then year - 1
  else if daysBeforeYear (year + 1) ≤ n then year + 1
  else year

namespace Date

/-- Days since 1 January 1. -/
def dayNumber (d : Date) : Nat :=
  daysBeforeYear d.year + daysBeforeMonth d.year d.month + (d.day - 1)

/-- 1 January is day 1 of its year. -/
def dayOfYear (d : Date) : Nat := daysBeforeMonth d.year d.month + d.day

def ofDayNumber? (n : Nat) : Option Date :=
  let year := yearOfDayNumber n
  let (month, day) := monthAndDay year 11 1 (n - daysBeforeYear year)
  ofParts? year month day

/-- The date `days` days later, or earlier for a negative number; none outside the calendar. -/
def addDays? (d : Date) (days : Int) : Option Date :=
  let n := (d.dayNumber : Int) + days
  if n < 0 then none else ofDayNumber? n.toNat

end Date
end DateRules
