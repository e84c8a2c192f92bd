import DateRules.Calendar.DayCount

/-! Days of the week, Sunday first. -/
namespace DateRules

inductive Weekday where
  | sunday | monday | tuesday | wednesday | thursday | friday | saturday
deriving DecidableEq, Repr

namespace Weekday

def all : List Weekday := [sunday, monday, tuesday, wednesday, thursday, friday, saturday]

/-- Sunday is 0. -/
def index : Weekday → Nat
  | sunday => 0 | monday => 1 | tuesday => 2 | wednesday => 3
  | thursday => 4 | friday => 5 | saturday => 6

def ofIndex (n : Nat) : Weekday :=
  match n % 7 with
  | 0 => sunday | 1 => monday | 2 => tuesday | 3 => wednesday
  | 4 => thursday | 5 => friday | _ => saturday

/-- The name that rule text uses, in lower case. -/
def name : Weekday → String
  | sunday => "sunday" | monday => "monday" | tuesday => "tuesday" | wednesday => "wednesday"
  | thursday => "thursday" | friday => "friday" | saturday => "saturday"

def title : Weekday → String
  | sunday => "Sunday" | monday => "Monday" | tuesday => "Tuesday" | wednesday => "Wednesday"
  | thursday => "Thursday" | friday => "Friday" | saturday => "Saturday"

@[simp] theorem ofIndex_index (w : Weekday) : ofIndex w.index = w := by cases w <;> rfl

end Weekday

/-- 1 January 1 was a Monday. -/
def Date.weekday (d : Date) : Weekday := Weekday.ofIndex (d.dayNumber + 1)

end DateRules
