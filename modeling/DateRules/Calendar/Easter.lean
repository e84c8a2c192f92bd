import DateRules.Calendar.Date

/-! Western Easter Sundays of the years 1900 to 2099, as month and day. -/
namespace DateRules.Easter

def firstYear : Nat := 1900
def lastYear : Nat := 2099

/-- One entry a year, ten years a line. -/
def table : List (Nat × Nat) := [
  (4, 15), (4, 7), (3, 30), (4, 12), (4, 3), (4, 23), (4, 15), (3, 31), (4, 19), (4, 11),
  (3, 27), (4, 16), (4, 7), (3, 23), (4, 12), (4, 4), (4, 23), (4, 8), (3, 31), (4, 20),
  (4, 4), (3, 27), (4, 16), (4, 1), (4, 20), (4, 12), (4, 4), (4, 17), (4, 8), (3, 31),
  (4, 20), (4, 5), (3, 27), (4, 16), (4, 1), (4, 21), (4, 12), (3, 28), (4, 17), (4, 9),
  (3, 24), (4, 13), (4, 5), (4, 25), (4, 9), (4, 1), (4, 21), (4, 6), (3, 28), (4, 17),
  (4, 9), (3, 25), (4, 13), (4, 5), (4, 18), (4, 10), (4, 1), (4, 21), (4, 6), (3, 29),
  (4, 17), (4, 2), (4, 22), (4, 14), (3, 29), (4, 18), (4, 10), (3, 26), (4, 14), (4, 6),
  (3, 29), (4, 11), (4, 2), (4, 22), (4, 14), (3, 30), (4, 18), (4, 10), (3, 26), (4, 15),
  (4, 6), (4, 19), (4, 11), (4, 3), (4, 22), (4, 7), (3, 30), (4, 19), (4, 3), (3, 26),
  (4, 15), (3, 31), (4, 19), (4, 11), (4, 3), (4, 16), (4, 7), (3, 30), (4, 12), (4, 4),
  (4, 23), (4, 15), (3, 31), (4, 20), (4, 11), (3, 27), (4, 16), (4, 8), (3, 23), (4, 12),
  (4, 4), (4, 24), (4, 8), (3, 31), (4, 20), (4, 5), (3, 27), (4, 16), (4, 1), (4, 21),
  (4, 12), (4, 4), (4, 17), (4, 9), (3, 31), (4, 20), (4, 5), (3, 28), (4, 16), (4, 1),
  (4, 21), (4, 13), (3, 28), (4, 17), (4, 9), (3, 25), (4, 13), (4, 5), (4, 25), (4, 10),
  (4, 1), (4, 21), (4, 6), (3, 29), (4, 17), (4, 9), (3, 25), (4, 14), (4, 5), (4, 18),
  (4, 10), (4, 2), (4, 21), (4, 6), (3, 29), (4, 18), (4, 2), (4, 22), (4, 14), (3, 30),
  (4, 18), (4, 10), (3, 26), (4, 15), (4, 6), (3, 29), (4, 11), (4, 3), (4, 22), (4, 14),
  (3, 30), (4, 19), (4, 10), (3, 26), (4, 15), (4, 7), (4, 19), (4, 11), (4, 3), (4, 23),
  (4, 7), (3, 30), (4, 19), (4, 4), (3, 26), (4, 15), (3, 31), (4, 20), (4, 11), (4, 3),
  (4, 16), (4, 8), (3, 30), (4, 12), (4, 4), (4, 24), (4, 15), (3, 31), (4, 20), (4, 12)]

/-- Easter Sunday of a year that the table covers. -/
def sunday? (year : Int) : Option Date :=
  if year < firstYear then none else
  match table[(year - firstYear).toNat]? with
  | some (month, day) => Date.ofParts? year.toNat month day
  | none => none

end DateRules.Easter
