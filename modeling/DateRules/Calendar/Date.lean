/-!
Days of the proleptic Gregorian calendar, years 1 to 9999, ordered by year, month and day. A `Date`
carries the proof that its month exists and that its month has that day.
-/
namespace DateRules

/-- Every fourth year, but of the centuries only every fourth. -/
def isLeapYear (year : Nat) : Bool :=
  year % 4 == 0 && (year % 100 != 0 || year % 400 == 0)

def daysInMonth (year : Nat) : Nat → Nat
  | 2 => if isLeapYear year then 29 else 28
  | 4 | 6 | 9 | 11 => 30
  | _ => 31

/-- The year, month and day of some day between 1 January 1 and 31 December 9999. -/
def IsCalendarDay (year month day : Nat) : Prop :=
  (1 ≤ year ∧ year ≤ 9999) ∧ (1 ≤ month ∧ month ≤ 12) ∧ 1 ≤ day ∧ day ≤ daysInMonth year month

instance (year month day : Nat) : Decidable (IsCalendarDay year month day) := by
  unfold IsCalendarDay; infer_instance

structure Date where
  year : Nat
  month : Nat
  day : Nat
  isCalendarDay : IsCalendarDay year month day
deriving DecidableEq, Repr

namespace Date

instance : Inhabited Date := ⟨⟨1, 1, 1, by decide⟩⟩

def ofParts? (year month day : Nat) : Option Date :=
  if h : IsCalendarDay year month day then some ⟨year, month, day, h⟩ else none

/-- Earlier days come first. -/
instance : Ord Date where
  compare a b :=
    (compare a.year b.year).then ((compare a.month b.month).then (compare a.day b.day))

instance : LT Date := ltOfOrd
instance : LE Date := leOfOrd

def endOfMonth (d : Date) : Date where
  year := d.year
  month := d.month
  day := daysInMonth d.year d.month
  isCalendarDay := ⟨d.isCalendarDay.1, d.isCalendarDay.2.1,
    Nat.le_trans d.isCalendarDay.2.2.1 d.isCalendarDay.2.2.2, Nat.le_refl _⟩

end Date
end DateRules
