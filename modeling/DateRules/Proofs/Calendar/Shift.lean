import Mathlib.Data.Set.Function
import Mathlib.Order.Bounds.Basic
import DateRules.Proofs.Calendar.Reference
import DateRules.Proofs.Value

/-!
One count of days behind all that the calendar computes. A date moves by adding to its count, so
moves add up and can be undone; days of the week and of the year are read off the count.
-/
namespace DateRules.Date

/-- The last day of the calendar has number 3652058. -/
theorem dayNumber_bijOn : Set.BijOn dayNumber Set.univ (Set.Iic 3652058) where
  left d _ := Nat.le_of_lt_succ d.dayNumber_lt_count
  right.left _ _ _ _ h := dayNumber_injective h
  right.right n hn := by
    obtain ⟨d, hd⟩ := exists_dayNumber_eq (Nat.lt_succ_of_le hn)
    exact ⟨d, Set.mem_univ d, hd⟩

section
variable {d e : Date} {days more : Int}

theorem exists_dayNumber_eq_add_iff : (∃ e : Date, (e.dayNumber : Int) = d.dayNumber + days) ↔
    0 ≤ d.dayNumber + days ∧ d.dayNumber + days ≤ 3652058 := by
  constructor
  · rintro ⟨e, he⟩
    have hlast := e.dayNumber_lt_count
    rw [count] at hlast
    omega
  · rintro ⟨hfirst, hlast⟩
    have hcount : (d.dayNumber + days).toNat < count := by
      rw [count]
      omega
    obtain ⟨e, he⟩ := exists_dayNumber_eq hcount
    exact ⟨e, by omega⟩

theorem addDays_eq_outsideCalendar_iff : d.addDays days = .error .outsideCalendar ↔
    ¬(0 ≤ d.dayNumber + days ∧ d.dayNumber + days ≤ 3652058) := by
  rw [addDays_eq_error_iff, ← exists_dayNumber_eq_add_iff, not_exists]
  exact and_iff_left rfl

/-- Where a move ends does not depend on the stops on the way. -/
theorem addDays_of_addDays (h : d.addDays days = .ok e) :
    e.addDays more = d.addDays (days + more) := by
  have he := addDays_eq_ok_iff.mp h
  unfold addDays addDays?
  rw [he, add_assoc]

theorem addDays_neg_iff : e.addDays (-days) = .ok d ↔ d.addDays days = .ok e := by
  rw [addDays_eq_ok_iff, addDays_eq_ok_iff]
  omega

end

theorem index_weekday_eq (d : Date) : d.weekday.index = (d.dayNumber + 1) % 7 :=
  Weekday.index_ofIndex _

/-- The week turns with the days. -/
theorem index_weekday_of_addDays {d e : Date} {days : Int} (h : d.addDays days = .ok e) :
    (e.weekday.index : Int) = (d.weekday.index + days) % 7 := by
  have he := addDays_eq_ok_iff.mp h
  rw [index_weekday_eq, index_weekday_eq]
  omega

/-- 1 January of the year that `d` lies in. -/
def newYear (d : Date) : Date where
  year := d.year
  month := 1
  day := 1
  isCalendarDay := ⟨d.isCalendarDay.1, by decide, Nat.le_refl 1, (by decide : 1 ≤ 31)⟩

theorem dayNumber_newYear (d : Date) : d.newYear.dayNumber = daysBeforeYear d.year := rfl

theorem dayOfYear_eq (d : Date) : (d.dayOfYear : Int) = d.dayNumber - d.newYear.dayNumber + 1 := by
  have hnumber := d.dayNumber_eq
  rw [dayNumber_newYear]
  omega

theorem isGreatest_endOfMonth (d : Date) :
    IsGreatest {e : Date | e.year = d.year ∧ e.month = d.month} d.endOfMonth := by
  obtain ⟨hmonth, hlast⟩ := isEndOfMonth_endOfMonth d
  refine ⟨hmonth, fun e he => ?_⟩
  rw [← dayNumber_le_iff]
  rcases hlast e he.1 he.2 with rfl | hearlier
  · exact Nat.le_refl _
  · exact Nat.le_of_lt (dayNumber_lt_iff.mpr hearlier)

/-- The days of the calendar are numbered in their order from 0 to 3652058. A date moves to the day
whose number is so many greater, and fails where there is none; moves add up, can be undone, and
turn the week. The day of the week goes round with the number, 1 January begins the days of the
year, and no day of a month is later than its end. -/
theorem calendar_agrees_with_the_count :
    Set.BijOn dayNumber Set.univ (Set.Iic 3652058) ∧
    (∀ d e : Date, d < e ↔ d.dayNumber < e.dayNumber) ∧
    (∀ (d : Date) (days : Int),
      (∀ e, d.addDays days = .ok e ↔ (e.dayNumber : Int) = d.dayNumber + days) ∧
      ((∃ e, d.addDays days = .ok e) ↔ 0 ≤ d.dayNumber + days ∧ d.dayNumber + days ≤ 3652058) ∧
      (d.addDays days = .error .outsideCalendar ↔
        ¬(0 ≤ d.dayNumber + days ∧ d.dayNumber + days ≤ 3652058)) ∧
      ∀ e, d.addDays days = .ok e →
        (∀ more, e.addDays more = d.addDays (days + more)) ∧ e.addDays (-days) = .ok d ∧
        (e.weekday.index : Int) = (d.weekday.index + days) % 7) ∧
    ∀ d : Date,
      d.weekday.index = (d.dayNumber + 1) % 7 ∧
      (d.dayOfYear : Int) = d.dayNumber - d.newYear.dayNumber + 1 ∧
      IsGreatest {e : Date | e.year = d.year ∧ e.month = d.month} d.endOfMonth := by
  refine ⟨dayNumber_bijOn, fun d e => dayNumber_lt_iff.symm, fun d days => ?_, fun d => ?_⟩
  · refine ⟨fun e => addDays_eq_ok_iff, ?_, addDays_eq_outsideCalendar_iff, fun e he => ?_⟩
    · rw [← exists_dayNumber_eq_add_iff]
      exact exists_congr fun e => addDays_eq_ok_iff
    · exact ⟨fun more => addDays_of_addDays he, addDays_neg_iff.mpr he, index_weekday_of_addDays he⟩
  · exact ⟨index_weekday_eq d, dayOfYear_eq d, isGreatest_endOfMonth d⟩

end DateRules.Date
