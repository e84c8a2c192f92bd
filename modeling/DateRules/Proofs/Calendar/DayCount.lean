import DateRules.Calendar.DayCount

/-!
The count of days numbers all days of the calendar, in order and without a gap: `ofDayNumber?`
inverts `dayNumber`, and a later day has a greater number.
-/
namespace DateRules

def daysInYear (year : Nat) : Nat := if isLeapYear year then 366 else 365

theorem isLeapYear_iff (year : Nat) :
    isLeapYear year = true ↔ year % 4 = 0 ∧ (year % 100 ≠ 0 ∨ year % 400 = 0) := by
  simp [isLeapYear]

private theorem succ_div (n k : Nat) :
    (n + 1) / k = n / k + if (n + 1) % k = 0 then 1 else 0 := by
  rw [Nat.succ_div]
  congr 1
  simp only [Nat.dvd_iff_mod_eq_zero]

theorem daysBeforeYear_succ {year : Nat} (h : 1 ≤ year) :
    daysBeforeYear (year + 1) = daysBeforeYear year + daysInYear year := by
  obtain ⟨n, rfl⟩ := Nat.exists_eq_add_of_le' h
  have hhundreds : n / 100 ≤ n / 4 := Nat.div_le_div_left (by decide) (by decide)
  have hleap := isLeapYear_iff (n + 1)
  unfold daysBeforeYear daysInYear
  simp only [Nat.add_sub_cancel]
  rw [succ_div n 4, succ_div n 100, succ_div n 400]
  by_cases hyes : isLeapYear (n + 1) = true
  · have := hleap.mp hyes
    rw [if_pos hyes]
    split <;> split <;> split <;> omega
  · have := mt hleap.mpr hyes
    rw [if_neg hyes]
    split <;> split <;> split <;> omega

theorem daysBeforeYear_mono {year other : Nat} (h : year ≤ other) :
    daysBeforeYear year ≤ daysBeforeYear other := by
  induction h with
  | refl => exact Nat.le_refl _
  | step hle ih =>
    rename_i last
    rcases Nat.eq_zero_or_pos last with rfl | hpos
    · exact ih
    · rw [daysBeforeYear_succ hpos]
      omega

/-- The estimate from the mean year is off by less than one, so it is put right by one step. -/
theorem yearOfDayNumber_spec (n : Nat) :
    1 ≤ yearOfDayNumber n ∧ daysBeforeYear (yearOfDayNumber n) ≤ n ∧
      n < daysBeforeYear (yearOfDayNumber n + 1) := by
  unfold yearOfDayNumber daysBeforeYear
  dsimp only
  split
  · omega
  · split <;> omega

theorem yearOfDayNumber_eq {n year : Nat} (hfrom : daysBeforeYear year ≤ n)
    (hto : n < daysBeforeYear (year + 1)) : yearOfDayNumber n = year := by
  obtain ⟨hpos, hle, hlt⟩ := yearOfDayNumber_spec n
  rcases Nat.lt_trichotomy (yearOfDayNumber n) year with hless | heq | hmore
  · have := daysBeforeYear_mono (show yearOfDayNumber n + 1 ≤ year from hless)
    omega
  · exact heq
  · have := daysBeforeYear_mono (show year + 1 ≤ yearOfDayNumber n from hmore)
    omega

theorem daysBeforeMonth_succ (year : Nat) {month : Nat} (h : 1 ≤ month) :
    daysBeforeMonth year (month + 1) = daysBeforeMonth year month + daysInMonth year month := by
  cases month with
  | zero => omega
  | succ month => rfl

theorem daysBeforeMonth_mono (year : Nat) {month other : Nat} (h : month ≤ other) :
    daysBeforeMonth year month ≤ daysBeforeMonth year other := by
  induction h with
  | refl => exact Nat.le_refl _
  | step hle ih =>
    rename_i last
    rcases Nat.eq_zero_or_pos last with rfl | hpos
    · exact ih
    · rw [daysBeforeMonth_succ year hpos]
      omega

theorem daysBeforeMonth_thirteen (year : Nat) : daysBeforeMonth year 13 = daysInYear year := by
  unfold daysInYear
  simp only [daysBeforeMonth, daysInMonth]
  split <;> rfl

/-- The search for the month ends at the one that holds the day. -/
theorem monthAndDay_eq {year month day : Nat} (months : Nat) {first : Nat} (hfirst : 1 ≤ first)
    (hfrom : first ≤ month) (hto : month ≤ first + months) (hday : 1 ≤ day)
    (hlast : day ≤ daysInMonth year month) :
    monthAndDay year months first
      (daysBeforeMonth year month + (day - 1) - daysBeforeMonth year first) = (month, day) := by
  induction months generalizing first with
  | zero =>
    obtain rfl : month = first := by omega
    simp only [monthAndDay, Prod.mk.injEq, true_and]
    omega
  | succ months ih =>
    rw [monthAndDay]
    rcases Nat.eq_or_lt_of_le hfrom with rfl | hlater
    · have hwithin : daysBeforeMonth year first + (day - 1) - daysBeforeMonth year first <
          daysInMonth year first := by omega
      rw [if_pos hwithin]
      simp only [Prod.mk.injEq, true_and]
      omega
    · have hnext := daysBeforeMonth_succ year hfirst
      have hmono := daysBeforeMonth_mono year (show first + 1 ≤ month from hlater)
      rw [if_neg (by omega)]
      rw [← ih (show 1 ≤ first + 1 by omega) hlater (by omega)]
      congr 1
      omega

/-- Wherever the search begins, it accounts for every day that was left. -/
theorem monthAndDay_spec (year months : Nat) {first left : Nat} (hfirst : 1 ≤ first)
    (hleft : daysBeforeMonth year first + left < daysBeforeMonth year (first + months + 1)) :
    ∃ month day, monthAndDay year months first left = (month, day) ∧
      first ≤ month ∧ month ≤ first + months ∧ 1 ≤ day ∧ day ≤ daysInMonth year month ∧
      daysBeforeMonth year month + day = daysBeforeMonth year first + left + 1 := by
  induction months generalizing first left with
  | zero =>
    have hnext := daysBeforeMonth_succ year hfirst
    rw [Nat.add_zero, hnext] at hleft
    exact ⟨first, left + 1, rfl, by omega, by omega, by omega, by omega, by omega⟩
  | succ months ih =>
    have hnext := daysBeforeMonth_succ year hfirst
    rw [monthAndDay]
    split
    · exact ⟨first, left + 1, rfl, by omega, by omega, by omega, by omega, by omega⟩
    · have hshift : first + (months + 1) + 1 = first + 1 + months + 1 := by omega
      rw [hshift] at hleft
      obtain ⟨month, day, heq, hrest⟩ :=
        @ih (first + 1) (left - daysInMonth year first) (by omega) (by omega)
      exact ⟨month, day, heq, by omega, by omega, by omega, by omega, by omega⟩

namespace Date

theorem ofParts?_parts (d : Date) : ofParts? d.year d.month d.day = some d := by
  unfold ofParts?
  rw [dif_pos d.isCalendarDay]

theorem eq_of_ofParts? {year month day : Nat} {d : Date} (h : ofParts? year month day = some d) :
    d.year = year ∧ d.month = month ∧ d.day = day := by
  unfold ofParts? at h
  split at h
  · cases h
    exact ⟨rfl, rfl, rfl⟩
  · cases h

theorem day_le_daysInMonth (d : Date) : 1 ≤ d.day ∧ d.day ≤ daysInMonth d.year d.month :=
  d.isCalendarDay.2.2

theorem dayOfYear_le (d : Date) : d.dayOfYear ≤ daysInYear d.year := by
  have hyear := d.isCalendarDay
  have hday := d.day_le_daysInMonth
  have hnext := daysBeforeMonth_succ d.year hyear.2.1.1
  have hlast := daysBeforeMonth_mono d.year
    (show d.month + 1 ≤ 13 from Nat.succ_le_succ hyear.2.1.2)
  rw [daysBeforeMonth_thirteen] at hlast
  unfold dayOfYear
  omega

theorem dayNumber_eq (d : Date) : d.dayNumber + 1 = daysBeforeYear d.year + d.dayOfYear := by
  have hday := d.day_le_daysInMonth
  unfold dayNumber dayOfYear
  omega

theorem daysBeforeYear_le_dayNumber (d : Date) : daysBeforeYear d.year ≤ d.dayNumber := by
  unfold dayNumber
  omega

theorem dayNumber_lt_daysBeforeYear_succ (d : Date) :
    d.dayNumber < daysBeforeYear (d.year + 1) := by
  have hyear := daysBeforeYear_succ d.isCalendarDay.1.1
  have hday := d.dayOfYear_le
  have hnumber := d.dayNumber_eq
  omega

/-- The days of the calendar. -/
def count : Nat := 3652059

theorem dayNumber_lt_count (d : Date) : d.dayNumber < count := by
  have hlast := daysBeforeYear_mono
    (show d.year + 1 ≤ 10000 from Nat.succ_le_succ d.isCalendarDay.1.2)
  exact Nat.lt_of_lt_of_le d.dayNumber_lt_daysBeforeYear_succ hlast

@[simp] theorem ofDayNumber?_dayNumber (d : Date) : ofDayNumber? d.dayNumber = some d := by
  have hyear : yearOfDayNumber d.dayNumber = d.year :=
    yearOfDayNumber_eq d.daysBeforeYear_le_dayNumber d.dayNumber_lt_daysBeforeYear_succ
  have hmonth := d.isCalendarDay.2.1
  have hsearch := monthAndDay_eq 11 (Nat.le_refl 1) hmonth.1 (by omega) d.day_le_daysInMonth.1
    d.day_le_daysInMonth.2
  have hleft : d.dayNumber - daysBeforeYear d.year =
      daysBeforeMonth d.year d.month + (d.day - 1) - daysBeforeMonth d.year 1 := by
    unfold dayNumber
    simp only [daysBeforeMonth]
    omega
  unfold ofDayNumber?
  simp only [hyear, hleft, hsearch]
  exact ofParts?_parts d

theorem exists_dayNumber_eq {n : Nat} (h : n < count) : ∃ d : Date, d.dayNumber = n := by
  obtain ⟨hpos, hfrom, hto⟩ := yearOfDayNumber_spec n
  generalize yearOfDayNumber n = year at hpos hfrom hto
  have hyear : year ≤ 9999 := by
    rcases Nat.lt_or_ge 9999 year with hmore | hle
    · have := daysBeforeYear_mono (show 10000 ≤ year from hmore)
      have hfirst : daysBeforeYear 10000 = count := rfl
      omega
    · exact hle
  have hlength := daysBeforeYear_succ hpos
  have hleft : daysBeforeMonth year 1 + (n - daysBeforeYear year) <
      daysBeforeMonth year (1 + 11 + 1) := by
    rw [show 1 + 11 + 1 = 13 from rfl, daysBeforeMonth_thirteen]
    simp only [daysBeforeMonth]
    omega
  obtain ⟨month, day, -, hmonth, hmonth', hday, hday', hsum⟩ :=
    monthAndDay_spec year 11 (Nat.le_refl 1) hleft
  refine ⟨⟨year, month, day, ⟨hpos, hyear⟩, ⟨hmonth, hmonth'⟩, hday, hday'⟩, ?_⟩
  simp only [daysBeforeMonth] at hsum
  unfold dayNumber
  simp only
  omega

theorem dayNumber_injective {d e : Date} (h : d.dayNumber = e.dayNumber) : d = e := by
  have hd := ofDayNumber?_dayNumber d
  rw [h, ofDayNumber?_dayNumber] at hd
  exact (Option.some.inj hd).symm

theorem ofDayNumber?_eq_some_iff {n : Nat} {d : Date} :
    ofDayNumber? n = some d ↔ d.dayNumber = n := by
  constructor
  · intro h
    rcases Nat.lt_or_ge n count with hin | hout
    · obtain ⟨e, rfl⟩ := exists_dayNumber_eq hin
      rw [ofDayNumber?_dayNumber] at h
      rw [Option.some.inj h]
    · obtain ⟨-, -, hto⟩ := yearOfDayNumber_spec n
      have hyear := d.isCalendarDay.1.2
      rw [(eq_of_ofParts? h).1] at hyear
      have hlast := daysBeforeYear_mono (Nat.succ_le_succ hyear)
      exact absurd (Nat.lt_of_lt_of_le hto hlast) (Nat.not_lt.mpr hout)
  · rintro rfl
    exact ofDayNumber?_dayNumber d

theorem addDays?_eq_some_iff {d e : Date} {days : Int} :
    d.addDays? days = some e ↔ (e.dayNumber : Int) = d.dayNumber + days := by
  unfold addDays?
  dsimp only
  split
  · rename_i hneg
    constructor
    · exact nofun
    · omega
  · rw [ofDayNumber?_eq_some_iff]
    omega

theorem addDays?_eq_none_iff {d : Date} {days : Int} :
    d.addDays? days = none ↔ ¬∃ e : Date, (e.dayNumber : Int) = d.dayNumber + days := by
  rw [Option.eq_none_iff_forall_ne_some, not_exists]
  exact forall_congr' fun e => not_congr addDays?_eq_some_iff

theorem lt_iff {d e : Date} :
    d < e ↔ d.year < e.year ∨ d.year = e.year ∧
      (d.month < e.month ∨ d.month = e.month ∧ d.day < e.day) := by
  change (compare d.year e.year).then
    ((compare d.month e.month).then (compare d.day e.day)) = .lt ↔ _
  rw [Ordering.then_eq_lt, Ordering.then_eq_lt, Nat.compare_eq_lt, Nat.compare_eq_lt,
    Nat.compare_eq_lt, Nat.compare_eq_eq, Nat.compare_eq_eq]

theorem dayNumber_lt_of_lt {d e : Date} (h : d < e) : d.dayNumber < e.dayNumber := by
  have hd := d.day_le_daysInMonth
  rcases lt_iff.mp h with hyear | ⟨hyear, hmonth | ⟨hmonth, hday⟩⟩
  · have hnext := daysBeforeYear_mono (show d.year + 1 ≤ e.year from hyear)
    exact Nat.lt_of_lt_of_le d.dayNumber_lt_daysBeforeYear_succ
      (Nat.le_trans hnext e.daysBeforeYear_le_dayNumber)
  · have hmonths := daysBeforeMonth_succ d.year d.isCalendarDay.2.1.1
    have hnext := daysBeforeMonth_mono d.year (show d.month + 1 ≤ e.month from hmonth)
    unfold dayNumber
    rw [← hyear]
    omega
  · unfold dayNumber
    rw [← hyear, ← hmonth]
    omega

theorem eq_of_parts {d e : Date} (hyear : d.year = e.year) (hmonth : d.month = e.month)
    (hday : d.day = e.day) : d = e := by
  cases d
  cases e
  simp only at hyear hmonth hday
  subst hyear hmonth hday
  rfl

theorem lt_or_eq_or_lt (d e : Date) : d < e ∨ d = e ∨ e < d := by
  rw [lt_iff, lt_iff]
  by_cases hsame : d.year = e.year ∧ d.month = e.month ∧ d.day = e.day
  · exact .inr (.inl (eq_of_parts hsame.1 hsame.2.1 hsame.2.2))
  · omega

theorem dayNumber_lt_iff {d e : Date} : d.dayNumber < e.dayNumber ↔ d < e := by
  refine ⟨fun h => ?_, dayNumber_lt_of_lt⟩
  rcases lt_or_eq_or_lt d e with hlt | rfl | hgt
  · exact hlt
  · exact absurd h (Nat.lt_irrefl _)
  · exact absurd (dayNumber_lt_of_lt hgt) (Nat.lt_asymm h)

theorem compare_eq_iff {d e : Date} : compare d e = .eq ↔ d = e := by
  change (compare d.year e.year).then
    ((compare d.month e.month).then (compare d.day e.day)) = .eq ↔ _
  rw [Ordering.then_eq_eq, Ordering.then_eq_eq, Nat.compare_eq_eq, Nat.compare_eq_eq,
    Nat.compare_eq_eq]
  constructor
  · rintro ⟨hyear, hmonth, hday⟩
    exact eq_of_parts hyear hmonth hday
  · rintro rfl
    exact ⟨rfl, rfl, rfl⟩

theorem dayNumber_eq_iff {d e : Date} : d.dayNumber = e.dayNumber ↔ d = e :=
  ⟨dayNumber_injective, congrArg _⟩

theorem dayNumber_le_iff {d e : Date} : d.dayNumber ≤ e.dayNumber ↔ d ≤ e := by
  change _ ↔ (compare d e).isLE = true
  rw [Ordering.isLE_iff_eq_lt_or_eq_eq, compare_eq_iff, ← dayNumber_eq_iff]
  change _ ↔ d < e ∨ _
  rw [← dayNumber_lt_iff]
  omega

theorem lt_irrefl (d : Date) : ¬d < d := fun h => Nat.lt_irrefl _ (dayNumber_lt_of_lt h)

theorem lt_of_le_of_ne {d e : Date} (h : d ≤ e) (hne : d ≠ e) : d < e :=
  dayNumber_lt_iff.mp (Nat.lt_of_le_of_ne (dayNumber_le_iff.mpr h) (mt dayNumber_injective hne))

end Date
end DateRules
