import Mathlib.Data.Set.Card
import Mathlib.Order.Interval.Finset.Nat
import DateRules.Calendar.Easter
import DateRules.Calendar.Weekday
import DateRules.Proofs.Calendar.DayCount

/-!
What the calendar's numbers and days are, stated without the formulas that find them: how many days
came before, the last day of a month, and the Sunday after the paschal moon.
-/
namespace DateRules

theorem Weekday.index_ofIndex (n : Nat) : (ofIndex n).index = n % 7 := by
  have hindex : ∀ k < 7, (ofIndex k).index = k := by decide
  have hmod : ofIndex n = ofIndex (n % 7) := by
    unfold ofIndex
    rw [Nat.mod_mod]
  rw [hmod, hindex _ (Nat.mod_lt n (by decide))]

namespace Date

theorem image_dayNumber (d : Date) {p : Date → Prop} {first : Nat}
    (h : ∀ e : Date, e < d → (p e ↔ first ≤ e.dayNumber)) :
    dayNumber '' {e | p e ∧ e < d} = Finset.Ico first d.dayNumber := by
  ext n
  simp only [Set.mem_image, Set.mem_ofPred_eq, Finset.coe_Ico, Set.mem_Ico]
  constructor
  · rintro ⟨e, ⟨hp, hlt⟩, rfl⟩
    exact ⟨(h e hlt).mp hp, dayNumber_lt_iff.mpr hlt⟩
  · rintro ⟨hfirst, hn⟩
    obtain ⟨e, rfl⟩ := exists_dayNumber_eq (Nat.lt_trans hn d.dayNumber_lt_count)
    have hlt := dayNumber_lt_iff.mp hn
    exact ⟨e, ⟨(h e hlt).mpr hfirst, hlt⟩, rfl⟩

theorem ncard_before_from (d : Date) {p : Date → Prop} {first : Nat}
    (h : ∀ e : Date, e < d → (p e ↔ first ≤ e.dayNumber)) :
    {e | p e ∧ e < d}.ncard = d.dayNumber - first := by
  have hinjective : Function.Injective dayNumber := fun _ _ heq => dayNumber_injective heq
  rw [← Set.ncard_image_of_injective _ hinjective, image_dayNumber d h, Set.ncard_coe_finset,
    Nat.card_Ico]

/-- As many days as came before. -/
theorem ncard_before (d : Date) : {e | e < d}.ncard = d.dayNumber := by
  have hall : {e | True ∧ e < d}.ncard = d.dayNumber - 0 :=
    ncard_before_from d fun e _ => iff_of_true trivial (Nat.zero_le _)
  simpa using hall

theorem year_eq_iff {d e : Date} (h : e < d) :
    e.year = d.year ↔ daysBeforeYear d.year ≤ e.dayNumber := by
  have hlt := dayNumber_lt_iff.mpr h
  constructor
  · intro hyear
    rw [← hyear]
    exact e.daysBeforeYear_le_dayNumber
  · intro hfrom
    rw [← yearOfDayNumber_eq hfrom (Nat.lt_trans hlt d.dayNumber_lt_daysBeforeYear_succ)]
    exact (yearOfDayNumber_eq e.daysBeforeYear_le_dayNumber
      e.dayNumber_lt_daysBeforeYear_succ).symm

/-- One more than the days of the year that came before. -/
theorem ncard_before_in_year (d : Date) :
    {e | e.year = d.year ∧ e < d}.ncard + 1 = d.dayOfYear := by
  rw [ncard_before_from d fun e => year_eq_iff]
  have hcount := d.dayNumber_eq
  have hfrom := d.daysBeforeYear_le_dayNumber
  omega

/-- Days of the week follow one another from Monday 1 January 1 on. -/
theorem index_weekday (d : Date) : d.weekday.index = ({e | e < d}.ncard + 1) % 7 := by
  rw [ncard_before, weekday, Weekday.index_ofIndex]

def IsEndOfMonth (d e : Date) : Prop :=
  (e.year = d.year ∧ e.month = d.month) ∧
    ∀ other : Date, other.year = d.year → other.month = d.month → other = e ∨ other < e

theorem isEndOfMonth_endOfMonth (d : Date) : IsEndOfMonth d d.endOfMonth := by
  refine ⟨⟨rfl, rfl⟩, fun other hyear hmonth => ?_⟩
  have hday := other.day_le_daysInMonth.2
  rw [hyear, hmonth] at hday
  rcases Nat.eq_or_lt_of_le hday with heq | hlt
  · exact .inl (eq_of_parts hyear hmonth heq)
  · exact .inr (lt_iff.mpr (.inr ⟨hyear, .inr ⟨hmonth, hlt⟩⟩))

theorem isEndOfMonth_iff {d e : Date} : IsEndOfMonth d e ↔ e = d.endOfMonth := by
  constructor
  · intro h
    rcases h.2 d.endOfMonth rfl rfl with heq | hlt
    · exact heq.symm
    · rcases (isEndOfMonth_endOfMonth d).2 e h.1.1 h.1.2 with heq | hlt'
      · exact heq
      · have hcount := dayNumber_lt_iff.mpr hlt
        have hcount' := dayNumber_lt_iff.mpr hlt'
        omega
  · rintro rfl
    exact isEndOfMonth_endOfMonth d

end Date

/-- The day of the paschal moon, counted from the start of March: the moon's fourteenth day on 21
March or after, by the golden number of the year and the epact of its century. -/
def paschalMoon (year : Nat) : Int :=
  let golden : Int := year % 19 + 1
  let century : Int := year / 100 + 1
  let droppedLeapDays := 3 * century / 4 - 12
  let moonCorrection := (8 * century + 5) / 25 - 5
  let epact := (11 * golden + 20 + moonCorrection - droppedLeapDays) % 30
  let epact := if epact = 24 ∨ epact = 25 ∧ 11 < golden then epact + 1 else epact
  if 44 - epact < 21 then 74 - epact else 44 - epact

namespace Date

/-- The day of March, counted on into April. -/
def dayOfMarch (d : Date) : Nat := if d.month = 3 then d.day else 31 + d.day

/-- The first Sunday after the paschal moon. -/
def IsEaster (d : Date) : Prop :=
  (d.month = 3 ∨ d.month = 4) ∧ d.weekday = .sunday ∧
    paschalMoon d.year < d.dayOfMarch ∧ d.dayOfMarch ≤ paschalMoon d.year + 7

instance (d : Date) : Decidable d.IsEaster := by
  unfold IsEaster
  infer_instance

theorem dayNumber_eq_of_march {d : Date} (h : d.month = 3 ∨ d.month = 4) :
    d.dayNumber + 1 = daysBeforeYear d.year + daysBeforeMonth d.year 3 + d.dayOfMarch := by
  have hday := d.day_le_daysInMonth.1
  have hapril : daysBeforeMonth d.year 4 = daysBeforeMonth d.year 3 + 31 :=
    daysBeforeMonth_succ d.year (by decide)
  unfold dayNumber dayOfMarch
  rcases h with hmonth | hmonth
  · rw [hmonth, if_pos rfl]
    omega
  · rw [hmonth, if_neg (by decide), hapril]
    omega

theorem IsEaster.unique {d e : Date} (hd : d.IsEaster) (he : e.IsEaster)
    (hyear : d.year = e.year) : d = e := by
  obtain ⟨hdmonth, hdsunday, hdafter, hdwithin⟩ := hd
  obtain ⟨hemonth, hesunday, heafter, hewithin⟩ := he
  have hweek : (d.dayNumber + 1) % 7 = (e.dayNumber + 1) % 7 := by
    rw [← ncard_before d, ← ncard_before e, ← index_weekday, ← index_weekday, hdsunday, hesunday]
  have hdcount := dayNumber_eq_of_march hdmonth
  have hecount := dayNumber_eq_of_march hemonth
  rw [hyear] at hdafter hdwithin hdcount
  exact dayNumber_injective (by omega)

end Date

namespace Easter

theorem table_check : ∀ k < 200, ((sunday? ((1900 + k : Nat) : Int)).any fun d =>
    d.year == 1900 + k && decide d.IsEaster) = true := by
  decide +kernel

theorem sunday?_eq_none {year : Int} (h : year < 1900 ∨ 2099 < year) : sunday? year = none := by
  unfold sunday?
  split
  · rfl
  · rename_i hfirst
    have hlong : table.length ≤ (year - firstYear).toNat := by
      have hlength : table.length = 200 := rfl
      simp only [firstYear] at hfirst ⊢
      omega
    rw [List.getElem?_eq_none hlong]

/-- The table has the Easter Sundays of the years from 1900 to 2099, and no others. -/
theorem sunday?_eq_some_iff {year : Int} {d : Date} : sunday? year = some d ↔
    (1900 ≤ year ∧ year ≤ 2099) ∧ (d.year : Int) = year ∧ d.IsEaster := by
  by_cases hrange : 1900 ≤ year ∧ year ≤ 2099
  · obtain ⟨k, hk, rfl⟩ : ∃ k < 200, year = ((1900 + k : Nat) : Int) :=
      ⟨(year - 1900).toNat, by omega, by omega⟩
    obtain ⟨e, he, htest⟩ := (Option.any_eq_true _ _).mp (table_check k hk)
    simp only [Bool.and_eq_true, beq_iff_eq, decide_eq_true_eq] at htest
    obtain ⟨hyear, heaster⟩ := htest
    rw [he, Option.some_inj]
    constructor
    · rintro rfl
      exact ⟨hrange, by rw [hyear], heaster⟩
    · rintro ⟨-, hyear', heaster'⟩
      exact heaster.unique heaster' (by omega)
  · rw [sunday?_eq_none (by omega)]
    simp [hrange]

end Easter
end DateRules
