import DateRules.Calendar.Iso
import DateRules.Proofs.Calendar.DayCount

/-! The text of a date is read as that date, and no other text is. -/
namespace DateRules

theorem isDigit_iff {c : Char} :
    c.isDigit = true ↔ '0'.toNat ≤ c.toNat ∧ c.toNat ≤ '0'.toNat + 9 := by
  simp only [Char.isDigit, Bool.and_eq_true, decide_eq_true_eq, ge_iff_le, UInt32.le_iff_toNat_le]
  exact Iff.rfl

@[simp] theorem toNat_lastDigit (n : Nat) : (lastDigit n).toNat = '0'.toNat + n % 10 := by
  have hdigit : ∀ k < 10, (Char.ofNat ('0'.toNat + k)).toNat = '0'.toNat + k := by decide
  exact hdigit (n % 10) (Nat.mod_lt n (by decide))

@[simp] theorem isDigit_lastDigit (n : Nat) : (lastDigit n).isDigit = true := by
  rw [isDigit_iff, toNat_lastDigit]
  omega

theorem lastDigit_eq {c : Char} {n : Nat} (h : c.isDigit = true)
    (hn : n % 10 = c.toNat - '0'.toNat) : lastDigit n = c := by
  have hrange := isDigit_iff.mp h
  apply Char.toNat_inj.mp
  rw [toNat_lastDigit, hn]
  omega

theorem isDecimal_of_isDigit {c : Char} (h : c.isDigit = true) : Text.isDecimal c = true := by
  have hrange := isDigit_iff.mp h
  unfold Text.isDecimal Text.decimalValue?
  rw [Option.isSome_map, List.find?_isSome]
  refine ⟨'0'.toNat, List.mem_cons_self, ?_⟩
  simp only [Bool.and_eq_true, decide_eq_true_eq]
  omega

@[simp] theorem isDecimal_lastDigit (n : Nat) : Text.isDecimal (lastDigit n) = true :=
  isDecimal_of_isDigit (isDigit_lastDigit n)

theorem asciiNumber?_eq_some {cs : List Char} {n : Nat} (h : asciiNumber? cs = some n) :
    (∀ c ∈ cs, c.isDigit = true) ∧
      n = cs.foldl (fun n c => 10 * n + (c.toNat - '0'.toNat)) 0 := by
  unfold asciiNumber? at h
  split at h
  · rename_i hall
    exact ⟨List.all_eq_true.mp hall, (Option.some.inj h).symm⟩
  · cases h

/-- What the form of a date looks like. -/
theorem hasIsoForm_iff {cs : List Char} : hasIsoForm cs = true ↔
    ∃ a b c d e f g h, cs = [a, b, c, d, '-', e, f, '-', g, h] ∧
      ∀ x ∈ [a, b, c, d, e, f, g, h], Text.isDecimal x = true := by
  constructor
  · intro hform
    unfold hasIsoForm at hform
    split at hform
    · exact ⟨_, _, _, _, _, _, _, _, rfl, List.all_eq_true.mp hform⟩
    · cases hform
  · rintro ⟨a, b, c, d, e, f, g, h, rfl, hall⟩
    exact List.all_eq_true.mpr hall

namespace Date

@[simp] theorem length_isoChars (d : Date) : d.isoChars.length = 10 := rfl

@[simp] theorem hasIsoForm_isoChars (d : Date) : hasIsoForm d.isoChars = true := by
  simp [hasIsoForm, isoChars]

theorem day_le_31 (d : Date) : d.day ≤ 31 := by
  have hday := d.isCalendarDay.2.2.2
  have hmonth : daysInMonth d.year d.month ≤ 31 := by
    unfold daysInMonth
    split
    · split <;> decide
    all_goals decide
  omega

@[simp] theorem ofIso?_isoChars (d : Date) : ofIso? d.isoChars = some d := by
  have hyear : d.year ≤ 9999 := d.isCalendarDay.1.2
  have hmonth : d.month ≤ 12 := d.isCalendarDay.2.1.2
  have hday := d.day_le_31
  have hreadYear : asciiNumber? [lastDigit (d.year / 1000), lastDigit (d.year / 100),
      lastDigit (d.year / 10), lastDigit d.year] = some d.year := by
    simp [asciiNumber?]
    omega
  have hreadMonth : asciiNumber? [lastDigit (d.month / 10), lastDigit d.month] = some d.month := by
    simp [asciiNumber?]
    omega
  have hreadDay : asciiNumber? [lastDigit (d.day / 10), lastDigit d.day] = some d.day := by
    simp [asciiNumber?]
    omega
  unfold ofIso? isoChars
  simp only [hreadYear, hreadMonth, hreadDay, Option.bind_eq_bind, Option.bind_some]
  exact ofParts?_parts d

theorem eq_isoChars_of_ofIso? {cs : List Char} {d : Date} (h : ofIso? cs = some d) :
    cs = d.isoChars := by
  unfold ofIso? at h
  split at h
  · rename_i y₁ y₂ y₃ y₄ m₁ m₂ d₁ d₂
    simp only [Option.bind_eq_bind, Option.bind_eq_some_iff] at h
    obtain ⟨year, hyear, month, hmonth, day, hday, hparts⟩ := h
    obtain ⟨rfl, rfl, rfl⟩ := eq_of_ofParts? hparts
    obtain ⟨hyears, hyear⟩ := asciiNumber?_eq_some hyear
    obtain ⟨hmonths, hmonth⟩ := asciiNumber?_eq_some hmonth
    obtain ⟨hdays, hday⟩ := asciiNumber?_eq_some hday
    simp only [List.mem_cons, List.not_mem_nil, or_false, forall_eq_or_imp, forall_eq,
      List.foldl_cons, List.foldl_nil] at hyears hyear hmonths hmonth hdays hday
    have hy₁ := isDigit_iff.mp hyears.1
    have hy₂ := isDigit_iff.mp hyears.2.1
    have hy₃ := isDigit_iff.mp hyears.2.2.1
    have hy₄ := isDigit_iff.mp hyears.2.2.2
    have hm₁ := isDigit_iff.mp hmonths.1
    have hm₂ := isDigit_iff.mp hmonths.2
    have hd₁ := isDigit_iff.mp hdays.1
    have hd₂ := isDigit_iff.mp hdays.2
    unfold isoChars
    rw [lastDigit_eq hyears.1, lastDigit_eq hyears.2.1, lastDigit_eq hyears.2.2.1,
      lastDigit_eq hyears.2.2.2, lastDigit_eq hmonths.1, lastDigit_eq hmonths.2,
      lastDigit_eq hdays.1, lastDigit_eq hdays.2] <;> omega
  · cases h

theorem isoChars_injective {d e : Date} (h : d.isoChars = e.isoChars) : d = e := by
  have := ofIso?_isoChars d
  rw [h, ofIso?_isoChars] at this
  exact (Option.some.inj this).symm

end Date

namespace IsoReading

theorem ofChars_eq_date_iff {cs : List Char} {d : Date} :
    ofChars cs = .date d ↔ cs = d.isoChars := by
  constructor
  · intro h
    unfold ofChars at h
    split at h
    · split at h
      · rename_i e he
        cases h
        exact Date.eq_isoChars_of_ofIso? he
      · cases h
    · cases h
  · rintro rfl
    unfold ofChars
    rw [if_pos d.hasIsoForm_isoChars, Date.ofIso?_isoChars]

theorem ofChars_eq_otherForm_iff {cs : List Char} :
    ofChars cs = .otherForm ↔ hasIsoForm cs = false := by
  unfold ofChars
  split
  · rename_i h
    rw [h]
    split <;> simp
  · rename_i h
    simp [h]

end IsoReading
end DateRules
