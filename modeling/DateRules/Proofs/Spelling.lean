import DateRules.Criteria.Step
import DateRules.Proofs.Gedcom
import DateRules.Proofs.Operand.Split

/-!
The ways to write a day: as a date or a moment, in ISO form, as in a genealogical record, and by its
parts. They are read by different readers, and all of them as that day.
-/
namespace DateRules

open Text (AllBlank AreDigits)

/-- The three letters of the month's name, each of either case. -/
def IsMonthName (letters : List Char) (month : Nat) : Prop :=
  monthAbbreviations[month - 1]? = some (letters.map Char.toUpper)

theorem monthAbbreviations_check : ∀ i < 12, ∀ name ∈ monthAbbreviations[i]?,
    name.length = 3 ∧ name.all Char.isUpper = true ∧ Text.upper name = name ∧
      monthAbbreviations.idxOf? name = some i := by
  decide +kernel

theorem isNameLetter_of_toUpper {c : Char} (h : c.toUpper.isUpper = true) :
    Text.isNameLetter c = true := by
  rw [Text.isNameLetter, Text.contains_iff]
  by_cases hlower : c.isLower = true
  · exact ⟨('a'.toNat, 'z'.toNat), by decide, Text.isLower_iff.mp hlower⟩
  · have hkept : c.toUpper = c := dif_neg fun hrange => by
      rw [Text.isLower_iff] at hlower
      exact hlower ⟨UInt32.le_iff_toNat_le.mp hrange.1, UInt32.le_iff_toNat_le.mp hrange.2⟩
    rw [hkept] at h
    exact ⟨('A'.toNat, 'Z'.toNat), by decide, Text.isUpper_iff.mp h⟩

theorem upper_of_isNameLetter {c : Char} (h : Text.isNameLetter c = true) :
    Text.uppercaseMapping.apply c = [c.toUpper] ∧ (Gedcom.letter? c).isSome = true := by
  have htable : ∀ n ∈ Text.nameLetterRanges.codes,
      Text.uppercaseMapping.apply (Char.ofNat n) = [(Char.ofNat n).toUpper] ∧
        (Gedcom.letter? (Char.ofNat n)).isSome = true := by decide +kernel
  obtain ⟨n, hn, rfl⟩ := Text.exists_code_of_contains h
  exact htable n hn

theorem upper_eq_map {letters : List Char} (h : ∀ c ∈ letters, Text.isNameLetter c = true) :
    Text.upper letters = letters.map Char.toUpper := by
  induction letters with
  | nil => rfl
  | cons c letters ih =>
    obtain ⟨hc, hletters⟩ := List.forall_mem_cons.mp h
    rw [Text.upper, List.flatMap_cons, (upper_of_isNameLetter hc).1]
    exact congrArg (c.toUpper :: ·) (ih hletters)

namespace IsMonthName

variable {letters : List Char} {d : Date} (h : IsMonthName letters d.month)
include h

theorem spec : letters.length = 3 ∧ (∀ c ∈ letters, Text.isNameLetter c = true) ∧
    monthOfName? (letters.map Char.toUpper) = some d.month := by
  have hmonth := d.isCalendarDay.2.1
  obtain ⟨hlength, hupper, hkept, hindex⟩ := monthAbbreviations_check (d.month - 1) (by omega) _ h
  rw [List.length_map] at hlength
  have hletters : ∀ c ∈ letters, Text.isNameLetter c = true := fun c hc =>
    isNameLetter_of_toUpper (List.all_eq_true.mp hupper _ (List.mem_map_of_mem hc))
  refine ⟨hlength, hletters, ?_⟩
  rw [monthOfName?, hkept, List.take_of_length_le (by rw [List.length_map, hlength]), hindex]
  simp only [Option.map_some, Option.some.injEq]
  omega

theorem isMonth : Gedcom.IsMonth letters :=
  ⟨.inl h.spec.1, fun c hc => (upper_of_isNameLetter (h.spec.2.1 c hc)).2⟩

theorem monthNumber?_upper :
    monthNumber? (.text (String.ofList (Text.upper letters))) = .ok (some d.month) := by
  rw [upper_eq_map h.spec.2.1, monthNumber?, String.toList_ofList, h.spec.2.2]
  rfl

end IsMonthName

/-- The integer, or true for one. -/
def Data.IsCount (v : Data) (n : Nat) : Prop := v = .integer n ∨ v = .bool true ∧ n = 1

theorem Data.IsCount.toInteger {v : Data} {n : Nat} (h : v.IsCount n) : v.toInteger = .ok n := by
  rcases h with rfl | ⟨rfl, rfl⟩ <;> rfl

theorem Data.IsCount.monthNumber? {v : Data} {n : Nat} (h : v.IsCount n) (hn : n ≠ 0) :
    monthNumber? v = .ok (some n) := by
  rcases h with rfl | ⟨rfl, rfl⟩
  · exact congrArg Except.ok (if_neg (Int.natCast_ne_zero.mpr hn))
  · rfl

theorem Data.not_isCount_null (n : Nat) : ¬Data.null.IsCount n := by
  rintro (h | ⟨h, -⟩) <;> cases h

theorem Date.ofIntegers_parts (d : Date) : Date.ofIntegers d.year d.month d.day = .ok d := by
  have hyear := d.isCalendarDay.1
  have hmonth := d.isCalendarDay.2.1
  have hday := d.day_le_31
  have hfits : (fitsWord d.year && fitsWord d.month && fitsWord d.day) = true := by
    simp only [fitsWord, Bool.and_eq_true, decide_eq_true_eq]
    omega
  unfold Date.ofIntegers
  rw [hfits, if_neg (by decide), if_neg (by omega)]
  simp only [Int.toNat_natCast, Date.ofParts?_parts]

theorem DateParts.date?_of_isCount {p : DateParts} {d : Date} (hyear : p.year.IsCount d.year)
    (hmonth : monthNumber? p.month = .ok (some d.month)) (hday : p.day.IsCount d.day) :
    p.date? = .ok (some d) := by
  unfold DateParts.date?
  split
  · rename_i hnull
    exact absurd (hnull ▸ hyear) (Data.not_isCount_null _)
  · rename_i hnull _
    rw [hnull] at hmonth
    cases hmonth
  · rename_i hnull _ _
    exact absurd (hnull ▸ hday) (Data.not_isCount_null _)
  · simp only [hmonth, hyear.toInteger, hday.toInteger, d.ofIntegers_parts, bind, Except.bind]
    rfl

theorem dateOfParts_of_isCount (label : Option String) {p : DateParts} {d : Date}
    (hyear : p.year.IsCount d.year) (hmonth : monthNumber? p.month = .ok (some d.month))
    (hday : p.day.IsCount d.day) : dateOfParts label p = .ok d := by
  unfold dateOfParts
  rw [DateParts.date?_of_isCount hyear hmonth hday]
  rfl

/-- Digits of any script that write the number, with zeros in front or without; as many as are
read. -/
structure IsNumeral (digits : List Char) (n : Nat) : Prop where
  areDigits : AreDigits digits
  length_le : digits.length ≤ Text.Numeral.maxDigits
  magnitude_eq : Text.Numeral.magnitude digits = n

theorem IsNumeral.isCount {digits : List Char} {n : Nat} (h : IsNumeral digits n) :
    (Data.integer (Text.Numeral.magnitude digits)).IsCount n :=
  .inl (by rw [h.magnitude_eq])

/-- The text is the day in ISO form, or its day, month and year as in a genealogical record. -/
inductive Date.IsText (d : Date) (cs : List Char) : Prop
  | iso {before behind} (hbefore : AllBlank before) (hbehind : AllBlank behind)
    (heq : cs = before ++ d.isoChars ++ behind)
  | record {day letters year} (hday : IsNumeral day d.day) (hmonth : IsMonthName letters d.month)
    (hyear : IsNumeral year d.year) (hwritten : Gedcom.IsWrittenAs day letters year cs)

theorem date?_plain {day letters year : List Char} {d : Date} (hday : IsNumeral day d.day)
    (hmonth : IsMonthName letters d.month) (hyear : IsNumeral year d.year) :
    (Gedcom.DateValue.plain ⟨none, some day, some letters, year, none, false⟩).date? =
      .ok (some d) := by
  have hacceptable : Gedcom.WrittenDate.isAcceptable
      ⟨none, some day, some letters, year, none, false⟩ = true := by
    simp [Gedcom.WrittenDate.isAcceptable, hday.length_le, hyear.length_le]
  unfold Gedcom.DateValue.date?
  rw [if_neg (by simp [Gedcom.DateValue.dates, hacceptable])]
  exact DateParts.date?_of_isCount hyear.isCount hmonth.monthNumber?_upper hday.isCount

theorem dateOfText_of_isText {s : String} {d : Date} (h : d.IsText s.toList) :
    dateOfText s = .ok d := by
  unfold dateOfText
  cases h with
  | iso hbefore hbehind heq =>
    rw [heq, Text.trim_append hbefore (trimmed_isoChars d) hbehind,
      IsoReading.ofChars_eq_date_iff.mpr rfl]
  | record hday hmonth hyear hwritten =>
    have hother := IsoReading.ofChars_eq_otherForm_iff.mpr
      (Gedcom.hasIsoForm_of_isWrittenAs hday.areDigits hyear.areDigits hwritten)
    have hread := Gedcom.ofChars_of_isWrittenAs hday.areDigits hyear.areDigits hwritten
      hmonth.isMonth
    rw [hother, hread, date?_plain hday hmonth hyear]
    rfl

/-- The value stands for the day. Of a moment the time does not matter, and of a calendar date the
era. -/
inductive Query.Spells (d : Date) : Query → Prop
  | date : Spells d (.date d)
  | value : Spells d (.value (.date d))
  | moment {t : Moment} (h : t.date = d) : Spells d (.value (.moment t))
  | text {s : String} (h : d.IsText s.toList) : Spells d (.text s)
  | textValue {s : String} (h : d.IsText s.toList) : Spells d (.value (.text s))
  | calendarDate {year day : Data} {month : String} (beforeChrist : Bool)
    (hyear : year.IsCount d.year) (hmonth : IsMonthName month.toList d.month)
    (hday : day.IsCount d.day) :
    Spells d (.calendarDate ⟨.gregorian, year, .text month, day, beforeChrist⟩)
  | object {year month day : Data} (label typeLabel : String) (hyear : year.IsCount d.year)
    (hmonth : month.IsCount d.month) (hday : day.IsCount d.day) :
    Spells d (.object label typeLabel (some year) (some month) (some day))

theorem Query.Spells.toDate {d : Date} {q : Query} (h : q.Spells d) : q.toDate = .ok d := by
  cases h with
  | date => rfl
  | value => rfl
  | moment h => exact congrArg Except.ok h
  | text h => exact dateOfText_of_isText h
  | textValue h => exact dateOfText_of_isText h
  | calendarDate beforeChrist hyear hmonth hday =>
    exact dateOfParts_of_isCount _ hyear hmonth.monthNumber?_upper hday
  | object label typeLabel hyear hmonth hday =>
    have hnumber := hmonth.monthNumber? (Nat.ne_of_gt d.isCalendarDay.2.1.1)
    exact dateOfParts_of_isCount _ hyear hnumber hday

namespace Date

/-- A text without the blanks around it is read in ISO form as the day whose form it is. Whatever
spells a day is read as that day, so that it makes no difference to any criteria which of its
spellings is looked up. -/
theorem spellings_are_one_query :
    (∀ (text : String) (d : Date), IsoReading.ofChars (Text.trim text.toList) = .date d ↔
      Text.trim text.toList = d.isoChars) ∧
    ∀ d : Date, (∀ q : Query, q.Spells d → q.toDate = .ok d) ∧
      ∀ q q' : Query, q.Spells d → q'.Spells d → ∀ c : Criteria, c.contains q = c.contains q' := by
  refine ⟨fun text d => IsoReading.ofChars_eq_date_iff, fun d => ⟨fun q h => h.toDate, ?_⟩⟩
  intro q q' h h' c
  unfold Criteria.contains
  rw [h.toDate, h'.toDate]

/-- The zeros in front, the letter case and the kinds of blanks do not matter. -/
theorem two_spellings_of_5_December_2022 :
    let d : Date := ⟨2022, 12, 5, by decide⟩
    let q : Query := .text "\t005  dEc\n02022 "
    let q' : Query := .object "" "" (some (.integer 2022)) (some (.integer 12)) (some (.integer 5))
    q.Spells d ∧ q'.Spells d ∧ ∀ c : Criteria, c.contains q = c.contains q' := by
  intro d q q'
  have hday : IsNumeral "005".toList d.day := ⟨⟨by decide, List.all_eq_true.mp rfl⟩, by decide, rfl⟩
  have hyear : IsNumeral "02022".toList d.year :=
    ⟨⟨by decide, List.all_eq_true.mp rfl⟩, by decide, rfl⟩
  have hmonth : IsMonthName "dEc".toList d.month := rfl
  have hwritten : Gedcom.IsWrittenAs "005".toList "dEc".toList "02022".toList
      "\t005  dEc\n02022 ".toList :=
    ⟨['\t'], [' ', ' '], ['\n'], [' '], List.all_eq_true.mp rfl,
      ⟨by decide, List.all_eq_true.mp rfl⟩, ⟨by decide, List.all_eq_true.mp rfl⟩,
      List.all_eq_true.mp rfl, rfl⟩
  have hq : q.Spells d := .text (.record hday hmonth hyear hwritten)
  have hq' : q'.Spells d := .object "" "" (.inl rfl) (.inl rfl) (.inl rfl)
  exact ⟨hq, hq', (spellings_are_one_query.2 d).2 q q' hq hq'⟩

end Date
end DateRules
