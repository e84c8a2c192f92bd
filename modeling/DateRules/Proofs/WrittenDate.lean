import DateRules.Proofs.Outcome
import DateRules.Proofs.Spelling

/-!
The days that texts are taken for. A text that has not the form of an ISO date is taken for a day
only if it is a plain date to the day, and then for the day with the numbers that are written.
Neither the calendar of these numbers nor their era is looked at.
-/
namespace DateRules

open Gedcom (WrittenDate DateValue IsFullDate letter?)

theorem uppercaseMapping_apply_twice {c : Char} (h : (letter? c).isSome = true) :
    ∃ u, Text.uppercaseMapping.apply c = [u] ∧ Text.uppercaseMapping.apply u = [u] := by
  have htable : ∀ n ∈ Gedcom.letterRanges.codes,
      (Text.uppercaseMapping.apply (Char.ofNat n)).any fun u =>
        Text.uppercaseMapping.apply (Char.ofNat n) == [u] &&
          Text.uppercaseMapping.apply u == [u] := by
    decide +kernel
  obtain ⟨n, hn, rfl⟩ := Text.exists_code_of_contains (Gedcom.contains_letterRanges h)
  obtain ⟨u, -, hu⟩ := List.any_eq_true.mp (htable n hn)
  simp only [Bool.and_eq_true, beq_iff_eq] at hu
  exact ⟨u, hu⟩

theorem upper_upper {letters : List Char} (h : ∀ c ∈ letters, (letter? c).isSome = true) :
    Text.upper (Text.upper letters) = Text.upper letters := by
  induction letters with
  | nil => rfl
  | cons c letters ih =>
    obtain ⟨hc, hletters⟩ := List.forall_mem_cons.mp h
    obtain ⟨u, hu, huu⟩ := uppercaseMapping_apply_twice hc
    have hcons : Text.upper (c :: letters) = u :: Text.upper letters := by
      rw [Text.upper, List.flatMap_cons, hu]
      rfl
    rw [hcons, Text.upper, List.flatMap_cons, huu]
    exact congrArg (u :: ·) (ih hletters)

/-- The name of the month begins with these letters, of which only the first three matter. -/
def BeginsMonth (letters : List Char) (month : Nat) : Prop :=
  monthAbbreviations[month - 1]? = some ((Text.upper letters).take 3)

theorem monthOfName?_upper_eq_some_iff {letters : List Char} {d : Date}
    (h : ∀ c ∈ letters, (letter? c).isSome = true) :
    monthOfName? (Text.upper letters) = some d.month ↔ BeginsMonth letters d.month := by
  have hmonth := d.isCalendarDay.2.1
  rw [monthOfName?, upper_upper h, BeginsMonth]
  constructor
  · intro hname
    obtain ⟨i, hi, hsucc⟩ := Option.map_eq_some_iff.mp hname
    obtain ⟨hlt, hget, -⟩ := List.idxOf?_eq_some_iff.mp hi
    have hindex : d.month - 1 = i := by omega
    rw [hindex, List.getElem?_eq_getElem hlt, hget]
  · intro hname
    rw [(monthAbbreviations_check (d.month - 1) (by omega) _ hname).2.2.2, Option.map_some]
    congr 1
    omega

theorem Date.ofIntegers_eq_ok_iff {year month day : Int} {d : Date} :
    ofIntegers year month day = .ok d ↔ year = d.year ∧ month = d.month ∧ day = d.day := by
  constructor
  · intro h
    unfold ofIntegers at h
    split at h
    · cases h
    · split at h
      · cases h
      · split at h
        · rename_i hparts
          cases h
          obtain ⟨hyear, hmonth, hday⟩ := eq_of_ofParts? hparts
          omega
        · cases h
  · rintro ⟨rfl, rfl, rfl⟩
    exact d.ofIntegers_parts

theorem date?_of_name (year day : Int) (month : String) :
    DateParts.date? ⟨.integer year, .text month, .integer day⟩ =
      match monthOfName? month.toList with
      | none => .ok none
      | some number => some <$> Date.ofIntegers year number day := by
  unfold DateParts.date?
  dsimp only [monthNumber?]
  cases monthOfName? month.toList <;> rfl

namespace Gedcom

/-- The day has the numbers that are written, and its month the name. -/
def WrittenDate.IsOf (w : WrittenDate) (d : Date) : Prop :=
  ∃ day month, w.day = some day ∧ w.month = some month ∧ Text.Numeral.magnitude w.year = d.year ∧
    BeginsMonth month d.month ∧ Text.Numeral.magnitude day = d.day

theorem date?_plain_eq_ok_iff {w : WrittenDate} {cs : List Char} (h : IsFullDate w cs) {d : Date} :
    (DateValue.plain w).date? = .ok (some d) ↔ w.isAcceptable = true ∧ w.IsOf d := by
  cases h with
  | @intro calendar dual beforeChrist escape day gap month gap' year second era _ _ _ hmonth =>
    have hname := monthOfName?_upper_eq_some_iff (d := d) hmonth.2
    have hall (w : WrittenDate) : (DateValue.plain w).dates.all WrittenDate.isAcceptable =
        w.isAcceptable := Bool.and_true _
    rw [DateValue.date?, hall]
    split
    · rename_i hrefused
      simp only [Bool.not_eq_true'] at hrefused
      simp [hrefused]
    · rename_i haccepted
      simp only [Bool.not_eq_true', Bool.not_eq_false] at haccepted
      rw [date?_of_name, String.toList_ofList]
      simp only [haccepted, true_and, WrittenDate.IsOf, Option.some.injEq]
      constructor
      · intro hdate
        split at hdate
        · cases hdate
        · rename_i number hnumber
          obtain ⟨d', hd', heq⟩ := map_eq_ok_iff.mp hdate
          cases heq
          obtain ⟨hyear, hsame, hday⟩ := Date.ofIntegers_eq_ok_iff.mp hd'
          rw [Int.ofNat_inj.mp hsame] at hnumber
          exact ⟨day, month, rfl, rfl, Int.ofNat_inj.mp hyear, hname.mp hnumber,
            Int.ofNat_inj.mp hday⟩
      · rintro ⟨_, _, rfl, rfl, hyear, hbegins, hday⟩
        rw [hname.mpr hbegins, hyear, hday]
        exact map_eq_ok_iff.mpr ⟨d, d.ofIntegers_parts, rfl⟩

/-- A value that gives a day is a plain date with a day. -/
theorem exists_plain_of_date? {v : DateValue} {d : Date} (h : v.date? = .ok (some d)) :
    ∃ w, v = .plain w ∧ w.day ≠ none := by
  unfold DateValue.date? at h
  split at h
  · cases h
  · cases v with
    | plain w =>
      refine ⟨w, rfl, fun hnone => ?_⟩
      dsimp only at h
      rw [hnone] at h
      unfold DateParts.date? at h
      split at h <;> simp_all
    | qualified => cases h
    | phrase => cases h

end Gedcom

theorem toDate_eq_ok_iff_of_otherForm {s : String} {d : Date}
    (h : hasIsoForm (Text.trim s.toList) = false) :
    (Query.text s).toDate = .ok d ↔ (DateValue.ofChars s.toList).date? = .ok (some d) := by
  rw [Query.toDate, dateOfText, IsoReading.ofChars_eq_otherForm_iff.mpr h]
  cases (DateValue.ofChars s.toList).date? with
  | error e => exact ⟨nofun, nofun⟩
  | ok found =>
    cases found with
    | none => exact ⟨nofun, nofun⟩
    | some e =>
      constructor
      · rintro ⟨⟩
        rfl
      · rintro ⟨⟩
        rfl

/-- A text of another form than the ISO one is taken for a day if and only if it is a plain date to
the day with the numbers of that day, be they of a known calendar and of any era; all others are
refused. -/
theorem text_is_taken_for_the_day_of_its_numbers {s : String}
    (h : hasIsoForm (Text.trim s.toList) = false) (d : Date) :
    (Query.text s).toDate = .ok d ↔
      ∃ w, IsFullDate w (Text.trim s.toList) ∧ w.isAcceptable = true ∧ w.IsOf d := by
  rw [toDate_eq_ok_iff_of_otherForm h]
  constructor
  · intro hdate
    obtain ⟨w, hplain, hday⟩ := Gedcom.exists_plain_of_date? hdate
    have hfull := Gedcom.isFullDate_of_ofChars hplain hday
    rw [hplain] at hdate
    exact ⟨w, hfull, (Gedcom.date?_plain_eq_ok_iff hfull).mp hdate⟩
  · rintro ⟨w, hfull, hof⟩
    rw [Gedcom.ofChars_of_isFullDate hfull]
    exact (Gedcom.date?_plain_eq_ok_iff hfull).mpr hof

/-- A dual year, and a month of four letters. -/
theorem eleventh_of_February_1699 :
    let s := " @#DGREGORIAN@ 11 febr 1699/00"
    hasIsoForm (Text.trim s.toList) = false ∧
      ∃ w, IsFullDate w (Text.trim s.toList) ∧ w.isAcceptable = true ∧
        w.IsOf ⟨1699, 2, 11, by decide⟩ := by
  have hform : hasIsoForm (Text.trim " @#DGREGORIAN@ 11 febr 1699/00".toList) = false := by
    decide +kernel
  refine ⟨hform, (text_is_taken_for_the_day_of_its_numbers hform _).mp ?_⟩
  decide +kernel

theorem Gedcom.eq_of_isFullDate {cs : List Char} {w w' : WrittenDate}
    (h : IsFullDate w (Text.trim cs)) (hplain : DateValue.ofChars cs = .plain w') : w = w' := by
  rw [ofChars_of_isFullDate h] at hplain
  exact DateValue.plain.inj hplain

/-- A year before Christ is taken for one after, and a Julian day for the Gregorian one of its
name. -/
theorem other_days_of_their_numbers :
    ((Query.text "25 DEC 44 B.C.").toDate = .ok ⟨44, 12, 25, by decide⟩ ∧
      ∀ w, IsFullDate w (Text.trim "25 DEC 44 B.C.".toList) → w.beforeChrist = true) ∧
    (Query.text "@#DJULIAN@ 25 DEC 1700").toDate = .ok ⟨1700, 12, 25, by decide⟩ ∧
      ∀ w, IsFullDate w (Text.trim "@#DJULIAN@ 25 DEC 1700".toList) →
        w.calendar = some "JULIAN".toList := by
  refine ⟨⟨by decide +kernel, fun w hw => ?_⟩, by decide +kernel, fun w hw => ?_⟩
  · have hplain : DateValue.ofChars "25 DEC 44 B.C.".toList =
        .plain ⟨none, some "25".toList, some "DEC".toList, "44".toList, none, true⟩ := by
      decide +kernel
    rw [Gedcom.eq_of_isFullDate hw hplain]
  · have hplain : DateValue.ofChars "@#DJULIAN@ 25 DEC 1700".toList =
        .plain ⟨some "JULIAN".toList, some "25".toList, some "DEC".toList, "1700".toList, none,
          false⟩ := by
      decide +kernel
    rw [Gedcom.eq_of_isFullDate hw hplain]

end DateRules
