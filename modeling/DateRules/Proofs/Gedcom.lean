import Mathlib.Data.List.Forall2
import Mathlib.Data.List.TakeDrop
import Mathlib.Data.List.TakeWhile
import DateRules.Gedcom
import DateRules.Proofs.Calendar.Iso
import DateRules.Proofs.Text.LetterCase
import DateRules.Proofs.Text.Numeral

/-!
Dates to the day, as genealogical records write them: what their texts are, and that these texts and
no others are read as them. Such a text begins with a digit or the escape of a calendar, so it has
none of the other forms, and the first way of reading a date takes it to its end.
-/
namespace DateRules.Gedcom

open Text (AllBlank AreDigits)

/-- The characters that are taken for letters, and some between them. -/
def letterRanges : Text.CharacterRanges :=
  [('A'.toNat, 'Z'.toNat), ('a'.toNat, 'z'.toNat), (0x130, 0x131), (0x17F, 0x17F), (0x212A, 0x212A)]

theorem letterRanges_check : Text.caselessRanges.isApart letterRanges = true := by
  decide +kernel

theorem contains_letterRanges {c : Char} (h : (letter? c).isSome = true) :
    letterRanges.contains c = true := by
  have hcases : ('A'.toNat ≤ c.toNat ∧ c.toNat ≤ 'Z'.toNat) ∨
      ('a'.toNat ≤ c.toNat ∧ c.toNat ≤ 'z'.toNat) ∨ c = 'ſ' ∨ c.toNat = 0x212A ∨
      c = 'ı' ∨ c = 'İ' := by
    rw [← Text.isUpper_iff, ← Text.isLower_iff]
    by_contra hnone
    simp only [not_or] at hnone
    simp [letter?, hnone] at h
  rw [Text.contains_iff]
  rcases hcases with hupper | hlower | rfl | hkelvin | rfl | rfl
  · exact ⟨('A'.toNat, 'Z'.toNat), by decide, hupper⟩
  · exact ⟨('a'.toNat, 'z'.toNat), by decide, hlower⟩
  · exact ⟨(0x17F, 0x17F), by decide⟩
  · exact ⟨(0x212A, 0x212A), by decide, Nat.le_of_eq hkelvin.symm, Nat.le_of_eq hkelvin⟩
  · exact ⟨(0x130, 0x131), by decide⟩
  · exact ⟨(0x130, 0x131), by decide⟩

theorem letter?_of_isCaseless {c : Char} (h : Text.isCaseless c = true) : letter? c = none := by
  rw [← Option.not_isSome_iff_eq_none]
  intro hletter
  have hout := Text.CharacterRanges.not_contains letterRanges_check (Text.contains_caselessRanges h)
  rw [contains_letterRanges hletter] at hout
  cases hout

theorem letter?_of_isDecimal {c : Char} (h : Text.isDecimal c = true) : letter? c = none :=
  letter?_of_isCaseless (Text.isCaseless_iff.mpr (.inr (.inr h)))

theorem isUpper_toUpper_of_isLower {c : Char} (h : c.isLower = true) :
    c.toUpper.isUpper = true := by
  have hcodes : ∀ n < 123, 97 ≤ n → (Char.ofNat n).toUpper.isUpper = true := by decide
  have hrange := Text.isLower_iff.mp h
  have hupper := hcodes c.toNat (Nat.lt_succ_of_le hrange.2) hrange.1
  rwa [Char.ofNat_toNat] at hupper

theorem isUpper_of_letter? {c l : Char} (h : letter? c = some l) : l.isUpper = true := by
  unfold letter? at h
  split at h
  · cases h
    assumption
  · split at h
    · cases h
      exact isUpper_toUpper_of_isLower ‹_›
    · split at h
      · cases h
        rfl
      · split at h
        · cases h
          rfl
        · split at h
          · cases h
            rfl
          · cases h

/-! ### Written dates -/

/-- The word, its letters of either case. -/
def IsSpelling (word cs : List Char) : Prop :=
  List.Forall₂ (fun w c => letter? c = some w ∨ c = w) word cs

/-- Blanks between two pieces. -/
def IsGap (blanks : List Char) : Prop := blanks ≠ [] ∧ AllBlank blanks

def IsMonth (month : List Char) : Prop :=
  (month.length = 3 ∨ month.length = 4) ∧ ∀ c ∈ month, (letter? c).isSome = true

def isCalendarChar (c : Char) : Bool := Text.isWordCharacter c || c == ' '

/-- The name of a calendar between its marks, if there is one. -/
inductive IsEscape : Option (List Char) → List Char → Prop
  | none : IsEscape none []
  | some {mark name gap : List Char} (hmark : IsSpelling ['@', '#', 'D'] mark) (hne : name ≠ [])
      (hname : ∀ c ∈ name, isCalendarChar c = true) (hgap : IsGap gap) :
      IsEscape (some name) (mark ++ (name ++ '@' :: gap))

/-- The second year of a dual dating, if there is one. -/
inductive IsDual : Option (List Char) → List Char → Prop
  | none : IsDual none []
  | some {digits : List Char} (h : AreDigits digits) : IsDual (some digits) ('/' :: digits)

/-- The mark of the era before Christ, if it is there. -/
inductive IsEra : Bool → List Char → Prop
  | none : IsEra false []
  | beforeChrist {blanks mark : List Char} (hblanks : AllBlank blanks)
      (hmark : IsSpelling ['B', '.', 'C', '.'] mark) : IsEra true (blanks ++ mark)

inductive IsFullDate : WrittenDate → List Char → Prop
  | intro {calendar dual : Option (List Char)} {beforeChrist : Bool}
      {escape day gap month gap' year second era : List Char}
      (hescape : IsEscape calendar escape) (hday : AreDigits day) (hgap : IsGap gap)
      (hmonth : IsMonth month) (hgap' : IsGap gap') (hyear : AreDigits year)
      (hdual : IsDual dual second) (hera : IsEra beforeChrist era) :
      IsFullDate ⟨calendar, some day, some month, year, dual, beforeChrist⟩
        (escape ++ (day ++ (gap ++ (month ++ (gap' ++ (year ++ (second ++ era)))))))

section
variable {inClass : Char → Bool} {cs found rest : List Char}

theorem span1?_eq_some_iff : span1? inClass cs = some (found, rest) ↔
    cs = found ++ rest ∧ found ≠ [] ∧ (∀ c ∈ found, inClass c = true) ∧
      ∀ c ∈ rest.head?, inClass c = false := by
  unfold span1?
  rw [List.span_eq_takeWhile_dropWhile]
  constructor
  · intro h
    split at h
    · cases h
    · rename_i hnil
      cases h
      refine ⟨List.takeWhile_append_dropWhile.symm, fun hempty => hnil _ (by rw [hempty]),
        fun c hc => List.mem_takeWhile_imp hc, fun c hc => ?_⟩
      have hstop := List.head?_dropWhile_not inClass cs
      rw [hc] at hstop
      simpa using hstop
  · rintro ⟨rfl, hne, hfound, hrest⟩
    rw [Text.takeWhile_append_of_head hfound hrest, List.dropWhile_append_of_pos hfound,
      Text.dropWhile_of_head hrest]
    split
    · rename_i heq
      cases heq
      exact absurd rfl hne
    · rfl

theorem afterBlanks?_eq_some_iff : afterBlanks? cs = some rest ↔
    ∃ gap, IsGap gap ∧ cs = gap ++ rest ∧ ∀ c ∈ rest.head?, Text.isBlank c = false := by
  unfold afterBlanks?
  constructor
  · intro h
    split at h
    · rename_i hhead
      cases h
      refine ⟨cs.takeWhile Text.isBlank, ⟨?_, fun c hc => List.mem_takeWhile_imp hc⟩,
        List.takeWhile_append_dropWhile.symm, Text.head_dropWhile_isBlank cs⟩
      cases cs with
      | nil => cases hhead
      | cons c cs =>
        have hc : Text.isBlank c = true := hhead
        rw [List.takeWhile_cons_of_pos hc]
        exact List.cons_ne_nil _ _
    · cases h
  · rintro ⟨gap, ⟨hne, hgap⟩, rfl, hrest⟩
    obtain ⟨b, gap, rfl⟩ := List.exists_cons_of_ne_nil hne
    have hhead : Text.isBlank ((b :: gap ++ rest).headD 'x') = true := hgap b List.mem_cons_self
    rw [if_pos hhead, List.dropWhile_append_of_pos hgap, Text.dropWhile_of_head hrest]

theorem afterWord?_eq_some_iff {word : List Char} : afterWord? word cs = some rest ↔
    ∃ found, IsSpelling word found ∧ cs = found ++ rest := by
  induction word generalizing cs with
  | nil => simp [afterWord?, IsSpelling, eq_comm]
  | cons w word ih =>
    cases cs with
    | nil => simp [afterWord?, IsSpelling, List.forall₂_cons_left_iff]
    | cons c cs =>
      simp only [afterWord?, Bool.or_eq_true, decide_eq_true_eq]
      constructor
      · intro h
        split at h
        · rename_i hc
          obtain ⟨found, hfound, rfl⟩ := ih.mp h
          exact ⟨c :: found, .cons hc hfound, rfl⟩
        · cases h
      · rintro ⟨found, hfound, heq⟩
        cases hfound with
        | cons hc hrest =>
          obtain ⟨rfl, rfl⟩ := List.cons.inj heq
          rw [if_pos hc]
          exact ih.mpr ⟨_, hrest, rfl⟩

end

theorem IsGap.head_append {gap : List Char} (hgap : IsGap gap) (rest : List Char) :
    ∀ c ∈ (gap ++ rest).head?, Text.isBlank c = true := by
  obtain ⟨b, gap, rfl⟩ := List.exists_cons_of_ne_nil hgap.1
  rintro c ⟨⟩
  exact hgap.2 b List.mem_cons_self

theorem head_append_of_areDigits {digits : List Char} (h : AreDigits digits) (rest : List Char) :
    ∀ c ∈ (digits ++ rest).head?, Text.isDecimal c = true := by
  obtain ⟨c, digits, rfl⟩ := List.exists_cons_of_ne_nil h.1
  rintro _ ⟨⟩
  exact h.2 c List.mem_cons_self

theorem not_isBlank_of_letter? {c : Char} (h : (letter? c).isSome = true) :
    Text.isBlank c = false := by
  rw [Bool.eq_false_iff]
  intro hblank
  rw [letter?_of_isCaseless (Text.isCaseless_of_isBlank hblank)] at h
  cases h

theorem IsMonth.head_append {month : List Char} (hmonth : IsMonth month) (rest : List Char) :
    ∀ c ∈ (month ++ rest).head?, Text.isBlank c = false := by
  cases month with
  | nil => exact absurd hmonth.1 (by decide)
  | cons l month =>
    rintro c ⟨⟩
    exact not_isBlank_of_letter? (hmonth.2 l List.mem_cons_self)

theorem IsSpelling.exists_head {w : Char} {word cs : List Char} (h : IsSpelling (w :: word) cs) :
    ∃ c rest, cs = c :: rest ∧ ((letter? c).isSome = true ∨ c = w) := by
  obtain ⟨c, rest, hc, -, rfl⟩ := List.forall₂_cons_left_iff.mp h
  exact ⟨c, rest, rfl, hc.imp_left fun hletter => Option.isSome_of_eq_some hletter⟩

/-- A mark that is no letter is written in one way. -/
theorem eq_of_isSpelling_singleton {w : Char} (hw : w.isUpper = false) {cs : List Char}
    (h : IsSpelling [w] cs) : cs = [w] := by
  obtain ⟨c, cs', hc, hrest, rfl⟩ := List.forall₂_cons_left_iff.mp h
  rw [List.forall₂_nil_left_iff.mp hrest]
  rcases hc with hletter | rfl
  · rw [isUpper_of_letter? hletter] at hw
    cases hw
  · rfl

/-- What follows a year is no digit of it, and only a second year begins with a slash. -/
theorem IsEra.head {beforeChrist : Bool} {era : List Char} (h : IsEra beforeChrist era) :
    ∀ c ∈ era.head?, Text.isDecimal c = false ∧ c ≠ '/' := by
  cases h with
  | none => exact nofun
  | @beforeChrist blanks mark hblanks hmark =>
    cases blanks with
    | nil =>
      obtain ⟨c, rest, rfl, hc⟩ := hmark.exists_head
      rintro _ ⟨⟩
      rcases hc with hletter | rfl
      · refine ⟨Bool.eq_false_iff.mpr fun hdigit => ?_, ?_⟩
        · rw [letter?_of_isDecimal hdigit] at hletter
          cases hletter
        · rintro rfl
          cases hletter
      · decide
    | cons b blanks =>
      rintro _ ⟨⟩
      have hblank := hblanks b List.mem_cons_self
      refine ⟨Text.not_isDecimal_of_isBlank hblank, fun hslash => ?_⟩
      rw [hslash] at hblank
      cases hblank

/-! ### Reading a date -/

/-- The dual year that a text begins with, and what follows it. -/
def second? (cs : List Char) : Option (List Char) × List Char :=
  match cs with
  | '/' :: more => match span1? Text.isDecimal more with
    | some (dual, more) => (some dual, more)
    | none => (none, cs)
  | _ => (none, cs)

/-- Whether the mark of the era comes first, and what follows it. -/
def era? (cs : List Char) : Bool × List Char :=
  match afterWord? ['B', '.', 'C', '.'] (cs.dropWhile Text.isBlank) with
  | some rest => (true, rest)
  | none => (false, cs)

theorem year?_eq_bind (calendar day month : Option (List Char)) (cs : List Char) :
    year? calendar day month cs = (span1? Text.isDecimal cs).bind fun (year, rest) =>
      let (dual, rest) := second? rest
      let (beforeChrist, rest) := era? rest
      some (⟨calendar, day, month, year, dual, beforeChrist⟩, rest) := by
  unfold year?
  cases hspan : span1? Text.isDecimal cs with
  | none => rfl
  | some found =>
    obtain ⟨year, rest⟩ := found
    change (match afterWord? ['B', '.', 'C', '.'] ((second? rest).2.dropWhile Text.isBlank) with
      | some rest' => some (WrittenDate.mk calendar day month year (second? rest).1 true, rest')
      | none => some (⟨calendar, day, month, year, (second? rest).1, false⟩, (second? rest).2)) = _
    simp only [Option.bind_some, era?]
    cases afterWord? ['B', '.', 'C', '.'] ((second? rest).2.dropWhile Text.isBlank) <;> rfl

theorem exists_isDual_of_second? {cs rest : List Char} {dual : Option (List Char)}
    (h : second? cs = (dual, rest)) : ∃ second, IsDual dual second ∧ cs = second ++ rest := by
  unfold second? at h
  split at h
  · split at h
    · rename_i hspan
      cases h
      obtain ⟨rfl, hne, hdigits, -⟩ := span1?_eq_some_iff.mp hspan
      exact ⟨_, .some ⟨hne, hdigits⟩, rfl⟩
    · cases h
      exact ⟨[], .none, rfl⟩
  · cases h
    exact ⟨[], .none, rfl⟩

theorem second?_of_isDual {dual : Option (List Char)} {second rest : List Char}
    (h : IsDual dual second) (hrest : ∀ c ∈ rest.head?, Text.isDecimal c = false ∧ c ≠ '/') :
    second? (second ++ rest) = (dual, rest) := by
  cases h with
  | none =>
    rw [List.nil_append, second?]
    rintro more rfl
    exact (hrest '/' rfl).2 rfl
  | some hdigits =>
    have hspan := span1?_eq_some_iff.mpr
      ⟨Eq.refl _, hdigits.1, hdigits.2, fun c hc => (hrest c hc).1⟩
    simp only [second?, List.cons_append, hspan]

theorem isEra_of_era? {cs : List Char} {beforeChrist : Bool} (h : era? cs = (beforeChrist, [])) :
    IsEra beforeChrist cs := by
  unfold era? at h
  split at h
  · rename_i hword
    cases h
    obtain ⟨mark, hmark, hrest⟩ := afterWord?_eq_some_iff.mp hword
    rw [List.append_nil] at hrest
    rw [← List.takeWhile_append_dropWhile (p := Text.isBlank) (l := cs), hrest]
    exact .beforeChrist (fun c hc => List.mem_takeWhile_imp hc) hmark
  · cases h
    exact .none

theorem era?_of_isEra {cs : List Char} {beforeChrist : Bool} (h : IsEra beforeChrist cs) :
    era? cs = (beforeChrist, []) := by
  cases h with
  | none => rfl
  | @beforeChrist blanks mark hblanks hmark =>
    have hhead : ∀ c ∈ mark.head?, Text.isBlank c = false := by
      obtain ⟨c, rest, rfl, hc⟩ := hmark.exists_head
      rintro _ ⟨⟩
      rcases hc with hletter | rfl
      · exact not_isBlank_of_letter? hletter
      · decide
    have hword : afterWord? ['B', '.', 'C', '.'] mark = some [] :=
      afterWord?_eq_some_iff.mpr ⟨mark, hmark, (List.append_nil mark).symm⟩
    rw [era?, List.dropWhile_append_of_pos hblanks, Text.dropWhile_of_head hhead, hword]

theorem year?_eq_some_nil_iff {calendar day month : Option (List Char)} {cs : List Char}
    {w : WrittenDate} : year? calendar day month cs = some (w, []) ↔
      ∃ year dual beforeChrist second era, w = ⟨calendar, day, month, year, dual, beforeChrist⟩ ∧
        AreDigits year ∧ IsDual dual second ∧ IsEra beforeChrist era ∧
        cs = year ++ (second ++ era) := by
  rw [year?_eq_bind, Option.bind_eq_some_iff]
  constructor
  · rintro ⟨⟨year, rest⟩, hspan, h⟩
    obtain ⟨rfl, hne, hdigits, -⟩ := span1?_eq_some_iff.mp hspan
    cases hsecond : second? rest with
    | mk dual afterSecond =>
      cases hera : era? afterSecond with
      | mk beforeChrist behind =>
        simp only [hsecond, hera, Option.some.injEq, Prod.mk.injEq] at h
        obtain ⟨rfl, rfl⟩ := h
        obtain ⟨second, hdual, rfl⟩ := exists_isDual_of_second? hsecond
        exact ⟨year, dual, beforeChrist, second, afterSecond, rfl, ⟨hne, hdigits⟩, hdual,
          isEra_of_era? hera, rfl⟩
  · rintro ⟨year, dual, beforeChrist, second, era, rfl, hyear, hdual, hera, rfl⟩
    have hsecond : second? (second ++ era) = (dual, era) := second?_of_isDual hdual hera.head
    have hhead : ∀ c ∈ (second ++ era).head?, Text.isDecimal c = false := by
      cases hdual with
      | none => exact fun c hc => (hera.head c hc).1
      | some =>
        rintro _ ⟨⟩
        decide
    refine ⟨(year, second ++ era), span1?_eq_some_iff.mpr ⟨rfl, hyear.1, hyear.2, hhead⟩, ?_⟩
    simp only [hsecond, era?_of_isEra hera]

theorem month?_eq_some_iff {cs name rest : List Char} : month? cs = some (name, rest) ↔
    IsMonth name ∧ ∃ gap, IsGap gap ∧ cs = name ++ (gap ++ rest) ∧
      ∀ c ∈ rest.head?, Text.isBlank c = false := by
  unfold month?
  simp only [Option.bind_eq_bind, Option.bind_eq_some_iff]
  constructor
  · rintro ⟨⟨name', rest'⟩, hspan, h⟩
    obtain ⟨rfl, -, hletters, -⟩ := span1?_eq_some_iff.mp hspan
    dsimp only at h
    split at h
    · rename_i hlength
      obtain ⟨rest'', hblanks, heq⟩ := Option.bind_eq_some_iff.mp h
      cases heq
      obtain ⟨gap, hgap, rfl, hhead⟩ := afterBlanks?_eq_some_iff.mp hblanks
      exact ⟨⟨by simpa using hlength, hletters⟩, gap, hgap, rfl, hhead⟩
    · cases h
  · rintro ⟨⟨hlength, hletters⟩, gap, hgap, rfl, hhead⟩
    have hne : name ≠ [] := by
      rintro rfl
      exact absurd hlength (by decide)
    have hstop : ∀ c ∈ (gap ++ rest).head?, (letter? c).isSome = false := fun c hc => by
      rw [letter?_of_isCaseless (Text.isCaseless_of_isBlank (hgap.head_append rest c hc))]
      rfl
    refine ⟨(name, gap ++ rest), span1?_eq_some_iff.mpr ⟨rfl, hne, hletters, hstop⟩, ?_⟩
    dsimp only
    rw [if_pos (by simpa using hlength), afterBlanks?_eq_some_iff.mpr ⟨gap, hgap, rfl, hhead⟩]
    rfl

theorem calendarEscape?_eq_some_iff {cs name rest : List Char} :
    calendarEscape? cs = some (name, rest) ↔
    ∃ escape, IsEscape (some name) escape ∧ cs = escape ++ rest ∧
      ∀ c ∈ rest.head?, Text.isBlank c = false := by
  unfold calendarEscape?
  simp only [Option.bind_eq_bind, Option.bind_eq_some_iff]
  constructor
  · rintro ⟨afterMark, hmark, ⟨name', afterName⟩, hspan, afterClose, hclose, rest', hblanks, heq⟩
    cases heq
    obtain ⟨mark, hspelling, rfl⟩ := afterWord?_eq_some_iff.mp hmark
    obtain ⟨rfl, hne, hname, -⟩ := span1?_eq_some_iff.mp hspan
    obtain ⟨close, hsame, rfl⟩ := afterWord?_eq_some_iff.mp hclose
    obtain rfl := eq_of_isSpelling_singleton rfl hsame
    obtain ⟨gap, hgap, rfl, hhead⟩ := afterBlanks?_eq_some_iff.mp hblanks
    exact ⟨_, .some hspelling hne hname hgap, by simp, hhead⟩
  · rintro ⟨escape, hescape, rfl, hhead⟩
    cases hescape with
    | @some mark _ gap hmark hne hname hgap =>
      have hstop : ∀ c ∈ ('@' :: (gap ++ rest)).head?, isCalendarChar c = false := by
        rintro _ ⟨⟩
        decide +kernel
      refine ⟨name ++ '@' :: (gap ++ rest), afterWord?_eq_some_iff.mpr ⟨mark, hmark, by simp⟩,
        (name, '@' :: (gap ++ rest)), span1?_eq_some_iff.mpr ⟨rfl, hne, hname, hstop⟩, gap ++ rest,
        rfl, rest, afterBlanks?_eq_some_iff.mpr ⟨gap, hgap, rfl, hhead⟩, rfl⟩

/-- The day, the month and the year after the escape of a calendar. -/
def dayMonthYear? (calendar : Option (List Char)) (cs : List Char) :
    Option (WrittenDate × List Char) := do
  let (day, rest) ← span1? Text.isDecimal cs
  let (month, rest) ← month? (← afterBlanks? rest)
  year? calendar (some day) (some month) rest

/-- The escape of a calendar, if there is one, and what follows it. -/
def afterEscape (cs : List Char) : Option (List Char) × List Char :=
  match calendarEscape? cs with
  | some (name, rest) => (some name, rest)
  | none => (none, cs)

theorem day_of_year? {calendar day month : Option (List Char)} {cs : List Char}
    {found : WrittenDate × List Char} (h : year? calendar day month cs = some found) :
    found.1.day = day := by
  rw [year?_eq_bind, Option.bind_eq_some_iff] at h
  obtain ⟨year, -, heq⟩ := h
  cases heq
  rfl

/-- The first way of reading a date is the one with a day; no other has one. -/
theorem dates_eq (cs : List Char) : ∃ others,
    dates cs = (dayMonthYear? (afterEscape cs).1 (afterEscape cs).2).toList ++ others ∧
      ∀ found ∈ others, found.1.day = none := by
  refine ⟨((month? (afterEscape cs).2).bind fun (month, rest) =>
    year? (afterEscape cs).1 none (some month) rest).toList ++
      (year? (afterEscape cs).1 none none (afterEscape cs).2).toList, ?_, ?_⟩
  · rw [← List.append_assoc]
    rfl
  · intro found hfound
    rcases List.mem_append.mp hfound with hmonth | hyear
    · obtain ⟨month, -, hyear⟩ := Option.bind_eq_some_iff.mp (Option.mem_toList.mp hmonth)
      exact day_of_year? hyear
    · exact day_of_year? (Option.mem_toList.mp hyear)

theorem dayMonthYear?_eq_some_nil_iff {calendar : Option (List Char)} {cs : List Char}
    {w : WrittenDate} : dayMonthYear? calendar cs = some (w, []) ↔
      ∃ day gap month gap' year dual beforeChrist second era,
        w = ⟨calendar, some day, some month, year, dual, beforeChrist⟩ ∧
        AreDigits day ∧ IsGap gap ∧ IsMonth month ∧ IsGap gap' ∧ AreDigits year ∧
        IsDual dual second ∧ IsEra beforeChrist era ∧
        cs = day ++ (gap ++ (month ++ (gap' ++ (year ++ (second ++ era))))) := by
  unfold dayMonthYear?
  simp only [Option.bind_eq_bind, Option.bind_eq_some_iff]
  constructor
  · rintro ⟨⟨day, afterDay⟩, hday, monthOn, hgap, ⟨month, afterMonth⟩, hmonth, hyear⟩
    obtain ⟨rfl, hne, hdigits, -⟩ := span1?_eq_some_iff.mp hday
    obtain ⟨gap, hgap, hsplit, -⟩ := afterBlanks?_eq_some_iff.mp hgap
    obtain ⟨hletters, gap', hgap', hsplit', -⟩ := month?_eq_some_iff.mp hmonth
    obtain ⟨year, dual, beforeChrist, second, era, rfl, hyear, hdual, hera, hsplit''⟩ :=
      year?_eq_some_nil_iff.mp hyear
    dsimp only at hsplit hsplit''
    refine ⟨day, gap, month, gap', year, dual, beforeChrist, second, era, rfl, ⟨hne, hdigits⟩, hgap,
      hletters, hgap', hyear, hdual, hera, ?_⟩
    rw [hsplit, hsplit', hsplit'']
  · rintro ⟨day, gap, month, gap', year, dual, beforeChrist, second, era, rfl, hday, hgap, hmonth,
      hgap', hyear, hdual, hera, rfl⟩
    refine ⟨(day, _), span1?_eq_some_iff.mpr ⟨rfl, hday.1, hday.2, fun c hc => ?_⟩, _,
      afterBlanks?_eq_some_iff.mpr ⟨gap, hgap, rfl, hmonth.head_append _⟩, (month, _),
      month?_eq_some_iff.mpr ⟨hmonth, gap', hgap', rfl, fun c hc => ?_⟩,
      year?_eq_some_nil_iff.mpr ⟨year, dual, beforeChrist, second, era, rfl, hyear, hdual, hera,
        rfl⟩⟩
    · exact Text.not_isDecimal_of_isBlank (hgap.head_append _ c hc)
    · exact Text.not_isBlank_of_isDecimal (head_append_of_areDigits hyear _ c hc)

theorem isFullDate_of_dayMonthYear? {cs : List Char} {w : WrittenDate}
    (h : dayMonthYear? (afterEscape cs).1 (afterEscape cs).2 = some (w, [])) : IsFullDate w cs := by
  obtain ⟨day, gap, month, gap', year, dual, beforeChrist, second, era, rfl, hday, hgap, hmonth,
    hgap', hyear, hdual, hera, hcs⟩ := dayMonthYear?_eq_some_nil_iff.mp h
  cases hescape : calendarEscape? cs with
  | none =>
    simp only [afterEscape, hescape] at hcs ⊢
    rw [hcs]
    exact .intro .none hday hgap hmonth hgap' hyear hdual hera
  | some found =>
    obtain ⟨name, rest⟩ := found
    obtain ⟨escape, hname, rfl, -⟩ := calendarEscape?_eq_some_iff.mp hescape
    simp only [afterEscape, hescape] at hcs ⊢
    rw [hcs]
    exact .intro hname hday hgap hmonth hgap' hyear hdual hera

theorem calendarEscape?_of_isDecimal {c : Char} (hc : Text.isDecimal c = true) (cs : List Char) :
    calendarEscape? (c :: cs) = none := by
  have hletter := letter?_of_isDecimal hc
  have hne : c ≠ '@' := by
    rintro rfl
    cases hc
  simp [calendarEscape?, afterWord?, hletter, hne]

theorem afterEscape_append {calendar : Option (List Char)} {escape rest : List Char}
    (hescape : IsEscape calendar escape) (hne : rest ≠ [])
    (hrest : ∀ c ∈ rest.head?, Text.isDecimal c = true) :
    afterEscape (escape ++ rest) = (calendar, rest) := by
  cases hescape with
  | none =>
    obtain ⟨c, rest, rfl⟩ := List.exists_cons_of_ne_nil hne
    rw [List.nil_append, afterEscape, calendarEscape?_of_isDecimal (hrest c rfl)]
  | some hmark hname hcalendar hgap =>
    have hread := calendarEscape?_eq_some_iff.mpr ⟨_, .some hmark hname hcalendar hgap, Eq.refl _,
      fun c hc => Text.not_isBlank_of_isDecimal (hrest c hc)⟩
    rw [afterEscape, hread]

theorem dayMonthYear?_of_isFullDate {cs : List Char} {w : WrittenDate} (h : IsFullDate w cs) :
    dayMonthYear? (afterEscape cs).1 (afterEscape cs).2 = some (w, []) := by
  obtain ⟨hescape, hday, hgap, hmonth, hgap', hyear, hdual, hera⟩ := h
  rw [afterEscape_append hescape (List.append_ne_nil_of_left_ne_nil hday.1 _)
    (head_append_of_areDigits hday _)]
  exact dayMonthYear?_eq_some_nil_iff.mpr
    ⟨_, _, _, _, _, _, _, _, _, rfl, hday, hgap, hmonth, hgap', hyear, hdual, hera, rfl⟩

/-! ### Whole texts -/

/-- The character that the texts of a part begin with, but for letter case. -/
def Part.first? : Part → Option Char
  | word w => w.head?
  | date => none
  | phrase => some '('

/-- Full dates begin with a digit or the mark of an escape. -/
def isDateStart (c : Char) : Bool := Text.isDecimal c || c == '@'

theorem letter?_of_isDateStart {c : Char} (h : isDateStart c = true) : letter? c = none := by
  rw [isDateStart, Bool.or_eq_true, beq_iff_eq] at h
  rcases h with hdigit | rfl
  · exact letter?_of_isDecimal hdigit
  · rfl

theorem IsFullDate.exists_start {cs : List Char} {w : WrittenDate} (h : IsFullDate w cs) :
    ∃ c rest, cs = c :: rest ∧ isDateStart c = true := by
  obtain ⟨hescape, hday, -⟩ := h
  cases hescape with
  | none =>
    obtain ⟨c, digits, rfl⟩ := List.exists_cons_of_ne_nil hday.1
    exact ⟨c, _, rfl, Bool.or_eq_true_iff.mpr (.inl (hday.2 c List.mem_cons_self))⟩
  | some hmark =>
    obtain ⟨c, mark, hc, -, rfl⟩ := List.forall₂_cons_left_iff.mp hmark
    obtain hc : [c] = ['@'] := eq_of_isSpelling_singleton rfl (.cons hc .nil)
    cases hc
    exact ⟨'@', _, rfl, rfl⟩

theorem qualifiedForms_check : ∀ form ∈ qualifiedForms,
    ((form.head?.bind Part.first?).any fun w => !isDateStart w) = true := by
  decide +kernel

theorem ways_eq_nil_of_first? {part : Part} {parts : List Part} {w c : Char} {cs : List Char}
    (hfirst : part.first? = some w) (hne : c ≠ w) (hletter : letter? c = none) :
    ways (part :: parts) (c :: cs) = [] := by
  cases part with
  | word word =>
    obtain ⟨word, rfl⟩ := List.head?_eq_some_iff.mp hfirst
    simp [ways, afterWord?, hletter, hne]
  | date => cases hfirst
  | phrase =>
    obtain rfl := Option.some.inj hfirst
    simp [ways, isPhrase, hne]

/-- All forms but that of a plain date begin with a letter or a parenthesis. -/
theorem ways_eq_nil_of_isDateStart {c : Char} (hc : isDateStart c = true) (cs : List Char)
    {form : List Part} (hform : form ∈ qualifiedForms) : ways form (c :: cs) = [] := by
  obtain ⟨w, hw, hfirst⟩ := Option.any_eq_true _ _ |>.mp (qualifiedForms_check form hform)
  obtain ⟨part, hpart, hw⟩ := Option.bind_eq_some_iff.mp hw
  obtain ⟨parts, rfl⟩ := List.head?_eq_some_iff.mp hpart
  refine ways_eq_nil_of_first? hw ?_ (letter?_of_isDateStart hc)
  rintro rfl
  rw [hc] at hfirst
  cases hfirst

theorem mem_dates_of_ofChars {cs : List Char} {w : WrittenDate}
    (h : DateValue.ofChars cs = .plain w) :
    (w, []) ∈ dates (Text.trim cs) := by
  unfold DateValue.ofChars at h
  dsimp only at h
  split at h
  · cases h
  · split at h
    · rename_i found others hways
      cases h
      have hmem : [w] ∈ ways [.date] (Text.trim cs) := hways ▸ List.mem_cons_self
      obtain ⟨⟨d, rest⟩, hd, hmem⟩ := List.mem_flatMap.mp hmem
      cases rest with
      | nil =>
        obtain rfl : w = d := by simpa [beforeNext, ways] using hmem
        exact hd
      | cons c rest => simp [beforeNext, ways] at hmem
    · cases h

theorem isFullDate_of_ofChars {cs : List Char} {w : WrittenDate}
    (h : DateValue.ofChars cs = .plain w) (hday : w.day ≠ none) :
    IsFullDate w (Text.trim cs) := by
  obtain ⟨others, hdates, hothers⟩ := dates_eq (Text.trim cs)
  have hmem := mem_dates_of_ofChars h
  rw [hdates, List.mem_append] at hmem
  rcases hmem with hfull | hother
  · exact isFullDate_of_dayMonthYear? (Option.mem_toList.mp hfull)
  · exact absurd (hothers _ hother) hday

theorem ofChars_of_isFullDate {cs : List Char} {w : WrittenDate} (h : IsFullDate w (Text.trim cs)) :
    DateValue.ofChars cs = .plain w := by
  have hnone : (qualifiedForms.findSome? fun form => (ways form (Text.trim cs)).head?) = none := by
    rw [List.findSome?_eq_none_iff]
    intro form hform
    obtain ⟨c, rest, hcs, hc⟩ := h.exists_start
    rw [hcs]
    exact congrArg List.head? (ways_eq_nil_of_isDateStart hc rest hform)
  obtain ⟨others, hdates, -⟩ := dates_eq (Text.trim cs)
  rw [dayMonthYear?_of_isFullDate h] at hdates
  unfold DateValue.ofChars
  dsimp only
  rw [hnone]
  simp [ways, hdates, beforeNext]

theorem trimmed_of_pieces {day year : List Char} (hday : AreDigits day) (hyear : AreDigits year)
    (gap month gap' : List Char) : Text.Trimmed (day ++ (gap ++ (month ++ (gap' ++ year)))) where
  head := by
    obtain ⟨c, digits, rfl⟩ := List.exists_cons_of_ne_nil hday.1
    rintro _ ⟨⟩
    exact Text.not_isBlank_of_isDecimal (hday.2 c List.mem_cons_self)
  last := by
    obtain ⟨digits, c, rfl⟩ := (List.eq_nil_or_concat year).resolve_left hyear.1
    intro _ hlast
    simp only [List.concat_eq_append, ← List.append_assoc, List.getLast?_concat] at hlast
    cases hlast
    exact Text.not_isBlank_of_isDecimal (hyear.2 c (by simp))

theorem not_isBlank_of_hasIsoForm {cs : List Char} (h : hasIsoForm cs = true) :
    ∀ c ∈ cs, Text.isBlank c = false := by
  obtain ⟨y₁, y₂, y₃, y₄, m₁, m₂, d₁, d₂, rfl, hall⟩ := hasIsoForm_iff.mp h
  intro c hc
  by_cases hdash : c = '-'
  · subst hdash
    rfl
  · refine Text.not_isBlank_of_isDecimal (hall c ?_)
    simp only [List.mem_cons, List.not_mem_nil, or_false] at hc ⊢
    tauto

/-- The three pieces with blanks between them; blanks may also stand around the whole. -/
def IsWrittenAs (day month year cs : List Char) : Prop :=
  ∃ before gap gap' behind, AllBlank before ∧ IsGap gap ∧ IsGap gap' ∧ AllBlank behind ∧
    cs = before ++ (day ++ (gap ++ (month ++ (gap' ++ year)))) ++ behind

section
variable {day month year cs : List Char} (hday : AreDigits day) (hyear : AreDigits year)
  (h : IsWrittenAs day month year cs)
include hday hyear h

/-- No such text has the form of an ISO date, for blanks stand in it. -/
theorem hasIsoForm_of_isWrittenAs : hasIsoForm (Text.trim cs) = false := by
  obtain ⟨before, gap, gap', behind, hbefore, hgap, hgap', hbehind, rfl⟩ := h
  rw [Text.trim_append hbefore (trimmed_of_pieces hday hyear gap month gap') hbehind,
    Bool.eq_false_iff]
  intro hform
  obtain ⟨b, hb⟩ := List.exists_mem_of_ne_nil _ hgap.1
  have hnone := not_isBlank_of_hasIsoForm hform b (by simp [hb])
  rw [hgap.2 b hb] at hnone
  cases hnone

theorem ofChars_of_isWrittenAs (hmonth : IsMonth month) :
    DateValue.ofChars cs = .plain ⟨none, some day, some month, year, none, false⟩ := by
  obtain ⟨before, gap, gap', behind, hbefore, hgap, hgap', hbehind, rfl⟩ := h
  refine ofChars_of_isFullDate ?_
  rw [Text.trim_append hbefore (trimmed_of_pieces hday hyear gap month gap') hbehind]
  have hfull := IsFullDate.intro .none hday hgap hmonth hgap' hyear .none .none
  rwa [List.append_nil, List.append_nil] at hfull

end
end DateRules.Gedcom
