import DateRules.Proofs.Calendar.Iso
import DateRules.Proofs.Operand.Form
import DateRules.Proofs.Text.Cut
import DateRules.Proofs.Vocabulary

/-!
An operand is cut at its operator. A text `left op offset` is cut there and nowhere else, because
neither a name nor an offset holds an operator, and the dashes of a leading date are left alone.
-/
namespace DateRules

open Text (AllBlank AreDigits IsWord Trimmed)

/-- A class that holds no operator is apart from them. -/
theorem isArithmeticChar_eq_false {p : Char → Bool}
    (h : ['+', '-', '*', '/', '%'].any p = false) {c : Char} (hc : p c = true) :
    isArithmeticChar c = false := by
  rw [Bool.eq_false_iff]
  intro hop
  exact List.any_eq_false.mp h c (List.contains_iff_mem.mp hop) hc

theorem isArithmeticChar_of_isBlank {c : Char} (h : Text.isBlank c = true) :
    isArithmeticChar c = false :=
  isArithmeticChar_eq_false rfl h

theorem isArithmeticChar_of_isDecimal {c : Char} (h : Text.isDecimal c = true) :
    isArithmeticChar c = false :=
  isArithmeticChar_eq_false rfl h

theorem not_isBlank_of_isArithmeticChar {c : Char} (h : isArithmeticChar c = true) :
    Text.isBlank c = false := by
  rw [Bool.eq_false_iff]
  intro hblank
  rw [isArithmeticChar_of_isBlank hblank] at h
  cases h

theorem isNoLetter_of_isArithmeticChar {c : Char} (h : isArithmeticChar c = true) :
    Text.IsNoLetter c := by
  have hlow : ['+', '-', '*', '/', '%'].all (fun op => op.toNat < 'A'.toNat) = true := rfl
  exact Text.isNoLetter_of_lt
    (of_decide_eq_true (List.all_eq_true.mp hlow c (List.contains_iff_mem.mp h)))

theorem Arithmetic.symbol_ne_nil (op : Arithmetic) : op.symbol.toList ≠ [] := by
  cases op <;> decide

theorem Arithmetic.isArithmeticChar_symbol (op : Arithmetic) :
    ∀ c ∈ op.symbol.toList, isArithmeticChar c = true := by
  rw [← List.all_eq_true]
  cases op <;> decide

theorem trimmed_of_areDigits {cs : List Char} (h : AreDigits cs) : Trimmed cs where
  head c hc := Text.not_isBlank_of_isDecimal (h.2 c (List.mem_of_mem_head? hc))
  last c hc := Text.not_isBlank_of_isDecimal (h.2 c (List.mem_of_mem_getLast? hc))

theorem wholeArithmetic?_eq_some_iff {run left : List Char} {op : Arithmetic} :
    wholeArithmetic? run = some (op, left) ↔ op.symbol.toList = run ∧ left = [] := by
  unfold wholeArithmetic?
  rw [Option.map_eq_some_iff]
  simp only [Arithmetic.ofSymbol?_eq_some_iff, Prod.mk.injEq]
  constructor
  · rintro ⟨op', hop, rfl, rfl⟩
    exact ⟨hop, rfl⟩
  · rintro ⟨hop, rfl⟩
    exact ⟨op, hop, rfl, rfl⟩

theorem wholeArithmetic?_eq_none {run : List Char} (h : ∀ c ∈ run, isArithmeticChar c = false) :
    wholeArithmetic? run = none := by
  cases hrun : wholeArithmetic? run with
  | none => rfl
  | some found =>
    obtain ⟨op, left⟩ := found
    obtain ⟨rfl, -⟩ := wholeArithmetic?_eq_some_iff.mp hrun
    obtain ⟨c, hc⟩ := List.exists_mem_of_ne_nil _ op.symbol_ne_nil
    have hin := op.isArithmeticChar_symbol c hc
    rw [h c hc] at hin
    cases hin

theorem cutAt_symbol {before behind : List Char} (op : Arithmetic)
    (hbefore : ∀ c ∈ before, isArithmeticChar c = false)
    (hbehind : ∀ c ∈ behind, isArithmeticChar c = false) :
    Text.cutAt isArithmeticChar wholeArithmetic? (before ++ (op.symbol.toList ++ behind)) =
      ⟨before, [(op, behind)]⟩ :=
  Text.cutAt_once (fun _ => wholeArithmetic?_eq_none) op.symbol_ne_nil op.isArithmeticChar_symbol
    (wholeArithmetic?_eq_some_iff.mpr ⟨rfl, rfl⟩) hbefore hbehind

/-- Digits of any script where a date has them, and its two dashes. -/
def IsDateForm (cs : List Char) : Prop := ∃ a b c d e f g h,
  cs = [a, b, c, d, '-', e, f, '-', g, h] ∧
    ∀ x ∈ [a, b, c, d, e, f, g, h], Text.isDecimal x = true

/-- A date may end where a blank or an operator character follows, or nothing does. -/
def EndsDate (behind : List Char) : Prop :=
  ∀ c ∈ behind.head?, Text.isBlank c = true ∨ isArithmeticChar c = true

theorem IsDateForm.length_eq {cs : List Char} (h : IsDateForm cs) : cs.length = 10 := by
  obtain ⟨a, b, c, d, e, f, g, i, rfl, -⟩ := h
  rfl

theorem leadingDate_of_form {head rest : List Char} (h : IsDateForm head) (hends : EndsDate rest) :
    leadingDate (head ++ rest) = (head, rest) := by
  unfold leadingDate
  rw [List.splitAt_eq, List.take_left' h.length_eq, List.drop_left' h.length_eq]
  have hform : hasIsoForm head = true := hasIsoForm_iff.mpr h
  cases rest with
  | nil => simp [hform]
  | cons c rest =>
    have hc : (Text.isBlank c || isArithmeticChar c) = true := by simpa using hends c rfl
    simp only [hform, hc, Bool.and_self, if_true]

theorem leadingDate_isoChars (d : Date) {rest : List Char}
    (h : ∀ c ∈ rest.head?, Text.isBlank c = true ∨ isArithmeticChar c = true) :
    leadingDate (d.isoChars ++ rest) = (d.isoChars, rest) :=
  leadingDate_of_form (hasIsoForm_iff.mp d.hasIsoForm_isoChars) h

theorem hasIsoForm_eq_false_of_head {cs : List Char}
    (h : ∀ c ∈ cs.head?, Text.isDecimal c = false) : hasIsoForm cs = false := by
  rw [Bool.eq_false_iff]
  intro hform
  obtain ⟨a, b, c, d, e, f, g, i, rfl, hall⟩ := hasIsoForm_iff.mp hform
  have hdecimal := hall a List.mem_cons_self
  rw [h a rfl] at hdecimal
  cases hdecimal

theorem leadingDate_of_head {cs : List Char} (h : ∀ c ∈ cs.head?, Text.isDecimal c = false) :
    leadingDate cs = ([], cs) := by
  have hform : hasIsoForm (cs.take 10) = false := by
    apply hasIsoForm_eq_false_of_head
    rw [List.head?_take]
    exact h
  unfold leadingDate
  rw [List.splitAt_eq]
  simp [hform]

theorem leadingDate_append (cs : List Char) : (leadingDate cs).1 ++ (leadingDate cs).2 = cs := by
  unfold leadingDate
  rw [List.splitAt_eq]
  dsimp only
  split <;> split <;> simp

/-- What may stand on the left of an operator. -/
def IsTerm (left : List Char) : Prop := (∃ d : Date, left = d.isoChars) ∨ IsWord left

/-- There is one operator, and the terms on either side, without the blanks around them, are
these. -/
def IsCutInTwo (s left : List Char) (op : Arithmetic) (right : List Char) : Prop :=
  ∃ first piece, cutArithmetic s = ⟨first, [(op, piece)]⟩ ∧ Text.trim first = left ∧
    Text.trim piece = right

theorem not_isDecimal_of_isWord {cs : List Char} (h : IsWord cs) :
    ∀ c ∈ cs, Text.isDecimal c = false := by
  intro c hc
  rw [Bool.eq_false_iff]
  exact fun hdecimal => h.2 c hc (Text.isNoLetter_of_isDecimal hdecimal)

theorem not_isArithmeticChar_of_isWord {cs : List Char} (h : IsWord cs) :
    ∀ c ∈ cs, isArithmeticChar c = false := by
  intro c hc
  rw [Bool.eq_false_iff]
  exact fun hop => h.2 c hc (isNoLetter_of_isArithmeticChar hop)

theorem trimmed_isoChars (d : Date) : Trimmed d.isoChars where
  head c hc := by
    cases hc
    exact Text.not_isBlank_of_isDecimal (isDecimal_lastDigit _)
  last c hc := by
    cases hc
    exact Text.not_isBlank_of_isDecimal (isDecimal_lastDigit _)

theorem IsTerm.trimmed {left : List Char} (h : IsTerm left) : Trimmed left := by
  rcases h with ⟨d, rfl⟩ | hword
  · exact trimmed_isoChars d
  · exact hword.trimmed

theorem cutArithmetic_of_isWord {cs : List Char} (h : IsWord cs) : cutArithmetic cs = ⟨cs, []⟩ := by
  have hhead : ∀ c ∈ cs.head?, Text.isDecimal c = false := fun c hc =>
    not_isDecimal_of_isWord h c (List.mem_of_mem_head? hc)
  have hout := not_isArithmeticChar_of_isWord h
  unfold cutArithmetic
  rw [leadingDate_of_head hhead]
  exact Text.cutAt_of_outside hout (wholeArithmetic?_eq_none hout)

section
variable {before behind : List Char} (op : Arithmetic) (hbefore : AllBlank before)
  (hbehind : ∀ c ∈ behind, isArithmeticChar c = false)
include hbefore hbehind

theorem cutArithmetic_isoChars_append (d : Date) :
    cutArithmetic (d.isoChars ++ (before ++ (op.symbol.toList ++ behind))) =
      ⟨d.isoChars ++ before, [(op, behind)]⟩ := by
  have hends : ∀ c ∈ (before ++ (op.symbol.toList ++ behind)).head?,
      Text.isBlank c = true ∨ isArithmeticChar c = true := by
    intro c hc
    cases before with
    | nil =>
      rw [List.nil_append, List.head?_append_of_ne_nil _ op.symbol_ne_nil] at hc
      exact .inr (op.isArithmeticChar_symbol c (List.mem_of_mem_head? hc))
    | cons b before =>
      cases hc
      exact .inl (hbefore _ List.mem_cons_self)
  have hblanks : ∀ c ∈ before, isArithmeticChar c = false := fun c hc =>
    isArithmeticChar_of_isBlank (hbefore c hc)
  unfold cutArithmetic
  rw [leadingDate_isoChars d hends]
  dsimp only
  rw [cutAt_symbol op hblanks hbehind]
  rfl

theorem cutArithmetic_of_isWord_append {left : List Char} (hword : IsWord left) :
    cutArithmetic (left ++ (before ++ (op.symbol.toList ++ behind))) =
      ⟨left ++ before, [(op, behind)]⟩ := by
  have hhead : ∀ c ∈ (left ++ (before ++ (op.symbol.toList ++ behind))).head?,
      Text.isDecimal c = false := by
    intro c hc
    rw [List.head?_append_of_ne_nil _ hword.1] at hc
    exact not_isDecimal_of_isWord hword c (List.mem_of_mem_head? hc)
  have hfirst : ∀ c ∈ left ++ before, isArithmeticChar c = false := by
    intro c hc
    rcases List.mem_append.mp hc with hc | hc
    · exact not_isArithmeticChar_of_isWord hword c hc
    · exact isArithmeticChar_of_isBlank (hbefore c hc)
  unfold cutArithmetic
  rw [leadingDate_of_head hhead, ← List.append_assoc]
  dsimp only
  rw [cutAt_symbol op hfirst hbehind]
  rfl

end

theorem IsArithmetic.isCutInTwo {left offset s : List Char} {op : Arithmetic} (hleft : IsTerm left)
    (hoffset : AreDigits offset) (h : IsArithmetic left op offset s) :
    IsCutInTwo s left op offset := by
  obtain ⟨before, behind, hbefore, hbehind, rfl⟩ := h
  have hnone : AllBlank [] := nofun
  have hpiece : ∀ c ∈ behind ++ offset, isArithmeticChar c = false := by
    intro c hc
    rcases List.mem_append.mp hc with hc | hc
    · exact isArithmeticChar_of_isBlank (hbehind c hc)
    · exact isArithmeticChar_of_isDecimal (hoffset.2 c hc)
  refine ⟨left ++ before, behind ++ offset, ?_, ?_, ?_⟩
  · simp only [List.append_assoc]
    rcases hleft with ⟨d, rfl⟩ | hword
    · exact cutArithmetic_isoChars_append op hbefore hpiece d
    · exact cutArithmetic_of_isWord_append op hbefore hpiece hword
  · exact Text.trim_append hnone hleft.trimmed hbefore
  · have htrim := Text.trim_append hbehind (trimmed_of_areDigits hoffset) hnone
    rwa [List.append_nil] at htrim

theorem eq_append_of_cutArithmetic {s first piece : List Char} {op : Arithmetic}
    (h : cutArithmetic s = ⟨first, [(op, piece)]⟩) :
    s = first ++ (op.symbol.toList ++ piece) ∧
      Text.cutAt isArithmeticChar wholeArithmetic? piece = ⟨piece, []⟩ := by
  have hrest : Text.cutAt isArithmeticChar wholeArithmetic? (leadingDate s).2 =
      ⟨(Text.cutAt isArithmeticChar wholeArithmetic? (leadingDate s).2).first, [(op, piece)]⟩ :=
    congrArg (Text.Cut.mk _) (congrArg Text.Cut.rest h)
  have hfirst : (leadingDate s).1 ++
      (Text.cutAt isArithmeticChar wholeArithmetic? (leadingDate s).2).first = first :=
    congrArg Text.Cut.first h
  obtain ⟨run, left, behind, hrun, happend, hpiece, huncut⟩ := Text.exists_run_of_cutAt hrest
  obtain ⟨rfl, rfl⟩ := wholeArithmetic?_eq_some_iff.mp hrun
  rw [List.nil_append] at hpiece
  subst hpiece
  refine ⟨?_, huncut⟩
  rw [← hfirst, List.append_assoc, ← happend, leadingDate_append]

/-- A sign that stands apart is an operator, so a numeral in a piece has none. -/
theorem unsigned_of_uncut {blanks right : List Char} {n : Text.Numeral} (hblanks : AllBlank blanks)
    (h : Text.cutAt isArithmeticChar wholeArithmetic? (blanks ++ right) = ⟨blanks ++ right, []⟩)
    (hn : Text.Numeral.ofChars? right = some n) : AreDigits right ∧ n = ⟨false, right⟩ := by
  obtain ⟨negative, digits⟩ := n
  obtain ⟨hdigits, sign, hsign, rfl⟩ := Text.Numeral.ofChars?_eq_some_iff.mp hn
  have hunsigned : ∀ op : Arithmetic, op.symbol.toList ≠ sign := by
    rintro op rfl
    have houtside : ∀ c ∈ blanks, isArithmeticChar c = false := fun c hc =>
      isArithmeticChar_of_isBlank (hblanks c hc)
    have hcuts := cutAt_symbol op houtside fun c hc =>
      isArithmeticChar_of_isDecimal (hdigits.2 c hc)
    rw [h] at hcuts
    exact List.cons_ne_nil _ _ (congrArg Text.Cut.rest hcuts).symm
  rcases Text.Numeral.mem_signs hsign with ⟨rfl, hnegative⟩ | ⟨rfl, -⟩ | ⟨rfl, -⟩
  · obtain rfl : negative = false := hnegative
    exact ⟨hdigits, rfl⟩
  · exact absurd rfl (hunsigned .add)
  · exact absurd rfl (hunsigned .subtract)

theorem IsCutInTwo.isArithmetic {s left right : List Char} {op : Arithmetic} {n : Text.Numeral}
    (hs : Trimmed s) (h : IsCutInTwo s left op right)
    (hright : Text.Numeral.ofChars? right = some n) :
    IsArithmetic left op right s ∧ AreDigits right ∧ n = ⟨false, right⟩ := by
  obtain ⟨first, piece, hcut, rfl, rfl⟩ := h
  obtain ⟨heq, hpiece⟩ := eq_append_of_cutArithmetic hcut
  obtain ⟨before, hbefore, hfirst⟩ := Text.exists_trim_of_append (heq ▸ hs)
  rw [← List.append_assoc] at heq
  obtain ⟨behind, hbehind, hlast⟩ := Text.exists_trim_of_append_right (heq ▸ hs)
  rw [hlast] at hpiece
  refine ⟨⟨before, behind, hbefore, hbehind, ?_⟩, unsigned_of_uncut hbehind hpiece hright⟩
  rw [← hfirst, List.append_assoc _ behind, ← hlast]
  exact heq

end DateRules
