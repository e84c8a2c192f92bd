import DateRules.Proofs.Operand.Compile
import DateRules.Proofs.Text.LetterCase

/-!
What an operand is written with: the letters of names, and marks, which are decimal digits,
arithmetic operators and blanks. Letters stand in a name only.
-/
namespace DateRules

open Text (AreDigits)

def isOperandMark (c : Char) : Bool := Text.isDecimal c || isArithmeticChar c || Text.isBlank c

def isOperandChar (c : Char) : Bool := Text.isNameLetter c || isOperandMark c

section
variable {c : Char}

theorem isOperandMark_iff : isOperandMark c = true ↔
    Text.isDecimal c = true ∨ isArithmeticChar c = true ∨ Text.isBlank c = true := by
  simp only [isOperandMark, Bool.or_eq_true, or_assoc]

theorem isOperandChar_iff : isOperandChar c = true ↔
    Text.isNameLetter c = true ∨ isOperandMark c = true :=
  Bool.or_eq_true_iff

theorem isOperandMark_of_isDecimal (h : Text.isDecimal c = true) : isOperandMark c = true :=
  isOperandMark_iff.mpr (.inl h)

theorem isOperandMark_of_isArithmeticChar (h : isArithmeticChar c = true) :
    isOperandMark c = true :=
  isOperandMark_iff.mpr (.inr (.inl h))

theorem isOperandMark_of_isBlank (h : Text.isBlank c = true) : isOperandMark c = true :=
  isOperandMark_iff.mpr (.inr (.inr h))

end

theorem isOperandMark_isoChars (d : Date) : ∀ c ∈ d.isoChars, isOperandMark c = true := by
  have hdash : isOperandMark '-' = true := isOperandMark_of_isArithmeticChar rfl
  have hdigit := fun n => isOperandMark_of_isDecimal (isDecimal_lastDigit n)
  simp [Date.isoChars, hdash, hdigit]

theorem Text.Numeral.IsSpelled.isOperandMark {n : Text.Numeral} {cs : List Char}
    (h : n.IsSpelled cs) :
    ∀ c ∈ cs, isOperandMark c = true := by
  obtain ⟨hdigits, sign, hsign, rfl⟩ := h
  refine List.forall_mem_append.mpr ⟨?_, fun c hc => isOperandMark_of_isDecimal (hdigits.2 c hc)⟩
  rcases Text.Numeral.mem_signs hsign with ⟨rfl, -⟩ | ⟨rfl, -⟩ | ⟨rfl, -⟩
  · exact nofun
  · exact List.forall_mem_singleton.mpr (isOperandMark_of_isArithmeticChar rfl)
  · exact List.forall_mem_singleton.mpr (isOperandMark_of_isArithmeticChar rfl)

/-- The term on the left is followed by marks, which do not depend on it. -/
theorem IsArithmetic.exists_tail {left offset s : List Char} {op : Arithmetic}
    (h : IsArithmetic left op offset s) (hoffset : AreDigits offset) :
    ∃ tail, s = left ++ tail ∧ (∀ c ∈ tail, isOperandMark c = true) ∧
      ∀ other, IsArithmetic other op offset (other ++ tail) := by
  obtain ⟨before, behind, hbefore, hbehind, rfl⟩ := h
  refine ⟨before ++ op.symbol.toList ++ behind ++ offset, by simp only [List.append_assoc], ?_,
    fun other => ⟨before, behind, hbefore, hbehind, by simp only [List.append_assoc]⟩⟩
  simp only [List.forall_mem_append]
  refine ⟨⟨⟨fun c hc => ?_, fun c hc => ?_⟩, fun c hc => ?_⟩, fun c hc => ?_⟩
  · exact isOperandMark_of_isBlank (hbefore c hc)
  · exact isOperandMark_of_isArithmeticChar (op.isArithmeticChar_symbol c hc)
  · exact isOperandMark_of_isBlank (hbehind c hc)
  · exact isOperandMark_of_isDecimal (hoffset.2 c hc)

theorem isNameLetter_of_lower {cs : List Char} {name : String} (h : Text.lower cs = name.toList)
    (hname : ∀ l ∈ name.toList, l.isLower = true) : ∀ c ∈ cs, Text.isNameLetter c = true := by
  rw [← h] at hname
  exact Text.isNameLetter_of_lower hname

theorem OperandForm.IsWritten.isOperandChar {f : OperandForm} {s : List Char} (h : f.IsWritten s) :
    ∀ c ∈ s, isOperandChar c = true := by
  simp only [isOperandChar_iff]
  cases f with
  | date d =>
    subst h
    exact fun c hc => .inr (isOperandMark_isoChars d c hc)
  | integer n => exact fun c hc => .inr (h.1.isOperandMark c hc)
  | quantity q => exact fun c hc => .inl (isNameLetter_of_lower h q.isLower_name c hc)
  | weekday w => exact fun c hc => .inl (isNameLetter_of_lower h w.isLower_name c hc)
  | movedDate d op offset =>
    obtain ⟨tail, rfl, htail, -⟩ := h.1.exists_tail h.2.1.1
    exact List.forall_mem_append.mpr
      ⟨fun c hc => .inr (isOperandMark_isoChars d c hc), fun c hc => .inr (htail c hc)⟩
  | movedQuantity q op offset | combined q op offset =>
    obtain ⟨⟨left, hname, harithmetic⟩, hoffset, -⟩ := h
    obtain ⟨tail, rfl, htail, -⟩ := harithmetic.exists_tail hoffset.1
    exact List.forall_mem_append.mpr
      ⟨fun c hc => .inl (isNameLetter_of_lower hname q.isLower_name c hc),
        fun c hc => .inr (htail c hc)⟩

theorem Operand.isOperandChar_of_parse {t : String} {o : Operand} (h : parse t = .ok o) :
    ∀ c ∈ t.toList, isOperandChar c = true := by
  obtain ⟨f, hwritten, -⟩ := parse_eq_ok_iff.mp h
  obtain ⟨before, behind, hbefore, hbehind, heq⟩ := Text.exists_trim t.toList
  rw [heq]
  simp only [List.forall_mem_append]
  refine ⟨⟨fun c hc => ?_, hwritten.isOperandChar⟩, fun c hc => ?_⟩
  · exact isOperandChar_iff.mpr (.inr (isOperandMark_of_isBlank (hbefore c hc)))
  · exact isOperandChar_iff.mpr (.inr (isOperandMark_of_isBlank (hbehind c hc)))

end DateRules
