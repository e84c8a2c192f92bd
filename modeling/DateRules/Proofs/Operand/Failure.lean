import DateRules.Proofs.Operand.Compile

/-!
What a text that is no operand is reported for. A fault speaks of a part of the text, unless a
numeral has too many digits to be read; arithmetic on a date goes wrong in one way only, by leaving
the calendar.
-/
namespace DateRules

open Text (AreDigits Trimmed)

/-- An integer, or the offset of an operator, has more digits than are read. -/
def HasLongNumeral (s : List Char) : Prop :=
  (∃ n : Text.Numeral, n.IsSpelled s ∧ Text.Numeral.maxDigits < n.digits.length) ∨
    ∃ left op offset, IsArithmetic left op offset s ∧ AreDigits offset ∧
      Text.Numeral.maxDigits < offset.length

namespace OperandFault

/-- The fault speaks of a part of the text, or of a numeral in it that is too long. -/
def IsAbout (f : OperandFault) (s : List Char) : Prop :=
  (∃ part, f.operand? = some part ∧ part.toList <:+: s) ∨ f = .numeralTooLong ∧ HasLongNumeral s

variable {f : OperandFault} {s : List Char}

theorem IsAbout.of_part {part : List Char} (h : f.operand? = some (String.ofList part))
    (hpart : part <:+: s) : f.IsAbout s :=
  .inl ⟨_, h, by rwa [String.toList_ofList]⟩

theorem IsAbout.of_whole (h : f.operand? = some (String.ofList s)) : f.IsAbout s :=
  .of_part h (List.infix_refl s)

end OperandFault

theorem value?_eq_none_iff {n : Text.Numeral} :
    n.value? = none ↔ Text.Numeral.maxDigits < n.digits.length := by
  unfold Text.Numeral.value?
  split <;> simp_all

namespace Operand

variable {text : String} {f : OperandFault} {op : Arithmetic}

theorem numeralValue_eq_error_iff {n : Text.Numeral} : numeralValue n = .error f ↔
    f = .numeralTooLong ∧ Text.Numeral.maxDigits < n.digits.length := by
  rw [← value?_eq_none_iff]
  unfold numeralValue
  cases n.value? <;> simp [eq_comm]

theorem operand?_of_ofName {term : List Char} (h : ofName term = .error f) :
    f.operand? = some (String.ofList term) := by
  unfold ofName at h
  split at h
  · cases h
  · cases h
  · cases h
    rfl

/-- A date that a change is for can only be moved out of the calendar. -/
theorem changedDate_of_apply_error {d : Date} {n : Int} {change : Change} {error : EvalError}
    (hchange : op.change .date n = .ok change) (h : change.apply (.date d) = .error error) :
    error = .outsideCalendar ∧ changedDate text d op n = .error (.shiftedOutsideCalendar text) := by
  constructor
  · rcases Arithmetic.change_eq_ok_iff.mp hchange with ⟨-, -, rfl⟩ | ⟨-, -, rfl⟩ | ⟨hcategory, -⟩
    · exact (move_apply_eq_error_iff.mp h).2
    · exact (move_apply_eq_error_iff.mp h).2
    · cases hcategory
  · simp only [changedDate, hchange, Except.mapError, bind, Except.bind, h]

theorem operand?_of_changedDate {d : Date} {n : Int} (h : changedDate text d op n = .error f) :
    f.operand? = some text := by
  unfold changedDate at h
  rcases bind_eq_error_iff.mp h with hchange | ⟨change, -, hmoved⟩
  · obtain ⟨fault, -, rfl⟩ := mapError_eq_error_iff.mp hchange
    rfl
  · split at hmoved
    · cases hmoved
    · cases hmoved
      rfl

theorem operand?_of_changedName {left : List Char} {n : Int}
    (h : changedName text left op n = .error f) : f.operand? = some text := by
  unfold changedName at h
  split at h
  · obtain ⟨fault, -, rfl⟩ := mapError_eq_error_iff.mp (map_eq_error_iff.mp h)
    rfl
  · split at h <;> cases h <;> rfl

theorem exists_cause_of_ofArithmetic {left right : List Char}
    (h : ofArithmetic text left op right = .error f) :
    f.operand? = some text ∨ f.operand? = some (String.ofList left) ∨
      f = .numeralTooLong ∧ ∃ n, Text.Numeral.ofChars? right = some n ∧
        Text.Numeral.maxDigits < n.digits.length := by
  unfold ofArithmetic at h
  split at h
  · cases h
    exact .inl rfl
  · split at h
    · cases h
      exact .inl rfl
    · rename_i n hn
      rcases bind_eq_error_iff.mp h with hlong | ⟨offset, -, hleft⟩
      · obtain ⟨rfl, hlength⟩ := numeralValue_eq_error_iff.mp hlong
        exact .inr (.inr ⟨rfl, n, hn, hlength⟩)
      · split at hleft
        · cases hleft
          exact .inr (.inl rfl)
        · exact .inl (operand?_of_changedDate hleft)
        · exact .inl (operand?_of_changedName hleft)

variable {s : List Char}

theorem isAbout_of_ofTerms (hs : Trimmed s) (h : ofTerms s = .error f) : f.IsAbout s := by
  unfold ofTerms at h
  split at h
  · exact .of_whole (operand?_of_ofName h)
  · rename_i first op piece hcut
    dsimp only at h
    split at h
    · cases h
      exact .of_whole rfl
    · rcases exists_cause_of_ofArithmetic h with hwhole | hleft | ⟨rfl, n, hn, hlong⟩
      · exact .of_whole hwhole
      · refine .of_part hleft ((Text.isInfix_trim first).trans ?_)
        rw [(eq_append_of_cutArithmetic hcut).1]
        exact (List.prefix_append _ _).isInfix
      · have hcuts : IsCutInTwo s (Text.trim first) op (Text.trim piece) :=
          ⟨first, piece, hcut, rfl, rfl⟩
        obtain ⟨harithmetic, hdigits, rfl⟩ := hcuts.isArithmetic hs hn
        exact .inr ⟨rfl, .inr ⟨_, op, _, harithmetic, hdigits, hlong⟩⟩
  · cases h
    exact .of_whole rfl

theorem isAbout_of_readExpression (hs : Trimmed s) (h : readExpression s = .error f) :
    f.IsAbout s := by
  unfold readExpression at h
  split at h
  · cases h
    exact .of_whole rfl
  · cases h
  · rename_i n _ hn
    obtain ⟨rfl, hlong⟩ := numeralValue_eq_error_iff.mp (map_eq_error_iff.mp h)
    exact .inr ⟨rfl, .inl ⟨n, Text.Numeral.ofChars?_eq_some_iff.mp hn, hlong⟩⟩
  · exact isAbout_of_ofTerms hs h

theorem isAbout_of_ofChars (hs : Trimmed s) (h : ofChars s = .error f) : f.IsAbout s := by
  unfold ofChars at h
  rw [Text.trim_of_trimmed hs] at h
  dsimp only at h
  split at h
  · cases h
    exact .of_whole rfl
  · rcases bind_eq_error_iff.mp h with hread | ⟨expression, -, hdone⟩
    · exact isAbout_of_readExpression hs hread
    · cases hdone

end Operand
end DateRules
