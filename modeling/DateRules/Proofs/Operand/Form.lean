import DateRules.Operand.Parser
import DateRules.Proofs.Text.Numeral
import DateRules.Proofs.Text.Trim

/-!
The grammar of operands, stated without a reader: seven forms, the texts that are written in each,
and the expression that each stands for.
-/
namespace DateRules

/-- As many digits as are read, and no sign. -/
def IsOffset (offset : List Char) : Prop :=
  Text.AreDigits offset ∧ offset.length ≤ Text.Numeral.maxDigits

/-- `left op offset`; blanks may stand around the operator. -/
def IsArithmetic (left : List Char) (op : Arithmetic) (offset s : List Char) : Prop :=
  ∃ before behind, Text.AllBlank before ∧ Text.AllBlank behind ∧
    s = left ++ before ++ op.symbol.toList ++ behind ++ offset

/-- The day `e` is `days` days after `d`, or, for a difference, before it. -/
def IsMoved (op : Arithmetic) (days : Nat) (d e : Date) : Prop :=
  match op with
  | .add => e.dayNumber = d.dayNumber + days
  | .subtract => d.dayNumber = e.dayNumber + days
  | _ => False

/-- By how many days a sum or a difference moves a date. -/
def Arithmetic.days (op : Arithmetic) (n : Nat) : Int :=
  match op with
  | .subtract => -n
  | _ => n

/-- The forms of an operand. An offset is kept as its digits. -/
inductive OperandForm where
  | date (d : Date)
  | integer (n : Text.Numeral)
  | quantity (q : Quantity)
  | weekday (w : Weekday)
  | movedDate (d : Date) (op : Arithmetic) (offset : List Char)
  | movedQuantity (q : Quantity) (op : Arithmetic) (offset : List Char)
  | combined (q : Quantity) (op : Arithmetic) (offset : List Char)

namespace OperandForm

open Text.Numeral (magnitude)

def category : OperandForm → Category
  | date _ | movedDate .. | movedQuantity .. => .date
  | integer _ | combined .. => .integer
  | quantity q => q.category
  | weekday _ => .weekday

/-- The text, with no blanks around it, is of the form. -/
def IsWritten (f : OperandForm) (s : List Char) : Prop :=
  match f with
  | date d => s = d.isoChars
  | integer n => n.IsSpelled s ∧ n.digits.length ≤ Text.Numeral.maxDigits
  | quantity q => Text.lower s = q.name.toList
  | weekday w => Text.lower s = w.name.toList
  | movedDate d op offset =>
    IsArithmetic d.isoChars op offset s ∧ IsOffset offset ∧ ∃ e, IsMoved op (magnitude offset) d e
  | movedQuantity q op offset =>
    (∃ left, Text.lower left = q.name.toList ∧ IsArithmetic left op offset s) ∧ IsOffset offset ∧
      q.category = .date ∧ (op = .add ∨ op = .subtract)
  | combined q op offset =>
    (∃ left, Text.lower left = q.name.toList ∧ IsArithmetic left op offset s) ∧ IsOffset offset ∧
      q.category = .integer ∧ (op = .divide ∨ op = .modulo → magnitude offset ≠ 0)

/-- The expression that an operand of the form compiles to. -/
def Means (f : OperandForm) (e : Expression) : Prop :=
  match f with
  | date d => e = .constant (.date d)
  | integer n => ∃ z, n.value? = some z ∧ e = .constant (.integer z)
  | quantity q => e = .quantity q
  | weekday w => e = .constant (.weekday w)
  | movedDate d op offset => ∃ d', IsMoved op (magnitude offset) d d' ∧ e = .constant (.date d')
  | movedQuantity q op offset =>
    e = .changed q (.move (op.days (magnitude offset)))
  | combined q op offset => e = .changed q (.combine op (magnitude offset))

theorem Means.category_eq {f : OperandForm} {e : Expression} (h : f.Means e) :
    e.category = f.category := by
  cases f with
  | integer n =>
    obtain ⟨z, -, rfl⟩ := h
    rfl
  | movedDate d op offset =>
    obtain ⟨d', -, rfl⟩ := h
    rfl
  | _ =>
    subst h
    rfl

end OperandForm
end DateRules
