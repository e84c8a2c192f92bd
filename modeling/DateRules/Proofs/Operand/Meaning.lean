import DateRules.Proofs.Calendar.Reference
import DateRules.Proofs.Operand.Compile
import Mathlib.Data.Rat.Floor

/-!
What an operand of each form is worth on a date, by the calendar and by exact arithmetic, and on
which dates it is worth nothing. The expression that it compiles to evaluates to that.
-/
namespace DateRules

open Text.Numeral (magnitude)

/-- Exact arithmetic; a quotient is rounded down, and the remainder is what that leaves. -/
def Arithmetic.exact (op : Arithmetic) (z : Int) (n : Nat) : Int :=
  match op with
  | .add => z + n
  | .subtract => z - n
  | .multiply => z * n
  | .divide => ⌊(z : Rat) / n⌋
  | .modulo => z - n * ⌊(z : Rat) / n⌋
  | .power => z ^ n

theorem naturalPower_eq (base : Int) (exponent : Nat) :
    naturalPower base exponent = base ^ exponent := by
  unfold naturalPower
  split
  · rename_i h
    change base ^ (2 - exponent % 2) = base ^ exponent
    obtain ⟨k, hk | hk⟩ := Nat.even_or_odd' exponent
    · have hparity : 2 - exponent % 2 = 2 := by omega
      have hpositive : k ≠ 0 := by omega
      rw [hparity, hk, pow_mul]
      rcases show base = -1 ∨ base = 0 ∨ base = 1 by omega with rfl | rfl | rfl <;> simp [hpositive]
    · have hparity : 2 - exponent % 2 = 1 := by omega
      rw [hparity, hk, pow_one, pow_succ, pow_mul]
      rcases show base = -1 ∨ base = 0 ∨ base = 1 by omega with rfl | rfl | rfl <;> simp
  · rfl

theorem fdiv_eq_floor (z : Int) (n : Nat) : z.fdiv n = ⌊(z : Rat) / n⌋ := by
  rw [Rat.floor_intCast_div_natCast, Int.fdiv_eq_ediv_of_nonneg z (Int.natCast_nonneg n)]

/-- An integer combined with a number that is no zero divisor is exactly combined. -/
theorem combine_apply {op : Arithmetic} {n : Nat} (h : op = .divide ∨ op = .modulo → n ≠ 0)
    (z : Int) : (Change.combine op n).apply (.integer z) = .ok (.integer (op.exact z n)) := by
  have hwhole : op.onInteger z n = .ok (.integer (op.exact z n)) := by
    cases op with
    | divide =>
      have hn : (n : Int) ≠ 0 := by exact_mod_cast h (.inl rfl)
      simp only [Arithmetic.onInteger, if_neg hn, Arithmetic.exact, fdiv_eq_floor]
    | modulo =>
      have hn : (n : Int) ≠ 0 := by exact_mod_cast h (.inr rfl)
      simp only [Arithmetic.onInteger, if_neg hn, Arithmetic.exact, ← fdiv_eq_floor, Int.fmod_def]
    | power =>
      have hn : (0 : Int) ≤ n := Int.natCast_nonneg n
      simp only [Arithmetic.onInteger, if_pos hn, Arithmetic.exact, naturalPower_eq,
        Int.toNat_natCast]
    | _ => rfl
  simp only [Change.apply, Value.asInteger, bind, Except.bind, hwhole, Number.whole]
  rfl

/-- The value of a quantity on the date `d`. -/
def Quantity.HasValue (q : Quantity) (d : Date) (v : Value) : Prop :=
  match q with
  | date => v = .date d
  | day => v = .integer d.day
  | month => v = .integer d.month
  | year => v = .integer d.year
  | weekday => ∃ w, w.index = ({e : Date | e < d}.ncard + 1) % 7 ∧ v = .weekday w
  | dayNumber => v = .integer {e : Date | e < d}.ncard
  | dayOfYear => v = .integer ({e : Date | e.year = d.year ∧ e < d}.ncard + 1 : Nat)
  | easter => ∃ e : Date, (1900 ≤ d.year ∧ d.year ≤ 2099) ∧ e.year = d.year ∧ e.IsEaster ∧
      v = .date e
  | endOfMonth => ∃ e, Date.IsEndOfMonth d e ∧ v = .date e

theorem easterSunday_eq_ok_iff {year : Nat} {e : Date} : easterSunday year = .ok e ↔
    (1900 ≤ year ∧ year ≤ 2099) ∧ e.year = year ∧ e.IsEaster := by
  have htable : easterSunday year = .ok e ↔ Easter.sunday? year = some e := by
    unfold easterSunday
    cases Easter.sunday? (year : Int) <;> simp
  have hrange : 1900 ≤ (year : Int) ∧ (year : Int) ≤ 2099 ↔ 1900 ≤ year ∧ year ≤ 2099 := by omega
  rw [htable, Easter.sunday?_eq_some_iff, Int.natCast_inj, hrange]

theorem easterSunday_eq_error_iff {year : Nat} {error : EvalError} :
    easterSunday year = .error error ↔
      (year < 1900 ∨ 2099 < year) ∧ error = .easterOutOfTable year := by
  unfold easterSunday
  cases hsunday : Easter.sunday? (year : Int) with
  | none =>
    have houtside : year < 1900 ∨ 2099 < year := by
      by_contra hwithin
      obtain ⟨e, he, -⟩ := (Option.any_eq_true _ _).mp
        (Easter.table_check (year - 1900) (by omega))
      rw [show 1900 + (year - 1900) = year by omega, hsunday] at he
      cases he
    simp [houtside, eq_comm]
  | some e =>
    have hwithin := (Easter.sunday?_eq_some_iff.mp hsunday).1
    have hnot : ¬(year < 1900 ∨ 2099 < year) := by omega
    simp [hnot]

theorem Quantity.on_eq_ok_iff {q : Quantity} {d : Date} {v : Value} :
    q.on d = .ok v ↔ q.HasValue d v := by
  cases q with
  | weekday =>
    simp only [on, HasValue, ← Date.index_weekday, Weekday.index_inj, exists_eq_left, ok_eq_ok_iff]
  | dayNumber => simp only [on, HasValue, Date.ncard_before, ok_eq_ok_iff]
  | dayOfYear => simp only [on, HasValue, Date.ncard_before_in_year, ok_eq_ok_iff]
  | easter => simp only [on, HasValue, map_eq_ok_iff, easterSunday_eq_ok_iff, and_assoc]
  | endOfMonth => simp only [on, HasValue, Date.isEndOfMonth_iff, exists_eq_left, ok_eq_ok_iff]
  | _ => exact ok_eq_ok_iff

theorem Quantity.on_eq_error_iff {q : Quantity} {d : Date} {error : EvalError} :
    q.on d = .error error ↔
      (q = .easter ∧ (d.year < 1900 ∨ 2099 < d.year)) ∧ error = .easterOutOfTable d.year := by
  cases q with
  | easter => simp [on, map_eq_error_iff, easterSunday_eq_error_iff]
  | _ => simp [on]

theorem Quantity.HasValue.category {q : Quantity} {d : Date} {v : Value} (h : q.HasValue d v) :
    v.category = q.category := by
  rw [← on_eq_ok_iff] at h
  cases q with
  | easter =>
    obtain ⟨e, -, rfl⟩ := map_eq_ok_iff.mp h
    rfl
  | _ =>
    cases h
    rfl

theorem Value.eq_date_of_category {v : Value} (h : v.category = .date) : ∃ d, v = .date d := by
  cases v with
  | date d => exact ⟨d, rfl⟩
  | _ => cases h

theorem Value.eq_integer_of_category {v : Value} (h : v.category = .integer) :
    ∃ z, v = .integer z := by
  cases v with
  | integer z => exact ⟨z, rfl⟩
  | _ => cases h

theorem isMoved_iff {op : Arithmetic} (hop : op = .add ∨ op = .subtract) {n : Nat} {d e : Date} :
    IsMoved op n d e ↔ (e.dayNumber : Int) = d.dayNumber + op.days n := by
  rcases hop with rfl | rfl
  · simp only [IsMoved, Arithmetic.days]
    omega
  · simp only [IsMoved, Arithmetic.days]
    omega

theorem IsMoved.unique {op : Arithmetic} {n : Nat} {d e e' : Date} (h : IsMoved op n d e)
    (h' : IsMoved op n d e') : e = e' := by
  cases op with
  | add => exact Date.dayNumber_injective (h.trans h'.symm)
  | subtract => exact Date.dayNumber_injective (Nat.add_right_cancel (h.symm.trans h'))
  | _ => exact h.elim

namespace OperandForm

/-- The value of an operand of the form on the date `d`. -/
def HasValue (f : OperandForm) (d : Date) (v : Value) : Prop :=
  match f with
  | date e => v = .date e
  | integer n =>
    v = .integer (if n.negative then -(magnitude n.digits : Int) else magnitude n.digits)
  | quantity q => q.HasValue d v
  | weekday w => v = .weekday w
  | movedDate e op offset => ∃ e', IsMoved op (magnitude offset) e e' ∧ v = .date e'
  | movedQuantity q op offset =>
    ∃ e e', q.HasValue d (.date e) ∧ IsMoved op (magnitude offset) e e' ∧ v = .date e'
  | combined q op offset =>
    ∃ z, q.HasValue d (.integer z) ∧ v = .integer (op.exact z (magnitude offset))

/-- The operand is `Easter`, or that moved, and the table does not have it. -/
def MissesTable (f : OperandForm) (d : Date) : Prop :=
  match f with
  | quantity .easter | movedQuantity .easter _ _ => d.year < 1900 ∨ 2099 < d.year
  | _ => False

/-- The date that the operand names has no day so far from it. -/
def LeavesCalendar (f : OperandForm) (d : Date) : Prop :=
  match f with
  | movedQuantity q op offset =>
    ∃ e, q.HasValue d (.date e) ∧ ∀ e', ¬IsMoved op (magnitude offset) e e'
  | _ => False

variable {f : OperandForm} {s : List Char} {e : Expression} {d : Date}

theorem HasValue.category (hf : f.IsWritten s) {v : Value} (h : f.HasValue d v) :
    v.category = f.category := by
  cases f with
  | quantity q => exact Quantity.HasValue.category h
  | movedDate e op offset =>
    obtain ⟨e', -, rfl⟩ := h
    rfl
  | movedQuantity q op offset =>
    obtain ⟨e, e', -, -, rfl⟩ := h
    rfl
  | combined q op offset =>
    obtain ⟨z, -, rfl⟩ := h
    rfl
  | _ =>
    subst h
    rfl

theorem IsWritten.eval_eq_ok_iff (hf : f.IsWritten s) (he : f.Means e) {v : Value} :
    e.eval d = .ok v ↔ f.HasValue d v := by
  cases f with
  | quantity q =>
    subst he
    exact Quantity.on_eq_ok_iff
  | integer n =>
    obtain ⟨z, hz, rfl⟩ := he
    obtain ⟨-, rfl⟩ := value?_eq_some_iff.mp hz
    exact ok_eq_ok_iff
  | movedDate e op offset =>
    obtain ⟨e', hmoved, rfl⟩ := he
    rw [Expression.eval, ok_eq_ok_iff]
    constructor
    · rintro rfl
      exact ⟨e', hmoved, rfl⟩
    · rintro ⟨e'', hmoved', rfl⟩
      rw [hmoved.unique hmoved']
  | movedQuantity q op offset =>
    obtain ⟨-, -, hcategory, hop⟩ := hf
    subst he
    simp only [Expression.eval, bind_eq_ok_iff, Quantity.on_eq_ok_iff, HasValue, isMoved_iff hop]
    constructor
    · rintro ⟨u, hu, happly⟩
      obtain ⟨e, rfl⟩ := Value.eq_date_of_category (hu.category.trans hcategory)
      obtain ⟨e', hmoved, rfl⟩ := move_apply_eq_ok_iff.mp happly
      exact ⟨e, e', hu, hmoved, rfl⟩
    · rintro ⟨e, e', hu, hmoved, rfl⟩
      exact ⟨_, hu, move_apply_eq_ok_iff.mpr ⟨e', hmoved, rfl⟩⟩
  | combined q op offset =>
    obtain ⟨-, -, hcategory, hdivisor⟩ := hf
    subst he
    simp only [Expression.eval, bind_eq_ok_iff, Quantity.on_eq_ok_iff, HasValue]
    constructor
    · rintro ⟨u, hu, happly⟩
      obtain ⟨z, rfl⟩ := Value.eq_integer_of_category (hu.category.trans hcategory)
      rw [combine_apply hdivisor, ok_eq_ok_iff] at happly
      exact ⟨z, hu, happly⟩
    · rintro ⟨z, hu, rfl⟩
      exact ⟨_, hu, combine_apply hdivisor z⟩
  | _ =>
    subst he
    exact ok_eq_ok_iff

theorem IsWritten.eval_eq_error_iff (hf : f.IsWritten s) (he : f.Means e) {error : EvalError} :
    e.eval d = .error error ↔ f.MissesTable d ∧ error = .easterOutOfTable d.year ∨
      f.LeavesCalendar d ∧ error = .outsideCalendar := by
  cases f with
  | quantity q =>
    subst he
    rw [Expression.eval, Quantity.on_eq_error_iff]
    cases q <;> simp [MissesTable, LeavesCalendar]
  | movedQuantity q op offset =>
    obtain ⟨-, -, hcategory, hop⟩ := hf
    subst he
    simp only [Expression.eval, bind_eq_error_iff, Quantity.on_eq_ok_iff, Quantity.on_eq_error_iff]
    apply or_congr
    · cases q <;> simp [MissesTable]
    · simp only [LeavesCalendar, isMoved_iff hop]
      constructor
      · rintro ⟨u, hu, happly⟩
        obtain ⟨e, rfl⟩ := Value.eq_date_of_category (hu.category.trans hcategory)
        obtain ⟨hnone, rfl⟩ := move_apply_eq_error_iff.mp happly
        exact ⟨⟨e, hu, hnone⟩, rfl⟩
      · rintro ⟨⟨e, hu, hnone⟩, rfl⟩
        exact ⟨_, hu, move_apply_eq_error_iff.mpr ⟨hnone, rfl⟩⟩
  | combined q op offset =>
    obtain ⟨-, -, hcategory, hdivisor⟩ := hf
    subst he
    simp only [Expression.eval, bind_eq_error_iff, Quantity.on_eq_ok_iff, Quantity.on_eq_error_iff,
      MissesTable, LeavesCalendar, false_and, or_false, iff_false]
    rintro (⟨⟨rfl, -⟩, -⟩ | ⟨u, hu, happly⟩)
    · cases hcategory
    · obtain ⟨z, rfl⟩ := Value.eq_integer_of_category (hu.category.trans hcategory)
      rw [combine_apply hdivisor] at happly
      cases happly
  | integer n =>
    obtain ⟨z, hz, rfl⟩ := he
    simp [Expression.eval, MissesTable, LeavesCalendar]
  | movedDate e op offset =>
    obtain ⟨e', hmoved, rfl⟩ := he
    simp [Expression.eval, MissesTable, LeavesCalendar]
  | _ =>
    subst he
    simp [Expression.eval, MissesTable, LeavesCalendar]

end OperandForm
end DateRules
