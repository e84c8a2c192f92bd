import DateRules.Proofs.Calendar.DayCount
import DateRules.Proofs.Outcome
import DateRules.Value

/-!
Which changes operators make, and what they make of a value; which comparisons are defined, and what
they say of two values.
-/
namespace DateRules

theorem Arithmetic.change_eq_ok_iff {op : Arithmetic} {category : Category} {right : Int}
    {c : Change} : op.change category right = .ok c ↔
      (category = .date ∧ op = .add ∧ c = .move right) ∨
      (category = .date ∧ op = .subtract ∧ c = .move (-right)) ∨
      (category = .integer ∧ (op = .divide ∨ op = .modulo → right ≠ 0) ∧
        c = .combine op right) := by
  unfold Arithmetic.change
  cases category with
  | date => cases op <;> grind
  | weekday => simp
  | integer => cases op <;> grind

theorem addDays_eq_ok_iff {d e : Date} {days : Int} :
    d.addDays days = .ok e ↔ (e.dayNumber : Int) = d.dayNumber + days := by
  rw [← Date.addDays?_eq_some_iff]
  unfold Date.addDays
  split <;> simp_all

theorem addDays_eq_error_iff {d : Date} {days : Int} {error : EvalError} :
    d.addDays days = .error error ↔
      (∀ e : Date, (e.dayNumber : Int) ≠ d.dayNumber + days) ∧ error = .outsideCalendar := by
  simp only [ne_eq, ← Date.addDays?_eq_some_iff]
  unfold Date.addDays
  cases d.addDays? days with
  | none => simp [eq_comm]
  | some e => simp

theorem move_apply_eq_ok_iff {d : Date} {days : Int} {v : Value} :
    (Change.move days).apply (.date d) = .ok v ↔
      ∃ e : Date, (e.dayNumber : Int) = d.dayNumber + days ∧ v = .date e := by
  simp only [Change.apply, Value.asDate, bind_eq_ok_iff, map_eq_ok_iff, addDays_eq_ok_iff,
    Except.ok.injEq, exists_eq_left']

theorem move_apply_eq_error_iff {d : Date} {days : Int} {error : EvalError} :
    (Change.move days).apply (.date d) = .error error ↔
      (∀ e : Date, (e.dayNumber : Int) ≠ d.dayNumber + days) ∧ error = .outsideCalendar := by
  rw [← addDays_eq_error_iff]
  exact map_eq_error_iff

/-- Earlier in the calendar, or less; days of the week have no order. -/
def Value.IsBefore : Value → Value → Prop
  | date d, date e => d.year < e.year ∨ d.year = e.year ∧
      (d.month < e.month ∨ d.month = e.month ∧ d.day < e.day)
  | integer a, integer b => a < b
  | _, _ => False

/-- What an operator says of the values on its left and right. -/
def Comparison.Relates (op : Comparison) (v w : Value) : Prop :=
  match op with
  | eq => v = w
  | ne => v ≠ w
  | lt => v.IsBefore w
  | le => v.IsBefore w ∨ v = w
  | gt => w.IsBefore v
  | ge => w.IsBefore v ∨ v = w

theorem Comparison.isDefinedFor_iff {op : Comparison} {c : Category} :
    op.isDefinedFor c = true ↔ (c = .weekday → op = .eq ∨ op = .ne) := by
  cases op <;> cases c <;> decide

theorem Comparison.checkFor_eq_ok_iff {op : Comparison} {c : Category} :
    op.checkFor c = .ok () ↔ (c = .weekday → op = .eq ∨ op = .ne) := by
  rw [← isDefinedFor_iff, checkFor]
  cases op.isDefinedFor c <;> simp

theorem Value.exists_order {v w : Value} (h : v.category = w.category) :
    ∃ o, v.order w = .ok o := by
  cases v <;> cases w <;> first | exact ⟨_, rfl⟩ | cases h

theorem Date.compare_spec (d e : Date) : (compare d e = .eq ↔ d = e) ∧
    (compare d e = .lt ↔ (Value.date d).IsBefore (.date e)) ∧
    (compare d e = .gt ↔ (Value.date e).IsBefore (.date d)) := by
  have hcompare : compare d e = (compare d.year e.year).then
      ((compare d.month e.month).then (compare d.day e.day)) := rfl
  refine ⟨?_, lt_iff, ?_⟩
  · rw [hcompare, Ordering.then_eq_eq, Ordering.then_eq_eq, Nat.compare_eq_eq, Nat.compare_eq_eq,
      Nat.compare_eq_eq]
    exact ⟨fun h => eq_of_parts h.1 h.2.1 h.2.2, fun h => h ▸ ⟨rfl, rfl, rfl⟩⟩
  · rw [hcompare, Ordering.then_eq_gt, Ordering.then_eq_gt, Nat.compare_eq_gt, Nat.compare_eq_gt,
      Nat.compare_eq_gt, Nat.compare_eq_eq, Nat.compare_eq_eq, eq_comm (a := d.year),
      eq_comm (a := d.month)]
    exact Iff.rfl

theorem Weekday.index_inj {w x : Weekday} : w.index = x.index ↔ w = x :=
  ⟨fun h => by rw [← w.ofIndex_index, h, x.ofIndex_index], congrArg index⟩

/-- The order of two values says which one is before the other, if their category has an order. -/
theorem Value.order_spec {v w : Value} {o : Ordering} (h : v.order w = .ok o) :
    (o = .eq ↔ v = w) ∧
      (v.category ≠ .weekday → (o = .lt ↔ v.IsBefore w) ∧ (o = .gt ↔ w.IsBefore v)) := by
  cases v with
  | date d =>
    cases w <;> cases h
    rename_i e
    obtain ⟨heq, hlt, hgt⟩ := d.compare_spec e
    exact ⟨heq.trans (by rw [Value.date.injEq]), fun _ => ⟨hlt, hgt⟩⟩
  | integer a =>
    cases w <;> cases h
    exact ⟨Int.compare_eq_eq.trans (by rw [Value.integer.injEq]),
      fun _ => ⟨Int.compare_eq_lt, Int.compare_eq_gt⟩⟩
  | weekday x =>
    cases w <;> cases h
    refine ⟨?_, fun hcategory => absurd rfl hcategory⟩
    rw [Nat.compare_eq_eq, Weekday.index_inj, Value.weekday.injEq]

theorem Comparison.holds_iff {op : Comparison} {v w : Value} {o : Ordering} (h : v.order w = .ok o)
    (hdefined : v.category = .weekday → op = .eq ∨ op = .ne) :
    op.holds o = true ↔ op.Relates v w := by
  obtain ⟨heq, horder⟩ := Value.order_spec h
  cases op with
  | eq => simp only [holds, Relates, beq_iff_eq, heq]
  | ne => simp only [holds, Relates, bne_iff_ne, ne_eq, heq]
  | _ =>
    have hcategory : v.category ≠ .weekday := fun hw => by
      rcases hdefined hw with hop | hop <;> cases hop
    obtain ⟨hlt, hgt⟩ := horder hcategory
    simp only [holds, Relates, ← heq, ← hlt, ← hgt]
    cases o <;> decide

end DateRules
