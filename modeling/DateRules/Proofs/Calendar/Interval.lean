import DateRules.Proofs.Calendar.DayCount

/-! The days from one to another, as they are counted, are the dates of the interval in their
order. -/
namespace DateRules.Date

/-- `count` days from `d` on, or those that are left in the calendar. -/
def following : (count : Nat) → (d : Date) → List Date
  | 0, _ => []
  | count + 1, d =>
    d :: match d.addDays? 1 with
      | some next => following count next
      | none => []

/-- The days from `first` to `last`, both included. -/
def through (first last : Date) : List Date :=
  first.following (last.dayNumber + 1 - first.dayNumber)

variable {count : Nat} {d e first last : Date}

theorem mem_following :
    e ∈ d.following count ↔ d.dayNumber ≤ e.dayNumber ∧ e.dayNumber < d.dayNumber + count := by
  induction count generalizing d with
  | zero => simp [following]
  | succ count ih =>
    rw [following, List.mem_cons, ← dayNumber_eq_iff]
    cases hnext : d.addDays? 1 with
    | some next =>
      have hlater := addDays?_eq_some_iff.mp hnext
      simp only [ih]
      omega
    | none =>
      have hlast : ¬d.dayNumber + 1 < Date.count := fun hlt => by
        obtain ⟨next, hnumber⟩ := exists_dayNumber_eq hlt
        exact addDays?_eq_none_iff.mp hnext ⟨next, by omega⟩
      have hcount := e.dayNumber_lt_count
      simp only [List.not_mem_nil, or_false]
      omega

theorem pairwise_following (count : Nat) (d : Date) : (d.following count).Pairwise (· < ·) := by
  induction count generalizing d with
  | zero => exact List.Pairwise.nil
  | succ count ih =>
    rw [following]
    cases hnext : d.addDays? 1 with
    | none => exact List.pairwise_singleton _ d
    | some next =>
      refine List.Pairwise.cons (fun e he => ?_) (ih next)
      have hlater := addDays?_eq_some_iff.mp hnext
      have hfrom := (mem_following.mp he).1
      exact dayNumber_lt_iff.mp (by omega)

theorem through_eq_nil (h : last < first) : first.through last = [] := by
  have hlater := dayNumber_lt_iff.mpr h
  rw [through, show last.dayNumber + 1 - first.dayNumber = 0 by omega, following]

theorem exists_through_eq_cons (h : first ≤ last) : ∃ days, first.through last = first :: days := by
  have hfrom := dayNumber_le_iff.mpr h
  rw [through, show last.dayNumber + 1 - first.dayNumber = last.dayNumber - first.dayNumber + 1 by
    omega, following]
  exact ⟨_, rfl⟩

theorem through_self (d : Date) : d.through d = [d] := by
  rw [through, Nat.add_sub_cancel_left, following]
  cases d.addDays? 1 with
  | none => rfl
  | some next => rfl

theorem through_eq_cons {next : Date} (h : first < last) (hnext : first.addDays? 1 = some next) :
    first.through last = first :: next.through last := by
  have hto := dayNumber_lt_iff.mpr h
  have hnumber := addDays?_eq_some_iff.mp hnext
  rw [through, through, show last.dayNumber + 1 - first.dayNumber =
    last.dayNumber + 1 - next.dayNumber + 1 by omega, following, hnext]

theorem mem_through : e ∈ first.through last ↔ first ≤ e ∧ e ≤ last := by
  rw [through, mem_following, ← dayNumber_le_iff, ← dayNumber_le_iff]
  omega

theorem pairwise_through (first last : Date) : (first.through last).Pairwise (· < ·) :=
  pairwise_following _ first

/-- The days listed before one of the interval are those that come before it. -/
theorem mem_of_through_eq_append {before behind : List Date}
    (h : first.through last = before ++ d :: behind) : e ∈ before ↔ first ≤ e ∧ e < d := by
  have hsorted := h ▸ pairwise_through first last
  obtain ⟨-, hbehind, hbefore⟩ := List.pairwise_append.mp hsorted
  have hd : d ∈ first.through last := h ▸ List.mem_append_right _ List.mem_cons_self
  constructor
  · intro he
    have hmem : e ∈ first.through last := h ▸ List.mem_append_left _ he
    exact ⟨(mem_through.mp hmem).1, hbefore e he d List.mem_cons_self⟩
  · rintro ⟨hfrom, hlt⟩
    have hto : e ≤ last := by
      have hed := dayNumber_lt_iff.mpr hlt
      have hlast := dayNumber_le_iff.mpr (mem_through.mp hd).2
      exact dayNumber_le_iff.mp (by omega)
    have hmem : e ∈ before ++ d :: behind := h ▸ mem_through.mpr ⟨hfrom, hto⟩
    rcases List.mem_append.mp hmem with he | he
    · exact he
    · rcases List.mem_cons.mp he with rfl | he
      · exact absurd hlt (lt_irrefl e)
      · exact absurd (dayNumber_lt_iff.mpr hlt)
          (Nat.lt_asymm (dayNumber_lt_iff.mpr ((List.pairwise_cons.mp hbehind).1 e he)))

end DateRules.Date
