import DateRules.Proofs.Calendar.Interval
import DateRules.Proofs.Criteria.Run

/-!
Dates looked up one after the other. An answer that is kept on the way is the one that the rules
give, so each look-up answers as it would have done at the start.
-/
namespace DateRules.Criteria

/-- Look `days` up in order: those of `visited` have an answer, and `stopped` is the failure of the
day behind them. -/
inductive LooksUp (c : Criteria) : (days visited : List Date) → (stopped : Option EvalError) → Prop
  | done : LooksUp c [] [] none
  | answered {day : Date} {days visited : List Date} {stopped : Option EvalError} {b : Bool}
      (answer : (c.containsDate day).2 = .ok b) (rest : LooksUp c days visited stopped) :
      LooksUp c (day :: days) (day :: visited) stopped
  | failed {day : Date} {e : EvalError} (days : List Date)
      (failure : (c.containsDate day).2 = .error e) : LooksUp c (day :: days) [] (some e)

/-- The date is looked up and found to be in the criteria. -/
def finds (c : Criteria) (d : Date) : Bool := (c.containsDate d).2.toOption == some true

variable {c c' : Criteria} {d : Date} {days visited : List Date} {stopped : Option EvalError}

theorem finds_of_ok {b : Bool} (h : (c.containsDate d).2 = .ok b) : c.finds d = b := by
  rw [finds, h]
  cases b <;> rfl

theorem exists_looksUp (c : Criteria) (days : List Date) :
    ∃ visited stopped, c.LooksUp days visited stopped := by
  induction days with
  | nil => exact ⟨[], none, .done⟩
  | cons day days ih =>
    obtain ⟨visited, stopped, hrest⟩ := ih
    cases hday : (c.containsDate day).2 with
    | ok b => exact ⟨day :: visited, stopped, .answered hday hrest⟩
    | error e => exact ⟨[], some e, .failed days hday⟩

theorem LooksUp.exists_answer (h : c.LooksUp days visited stopped) :
    ∀ day ∈ visited, ∃ b, (c.containsDate day).2 = .ok b := by
  induction h with
  | done => exact nofun
  | answered hday hrest ih => exact List.forall_mem_cons.mpr ⟨⟨_, hday⟩, ih⟩
  | failed days hday => exact nofun

theorem Looked.containsDate_eq (h : Looked c c') (d : Date) :
    (c'.containsDate d).2 = (c.containsDate d).2 := by
  obtain ⟨found, hfound, rfl⟩ := h
  cases hold : c.cache.lookup d with
  | some b =>
    have hboth : (c.cache ++ found).lookup d = some b := by
      rw [List.lookup_append, hold]
      rfl
    rw [containsDate_of_kept hold, containsDate_of_kept hboth]
  | none =>
    have hboth : (c.cache ++ found).lookup d = found.lookup d := by
      rw [List.lookup_append, hold]
      rfl
    cases hnew : found.lookup d with
    | some b =>
      -- What is kept now is what the rules say, and what `c` would have had to ask them for.
      rw [containsDate_of_ok hold (hfound d b (mem_of_lookup hnew)),
        containsDate_of_kept (hboth.trans hnew)]
    | none =>
      unfold containsDate
      simp only [hboth, hnew, hold]
      cases evaluate c.rules c.negate d <;> rfl

theorem Looked.finds_eq (h : Looked c c') : c'.finds = c.finds := by
  funext d
  rw [finds, finds, h.containsDate_eq]

theorem LooksUp.of_looked (h : c.LooksUp days visited stopped) (hlooked : Looked c c') :
    c'.LooksUp days visited stopped := by
  induction h with
  | done => exact .done
  | answered hday hrest ih => exact .answered (hlooked.containsDate_eq _ ▸ hday) ih
  | failed days hday => exact .failed days (hlooked.containsDate_eq _ ▸ hday)

theorem sweep_of_error {e : EvalError} (h : (c.containsDate d).2 = .error e) (count : Nat) :
    c.sweep (count + 1) d = ((c.containsDate d).1, [], some (.eval e)) := by
  rw [sweep]
  generalize c.containsDate d = looked at h ⊢
  obtain ⟨c', result⟩ := looked
  cases h
  rfl

theorem sweep_of_ok_of_next {b : Bool} (h : (c.containsDate d).2 = .ok b) {next : Date}
    (hnext : d.addDays? 1 = some next) (count : Nat) :
    c.sweep (count + 1) d =
      (((c.containsDate d).1.sweep count next).1,
        if b then d :: ((c.containsDate d).1.sweep count next).2.1
        else ((c.containsDate d).1.sweep count next).2.1,
        ((c.containsDate d).1.sweep count next).2.2) := by
  rw [sweep, hnext]
  generalize c.containsDate d = looked at h ⊢
  obtain ⟨c', result⟩ := looked
  cases h
  rfl

theorem sweep_of_ok_of_last {b : Bool} (h : (c.containsDate d).2 = .ok b)
    (hlast : d.addDays? 1 = none) (count : Nat) :
    c.sweep (count + 1) d = ((c.containsDate d).1, if b then [d] else [], none) := by
  rw [sweep, hlast]
  generalize c.containsDate d = looked at h ⊢
  obtain ⟨c', result⟩ := looked
  cases h
  rfl

/-- A sweep gives the days that are found among those that have an answer. -/
theorem LooksUp.sweep_eq {count : Nat} (h : c.LooksUp (d.following count) visited stopped) :
    (c.sweep count d).2 = (visited.filter c.finds, stopped.map .eval) := by
  induction count generalizing c d visited with
  | zero =>
    cases h
    rfl
  | succ count ih =>
    have hlooked := looked_containsDate c d
    rw [Date.following] at h
    cases h with
    | failed days hday => rw [sweep_of_error hday]; rfl
    | @answered _ _ visited _ b hday hrest =>
      rw [List.filter_cons, finds_of_ok hday]
      cases hnext : d.addDays? 1 with
      | none =>
        rw [hnext] at hrest
        cases hrest
        rw [sweep_of_ok_of_last hday hnext]
        rfl
      | some next =>
        rw [hnext] at hrest
        -- The days behind `d` are looked up in a state that keeps one answer more.
        have hsweep := ih (hrest.of_looked hlooked)
        rw [hlooked.finds_eq] at hsweep
        rw [sweep_of_ok_of_next hday hnext, hsweep]

end DateRules.Criteria
