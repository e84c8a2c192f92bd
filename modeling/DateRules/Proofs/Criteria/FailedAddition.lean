import DateRules.Proofs.Criteria.Refresh
import DateRules.Proofs.Criteria.WellFormed

/-!
Additions that fail. All sources are compiled before a rule comes in, so one that does not compile
leaves everything as it was. The refresh that follows an addition comes too late for that: when it
leaves the calendar, the rules are in, and the answers before the date that failed are recomputed.
-/
namespace DateRules.Criteria

variable {c : Criteria}

theorem refresh_eq_error_iff {e : EvalError} : c.refresh.2.2 = .error e ↔
    (recompute c.rules c.negate c.cache).failure = some e := by
  unfold refresh
  cases hfailure : (recompute c.rules c.negate c.cache).failure <;> simp [hfailure]

/-- What the refresh after an addition leaves when it is cut short. -/
theorem insert_eq_error {new : List Rule} {e : EvalError} (h : (c.insert new).2.2 = .error e) :
    c.autoRefresh = true ∧ (∀ year, e ≠ .easterOutOfTable year) ∧
      ∃ done d b rest, c.cache = done ++ (d, b) :: rest ∧
        (recompute (c.store new) c.negate done).failure = none ∧
        evaluate (c.store new) c.negate d = .error e ∧
        (c.insert new).1 = { c with
          rules := c.store new
          cache := (recompute (c.store new) c.negate done).cache ++ (d, b) :: rest } := by
  have hauto : c.autoRefresh = true := by
    rw [← Bool.not_eq_false]
    intro hoff
    rw [insert_of_not_autoRefresh hoff] at h
    cases h
  rw [insert_of_autoRefresh hauto] at h ⊢
  have hfailure := refresh_eq_error_iff.mp h
  obtain ⟨done, d, b, rest, hsplit, hdone, hfatal, hcache⟩ := exists_fatal_of_failure hfailure
  refine ⟨hauto, (recompute_failure hfailure).2, done, d, b, rest, hsplit, hdone, hfatal, ?_⟩
  rw [← hcache]
  rfl

theorem answer_finish_eq_error {r : Criteria × List Eviction × Except EvalError Unit}
    {answer : Answer} {e : StepError} (h : (finish r answer).answer = .error e) :
    ∃ error, e = .eval error ∧ r.2.2 = .error error := by
  unfold finish at h
  cases hr : r.2.2 with
  | ok u =>
    rw [hr] at h
    cases h
  | error error =>
    rw [hr] at h
    cases h
    exact ⟨error, rfl, rfl⟩

/-- An addition with a source that does not compile changes nothing. All others fail only if a kept
date leaves the calendar under the rules with the new ones: the rules are in then, the answers
before that date are those of all rules, and it and the ones behind it are as they were. -/
theorem failed_addition_changes_nothing_before_its_refresh (hc : c.WellFormed) {s : Step}
    (hs : s.isAddition) (hcompiled : s.IsCompiled) {e : StepError}
    (h : (c.run s).answer = .error e) :
    (∃ fault, e = .source fault) ∧ (c.run s).state = c ∧ (c.run s).evictions = [] ∨
      e = .eval .outsideCalendar ∧ c.autoRefresh = true ∧
        ∃ new done d b rest, s.newRules? = some new ∧ c.cache = done ++ (d, b) :: rest ∧
          evaluate (c.store new) c.negate d = .error .outsideCalendar ∧
          AllFresh (c.store new) c.negate (recompute (c.store new) c.negate done).cache ∧
          (c.run s).state = { c with
            rules := c.store new
            cache := (recompute (c.store new) c.negate done).cache ++ (d, b) :: rest } := by
  cases hnew : s.newRules? with
  | none =>
    obtain ⟨fault, hrun⟩ := run_of_newRules_eq_none c hs hnew
    rw [hrun] at h ⊢
    cases h
    exact .inl ⟨⟨fault, rfl⟩, rfl, rfl⟩
  | some new =>
    have hrules : ∀ r ∈ c.store new, r.IsCompiled :=
      isCompiled_store hc.compiled (hcompiled.newRules hnew)
    obtain ⟨answer, hrun⟩ := run_of_newRules c hnew
    rw [hrun] at h ⊢
    obtain ⟨error, rfl, herror⟩ := answer_finish_eq_error h
    obtain ⟨hauto, hmiss, done, d, b, rest, hsplit, hdone, hfatal, hstate⟩ := insert_eq_error herror
    obtain rfl : error = .outsideCalendar :=
      (evaluate_isLookupFailure hrules hfatal).resolve_left (hmiss _)
    exact .inr ⟨rfl, hauto, new, done, d, b, rest, rfl, hsplit, hfatal, allFresh_recompute hdone,
      hstate⟩

/-- The second source has no operator, so the first one does not come in either. -/
theorem failed_addition_with_two_kept_answers :
    let s : Step := .addRules (.items [.text "day == 1", .text "day = 2"])
    ∃ c₀, create true true (.items [.text "month == 2"]) = .ok c₀ ∧
      let c := c₀.after [.contains (.date ⟨2022, 1, 1, by decide⟩),
        .contains (.date ⟨1, 1, 1, by decide⟩)]
      c.cache.length = 2 ∧ c.WellFormed ∧ s.IsCompiled ∧
        ∃ e, (c.run s).answer = .error e ∧
          ((∃ fault, e = .source fault) ∧ (c.run s).state = c ∧ (c.run s).evictions = [] ∨
            e = .eval .outsideCalendar ∧ c.autoRefresh = true ∧
              ∃ new done d b rest, s.newRules? = some new ∧ c.cache = done ++ (d, b) :: rest ∧
                evaluate (c.store new) c.negate d = .error .outsideCalendar ∧
                AllFresh (c.store new) c.negate (recompute (c.store new) c.negate done).cache ∧
                (c.run s).state = { c with
                  rules := c.store new
                  cache := (recompute (c.store new) c.negate done).cache ++ (d, b) :: rest }) := by
  intro s
  obtain ⟨c₀, hcreate, htest⟩ :
      ∃ c₀, create true true (.items [.text "month == 2"]) = .ok c₀ ∧
        (let c := c₀.after [.contains (.date ⟨2022, 1, 1, by decide⟩),
          .contains (.date ⟨1, 1, 1, by decide⟩)]
        c.cache.length == 2 && !(c.run s).answer.isOk) = true :=
    exists_ok_of_any (by decide +kernel)
  simp only [Bool.and_eq_true, beq_iff_eq, Bool.not_eq_true'] at htest
  have hbatch : RuleBatch.IsCompiled (.items [.text "month == 2"]) := by
    simp [RuleBatch.IsCompiled, RuleSource.IsCompiled]
  have hcompiled : s.IsCompiled := by
    simp [s, Step.IsCompiled, RuleBatch.IsCompiled, RuleSource.IsCompiled]
  have hc : (c₀.after [.contains (.date ⟨2022, 1, 1, by decide⟩),
      .contains (.date ⟨1, 1, 1, by decide⟩)]).WellFormed :=
    (wellFormed_create hcreate hbatch).after (by simp [Step.IsCompiled])
  obtain ⟨hlength, hfailed⟩ := htest
  refine ⟨c₀, hcreate, hlength, hc, hcompiled, ?_⟩
  generalize hanswer : (Criteria.run _ s).answer = answer at hfailed
  cases answer with
  | ok a => cases hfailed
  | error e =>
    exact ⟨e, rfl, failed_addition_changes_nothing_before_its_refresh hc rfl hcompiled hanswer⟩

/-- An addition that fails is not undone. The day before 1 January 1 is asked for, and by then the
rule is in and the answer for 3 January 2022 has changed. -/
theorem failed_addition_can_leave_its_rules :
    ∃ c₀, create false true (.items [.text "month == 2"]) = .ok c₀ ∧
      let c := c₀.after [.contains (.date ⟨2022, 1, 3, by decide⟩),
        .contains (.date ⟨1, 1, 1, by decide⟩)]
      let r := c.run (.addRule (.text "Date - 1 == 2022-01-02") false "")
      r.answer.isOk = false ∧ r.state.rules ≠ c.rules ∧ r.state.cache ≠ c.cache := by
  obtain ⟨c₀, hcreate, htest⟩ :
      ∃ c₀, create false true (.items [.text "month == 2"]) = .ok c₀ ∧
        (let c := c₀.after [.contains (.date ⟨2022, 1, 3, by decide⟩),
          .contains (.date ⟨1, 1, 1, by decide⟩)]
        let r := c.run (.addRule (.text "Date - 1 == 2022-01-02") false "")
        !r.answer.isOk && r.state.rules.length != c.rules.length &&
          r.state.cache != c.cache) = true :=
    exists_ok_of_any (by decide +kernel)
  simp only [Bool.and_eq_true, Bool.not_eq_true', bne_iff_ne, ne_eq] at htest
  obtain ⟨⟨hanswer, hrules⟩, hcache⟩ := htest
  exact ⟨c₀, hcreate, hanswer, fun heq => hrules (congrArg List.length heq), hcache⟩

end DateRules.Criteria
