import DateRules.Proofs.Criteria.Refresh
import DateRules.Proofs.Criteria.WellFormed

/-!
Loading rules with the refresh put off to the end. Kept answers grow old on the way, and answers
stay that a refresh would have dropped. One refresh makes up for all that were left out: it ends in
the state that refreshing after every addition ends in.
-/
namespace DateRules

/-- The steps of a bulk load. -/
def Step.isLoading : Step → Bool
  | .addRule .. | .addRules _ | .contains _ | .setNegate _ | .refreshCache | .clearCache => true
  | _ => false

namespace Criteria

/-- `late` is `now` but for kept answers, of which a refresh makes those of `now`. -/
structure Deferred (now late : Criteria) : Prop where
  wellFormed : now.WellFormed
  prompt : now.autoRefresh = true
  behind : late = { now with autoRefresh := false, cache := late.cache }
  caughtUp : (recompute now.rules now.negate late.cache).cache = now.cache
  unfailing : (recompute now.rules now.negate late.cache).failure = none

variable {now late : Criteria}

namespace Deferred

theorem allFresh (h : Deferred now late) : AllFresh now.rules now.negate now.cache := by
  rw [← h.caughtUp]
  exact allFresh_recompute h.unfailing

theorem rules_eq (h : Deferred now late) : late.rules = now.rules := by rw [h.behind]

theorem negate_eq (h : Deferred now late) : late.negate = now.negate := by rw [h.behind]

theorem autoRefresh_eq (h : Deferred now late) : late.autoRefresh = false := by rw [h.behind]

/-- What `late` keeps and `now` does not has no answer any more. -/
theorem now_unchanged (h : Deferred now late) {d : Date} {b : Bool}
    (hkept : late.cache.lookup d = some b) : (now.containsDate d).1 = now := by
  cases hnow : now.cache.lookup d with
  | some kept => rw [containsDate_of_kept hnow]
  | none =>
    rcases recompute_date h.unfailing (mem_of_lookup hkept) with ⟨v, hmem, -⟩ | ⟨year, hmiss⟩
    · rw [h.caughtUp] at hmem
      obtain ⟨kept, hsome⟩ := exists_lookup_of_mem hmem
      rw [hnow] at hsome
      cases hsome
    · rw [containsDate_of_error hnow hmiss]

/-- What `late` does not keep, `now` does not either. -/
theorem now_lookup_eq_none (h : Deferred now late) {d : Date} (hnone : late.cache.lookup d = none) :
    now.cache.lookup d = none := by
  rw [Option.eq_none_iff_forall_ne_some]
  intro b hb
  have hmem := mem_of_lookup hb
  rw [← h.caughtUp] at hmem
  obtain ⟨old, hold⟩ := exists_mem_of_mem_recompute hmem
  obtain ⟨kept, hkept⟩ := exists_lookup_of_mem hold
  rw [hnone] at hkept
  cases hkept

theorem containsDate (h : Deferred now late) (d : Date) :
    Deferred (now.containsDate d).1 (late.containsDate d).1 := by
  cases hlate : late.cache.lookup d with
  | some b =>
    rw [h.now_unchanged hlate, containsDate_of_kept hlate]
    exact h
  | none =>
    have hnow := h.now_lookup_eq_none hlate
    cases heval : evaluate now.rules now.negate d with
    | error e =>
      have heval' : evaluate late.rules late.negate d = .error e := by
        rw [h.rules_eq, h.negate_eq, heval]
      rw [containsDate_of_error hnow heval, containsDate_of_error hlate heval']
      exact h
    | ok b =>
      have heval' : evaluate late.rules late.negate d = .ok b := by
        rw [h.rules_eq, h.negate_eq, heval]
      have hfresh : recompute now.rules now.negate [(d, b)] = ⟨[(d, b)], [], none⟩ := by
        apply recompute_of_allFresh
        intro d' b' hmem
        cases List.mem_singleton.mp hmem
        exact heval
      obtain ⟨hcache, hfailure⟩ := recompute_append h.unfailing [(d, b)]
      rw [containsDate_of_ok hnow heval, containsDate_of_ok hlate heval']
      refine ⟨⟨h.wellFormed.distinct, h.wellFormed.compiled⟩, h.prompt, ?_, ?_, ?_⟩
      · rw [h.behind]
      · rw [hcache, h.caughtUp, hfresh]
      · rw [hfailure, hfresh]

theorem contains (h : Deferred now late) (q : Query) :
    Deferred (now.contains q).1 (late.contains q).1 := by
  unfold Criteria.contains
  cases q.toDate with
  | error e => exact h
  | ok d => exact h.containsDate d

theorem setNegate (h : Deferred now late) (negate : Bool) :
    Deferred (now.setNegate negate) (late.setNegate negate) := by
  have hwellFormed : (now.setNegate negate).WellFormed :=
    ⟨by rw [setNegate_rules]; exact h.wellFormed.distinct,
      by rw [setNegate_rules]; exact h.wellFormed.compiled⟩
  unfold Criteria.setNegate at hwellFormed ⊢
  rw [h.negate_eq]
  by_cases hsame : negate = now.negate
  · rw [if_pos hsame, if_pos hsame]
    exact h
  · rw [if_neg hsame] at hwellFormed
    rw [if_neg hsame, if_neg hsame]
    obtain rfl : negate = !now.negate := by
      cases negate <;> cases hc : now.negate <;> simp_all
    have hturned := recompute_turned now.rules now.negate late.cache
    refine ⟨hwellFormed, h.prompt, ?_, ?_, ?_⟩
    · rw [h.behind]
    · exact (congrArg Refresh.cache hturned).trans (by rw [h.caughtUp])
    · exact (congrArg Refresh.failure hturned).trans h.unfailing

theorem clear (h : Deferred now late) : Deferred now.clear late.clear :=
  ⟨⟨h.wellFormed.distinct, h.wellFormed.compiled⟩, h.prompt, by rw [h.behind]; rfl, rfl, rfl⟩

theorem refresh_late (h : Deferred now late) :
    late.refresh.1 = { now with autoRefresh := false } ∧ late.refresh.2.2 = .ok () := by
  have hrecompute : recompute late.rules late.negate late.cache =
      recompute now.rules now.negate late.cache := by rw [h.rules_eq, h.negate_eq]
  have hunfailing : (recompute late.rules late.negate late.cache).failure = none := by
    rw [hrecompute, h.unfailing]
  rw [refresh_of_failure_eq_none hunfailing, hrecompute, h.caughtUp]
  exact ⟨by rw [h.behind], rfl⟩

theorem refresh_now (h : Deferred now late) : now.refresh.1 = now := by
  change { now with cache := (recompute now.rules now.negate now.cache).cache } = now
  rw [recompute_of_allFresh h.allFresh]

theorem refresh (h : Deferred now late) : Deferred now.refresh.1 late.refresh.1 := by
  rw [h.refresh_now, h.refresh_late.1]
  refine ⟨h.wellFormed, h.prompt, rfl, ?_, ?_⟩
  · rw [recompute_of_allFresh h.allFresh]
  · rw [recompute_of_allFresh h.allFresh]

/-- Rules that come in make the one refresh and put the other off. -/
theorem insert (h : Deferred now late) {new : List Rule}
    (hwellFormed : (now.insert new).1.WellFormed)
    (hended : (now.insert new).2.2 ≠ .error .outsideCalendar) :
    Deferred (now.insert new).1 (late.insert new).1 := by
  have hcompiled := hwellFormed.compiled
  rw [insert_rules] at hcompiled
  rw [insert_of_autoRefresh h.prompt] at hwellFormed hended ⊢
  rw [insert_of_not_autoRefresh h.autoRefresh_eq]
  have hsecond := recompute_failure_eq_none hcompiled hended
  have hskip := recompute_skip (rules_isPrefix_store h.wellFormed.distinct new) h.unfailing
  rw [h.caughtUp] at hskip
  obtain ⟨hcache, hfailure⟩ := hskip hsecond
  refine ⟨hwellFormed, h.prompt, ?_, hcache, hfailure⟩
  rw [h.behind]
  rfl

theorem run (h : Deferred now late) {s : Step} (hs : s.isLoading) (hcompiled : s.IsCompiled)
    (hended : (∀ q, s ≠ .contains q) → (now.run s).answer ≠ .error (.eval .outsideCalendar)) :
    Deferred (now.run s).state (late.run s).state := by
  have haddition : s.isAddition → Deferred (now.run s).state (late.run s).state := by
    intro hadd
    have hwellFormed := h.wellFormed.run hcompiled
    cases hnew : s.newRules? with
    | none =>
      obtain ⟨fault, hnow⟩ := run_of_newRules_eq_none now hadd hnew
      obtain ⟨fault', hlate⟩ := run_of_newRules_eq_none late hadd hnew
      rw [hnow, hlate]
      exact h
    | some new =>
      obtain ⟨answer, hnow⟩ := run_of_newRules now hnew
      obtain ⟨answer', hlate⟩ := run_of_newRules late hnew
      have hanswer : (now.run s).answer ≠ .error (.eval .outsideCalendar) := by
        apply hended
        rintro q rfl
        cases hadd
      rw [hnow] at hwellFormed hanswer ⊢
      rw [hlate]
      exact h.insert hwellFormed (answer_finish_ne hanswer)
  cases s with
  | addRule source negate name => exact haddition rfl
  | addRules batch => exact haddition rfl
  | contains q => exact h.contains q
  | setNegate negate => exact h.setNegate negate
  | refreshCache => exact h.refresh
  | clearCache => exact h.clear
  | _ => cases hs

theorem after (h : Deferred now late) {steps : List Step}
    (hsteps : ∀ s ∈ steps, s.isLoading ∧ s.IsCompiled)
    (hended : ∀ s r, (s, r) ∈ steps.zip (now.runAll steps) → (∀ q, s ≠ .contains q) →
      r.answer ≠ .error (.eval .outsideCalendar)) :
    Deferred (now.after steps) (late.after steps) := by
  induction steps generalizing now late with
  | nil => exact h
  | cons s ss ih =>
    obtain ⟨⟨hs, hcompiled⟩, hss⟩ := List.forall_mem_cons.mp hsteps
    exact ih (h.run hs hcompiled (hended s _ List.mem_cons_self)) hss
      fun s' r' hmem => hended s' r' (List.mem_cons_of_mem _ hmem)

end Deferred

theorem deferred_of_allFresh {c : Criteria} (hc : c.WellFormed)
    (hfresh : AllFresh c.rules c.negate c.cache) :
    Deferred { c with autoRefresh := true } { c with autoRefresh := false } where
  wellFormed := ⟨hc.distinct, hc.compiled⟩
  prompt := rfl
  behind := rfl
  caughtUp := by rw [recompute_of_allFresh hfresh]
  unfailing := by rw [recompute_of_allFresh hfresh]

/-- From a state in which every kept answer is fresh, load rules once with a refresh after each
addition, and once with a single refresh after all steps. Unless a refresh of the first run leaves
the calendar, the single one comes to its end, and the two runs end with the same rules, negation
and kept answers. -/
theorem single_refresh_makes_up_for_deferred_ones {c : Criteria} (hc : c.WellFormed)
    (hfresh : AllFresh c.rules c.negate c.cache) {steps : List Step}
    (hsteps : ∀ s ∈ steps, s.isLoading ∧ s.IsCompiled)
    (hended : ∀ s r, (s, r) ∈ steps.zip (({ c with autoRefresh := true } : Criteria).runAll steps) →
      (∀ q, s ≠ .contains q) → r.answer ≠ .error (.eval .outsideCalendar)) :
    let prompt := ({ c with autoRefresh := true } : Criteria).after steps
    let late := (({ c with autoRefresh := false } : Criteria).after steps).refresh
    late.2.2 = .ok () ∧ late.1.rules = prompt.rules ∧ late.1.negate = prompt.negate ∧
      late.1.cache = prompt.cache := by
  have hdeferred := (deferred_of_allFresh hc hfresh).after hsteps hended
  obtain ⟨hstate, hok⟩ := hdeferred.refresh_late
  refine ⟨hok, ?_, ?_, ?_⟩
  · rw [hstate]
  · rw [hstate]
  · rw [hstate]

/-- The table drops the answer of 2100 at once in the first run, and the second still gives it; the
last day of the calendar fails to be looked up in both. -/
theorem single_refresh_after_rules_of_Easter :
    let d : Date := ⟨2100, 1, 1, by decide⟩
    let steps : List Step := [.addRule (.text "Date + 1 == 2000-04-24") false "",
      .addRules (.items [.text "Date == Easter", .text "day == 3"]), .contains (.date d),
      .contains (.date ⟨9999, 12, 31, by decide⟩), .setNegate true,
      .addRule (.text "month = 12") false "", .refreshCache,
      .contains (.date ⟨2000, 4, 24, by decide⟩), .addRule (.text "Date == Easter + 1") false ""]
    ∃ c₀, create false true (.items [.text "day == 2"]) = .ok c₀ ∧
      let c := c₀.after [.contains (.date d), .contains (.date ⟨2000, 4, 23, by decide⟩)]
      let prompt := ({ c with autoRefresh := true } : Criteria).after steps
      let late := (({ c with autoRefresh := false } : Criteria).after steps).refresh
      c.WellFormed ∧ AllFresh c.rules c.negate c.cache ∧ late.2.2 = .ok () ∧
        late.1.rules = prompt.rules ∧ late.1.negate = prompt.negate ∧
        late.1.cache = prompt.cache := by
  intro d steps
  obtain ⟨c₀, hcreate, htest⟩ :
      ∃ c₀, create false true (.items [.text "day == 2"]) = .ok c₀ ∧
        (let c := c₀.after [.contains (.date d), .contains (.date ⟨2000, 4, 23, by decide⟩)]
        decide (AllFresh c.rules c.negate c.cache) &&
          (steps.zip (({ c with autoRefresh := true } : Criteria).runAll steps)).all
            fun (s, r) => match s, r.answer with
              | .contains _, _ => true
              | _, .error (.eval .outsideCalendar) => false
              | _, _ => true) = true :=
    exists_ok_of_any (by decide +kernel)
  obtain ⟨hfresh, hanswers⟩ := Bool.and_eq_true_iff.mp htest
  have hbatch : RuleBatch.IsCompiled (.items [.text "day == 2"]) := by
    simp [RuleBatch.IsCompiled, RuleSource.IsCompiled]
  have hc : (c₀.after
      [.contains (.date d), .contains (.date ⟨2000, 4, 23, by decide⟩)]).WellFormed :=
    (wellFormed_create hcreate hbatch).after (by simp [Step.IsCompiled])
  have hsteps : ∀ s ∈ steps, s.isLoading ∧ s.IsCompiled := by
    simp [steps, Step.isLoading, Step.IsCompiled, RuleBatch.IsCompiled, RuleSource.IsCompiled]
  have hfresh := of_decide_eq_true hfresh
  refine ⟨c₀, hcreate, hc, hfresh, single_refresh_makes_up_for_deferred_ones hc hfresh hsteps ?_⟩
  intro s r hmem hquery herror
  have htest := List.all_eq_true.mp hanswers (s, r) hmem
  cases s with
  | contains q => exact hquery q rfl
  | _ => simp [herror] at htest

end Criteria
end DateRules
