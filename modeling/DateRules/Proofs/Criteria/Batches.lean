import DateRules.Proofs.Criteria.Refresh
import DateRules.Proofs.Criteria.WellFormed
import DateRules.Proofs.Rule.Identity

/-!
Rules that come in one batch or in two. A refresh between the two halves drops answers that the
refresh after them would have dropped as well, because rules that have no answer get none from the
rules behind them. It drops them earlier, so the records of them stand in another order.
-/
namespace DateRules.Criteria

variable {c : Criteria} {rules more rs ts : List Rule} {negate : Bool} {d : Date}
  {cache : List (Date × Bool)} {xs ys : List RuleSource}

/-- The refresh under `more` is made in two, the first of them under `rules`. -/
structure MadeInTwo (rules more : List Rule) (negate : Bool) (cache : List (Date × Bool)) :
    Prop where
  first : (recompute rules negate cache).failure = none
  second : (recompute more negate (recompute rules negate cache).cache).failure = none
  kept : (recompute more negate (recompute rules negate cache).cache).cache =
    (recompute more negate cache).cache
  evictions : (recompute more negate cache).evictions.Perm
    ((recompute rules negate cache).evictions ++
      (recompute more negate (recompute rules negate cache).cache).evictions)

namespace MadeInTwo

theorem answered (h : MadeInTwo rules more negate cache) {v v' : Bool}
    (hold : evaluate rules negate d = .ok v) (hnow : evaluate more negate d = .ok v') (b : Bool) :
    MadeInTwo rules more negate ((d, b) :: cache) := by
  have hfirst := recompute_cons_of_ok hold b cache
  have hall := recompute_cons_of_ok hnow b cache
  have hsecond := recompute_cons_of_ok hnow v (recompute rules negate cache).cache
  refine ⟨?_, ?_, ?_, ?_⟩ <;>
    simp only [hfirst, hall, hsecond, Refresh.keep_cache, Refresh.keep_evictions,
      Refresh.keep_failure]
  · exact h.first
  · exact h.second
  · rw [h.kept]
  · exact h.evictions

/-- What is lost under the rules behind is dropped by the second refresh. -/
theorem missed_later (h : MadeInTwo rules more negate cache) {v : Bool} {year : Int}
    (hold : evaluate rules negate d = .ok v)
    (hnow : evaluate more negate d = .error (.easterOutOfTable year)) (b : Bool) :
    MadeInTwo rules more negate ((d, b) :: cache) := by
  have hfirst := recompute_cons_of_ok hold b cache
  have hall := recompute_cons_of_miss hnow b cache
  have hsecond := recompute_cons_of_miss hnow v (recompute rules negate cache).cache
  refine ⟨?_, ?_, ?_, ?_⟩ <;>
    simp only [hfirst, hall, hsecond, Refresh.keep_cache, Refresh.keep_evictions,
      Refresh.keep_failure, Refresh.evict_cache, Refresh.evict_evictions, Refresh.evict_failure]
  · exact h.first
  · exact h.second
  · exact h.kept
  · exact (h.evictions.cons _).trans List.perm_middle.symm

/-- What is lost under the first rules is dropped by the first refresh. -/
theorem missed_at_once (h : MadeInTwo rules more negate cache) {year : Int}
    (hold : evaluate rules negate d = .error (.easterOutOfTable year))
    (hnow : evaluate more negate d = .error (.easterOutOfTable year)) (b : Bool) :
    MadeInTwo rules more negate ((d, b) :: cache) := by
  have hfirst := recompute_cons_of_miss hold b cache
  have hall := recompute_cons_of_miss hnow b cache
  refine ⟨?_, ?_, ?_, ?_⟩ <;>
    simp only [hfirst, hall, Refresh.evict_cache, Refresh.evict_evictions, Refresh.evict_failure]
  · exact h.first
  · exact h.second
  · exact h.kept
  · exact h.evictions.cons _

end MadeInTwo

theorem madeInTwo (hmore : rules <+: more) (h : (recompute more negate cache).failure = none) :
    MadeInTwo rules more negate cache := by
  fun_induction recompute more negate cache with
  | case1 => exact ⟨rfl, rfl, rfl, .refl _⟩
  | case2 d b rest v hnow ih =>
    cases hold : evaluate rules negate d with
    | ok old => exact (ih h).answered hold hnow b
    | error e => cases (evaluate_eq_error_mono hmore hold).symm.trans hnow
  | case3 d b rest year hnow ih =>
    cases hold : evaluate rules negate d with
    | ok old => exact (ih h).missed_later hold hnow b
    | error e =>
      cases (evaluate_eq_error_mono hmore hold).symm.trans hnow
      exact (ih h).missed_at_once hold hnow b
  | case4 d b rest e hne hfail => simp at h

theorem store_append (c : Criteria) (rs ts : List Rule) :
    (c.store rs ++ ts).eraseDups = c.store (rs ++ ts) := by
  rw [store, store, eraseDups_eraseDups_append, List.append_assoc]

theorem store_isPrefix_store_append (c : Criteria) (rs ts : List Rule) :
    c.store rs <+: c.store (rs ++ ts) := by
  rw [← store_append]
  exact prefix_eraseDups_append (distinct_eraseDups _) ts

/-- Adding all rules at once comes to adding the one half and then the other. -/
structure AddedInTwo (c : Criteria) (rs ts : List Rule) : Prop where
  both : (c.insert (rs ++ ts)).2.2 = .ok ()
  first : (c.insert rs).2.2 = .ok ()
  second : ((c.insert rs).1.insert ts).2.2 = .ok ()
  state : ((c.insert rs).1.insert ts).1 = (c.insert (rs ++ ts)).1
  evictions : (c.insert (rs ++ ts)).2.1.Perm
    ((c.insert rs).2.1 ++ ((c.insert rs).1.insert ts).2.1)

theorem addedInTwo_of_not_autoRefresh (hauto : c.autoRefresh = false) (rs ts : List Rule) :
    AddedInTwo c rs ts := by
  have hfirst := insert_of_not_autoRefresh hauto rs
  have hboth := insert_of_not_autoRefresh hauto (rs ++ ts)
  have hsecond : (c.insert rs).1.insert ts =
      ({ c with rules := c.store (rs ++ ts) }, [], .ok ()) := by
    rw [hfirst, ← store_append]
    exact insert_of_not_autoRefresh (c := { c with rules := c.store rs }) hauto ts
  refine ⟨?_, ?_, ?_, ?_, ?_⟩
  · rw [hboth]
  · rw [hfirst]
  · rw [hsecond]
  · rw [hsecond, hboth]
  · rw [hsecond, hfirst, hboth]
    exact .refl _

theorem addedInTwo_of_autoRefresh (hauto : c.autoRefresh = true)
    (h : (recompute (c.store (rs ++ ts)) c.negate c.cache).failure = none) :
    AddedInTwo c rs ts := by
  have htwo := madeInTwo (c.store_isPrefix_store_append rs ts) h
  have hboth := insert_of_autoRefresh hauto (rs ++ ts)
  rw [refresh_of_failure_eq_none h] at hboth
  have hfirst := insert_of_autoRefresh hauto rs
  rw [refresh_of_failure_eq_none htwo.first] at hfirst
  have hsecond := insert_of_autoRefresh
    (c := { c with rules := c.store rs, cache := (recompute (c.store rs) c.negate c.cache).cache })
    hauto ts
  rw [show Criteria.store _ ts = c.store (rs ++ ts) from c.store_append rs ts,
    refresh_of_failure_eq_none htwo.second] at hsecond
  refine ⟨?_, ?_, ?_, ?_, ?_⟩
  · rw [hboth]
  · rw [hfirst]
  · rw [hfirst, hsecond]
  · rw [hfirst, hsecond, hboth]
    exact congrArg (Criteria.mk c.negate c.autoRefresh (c.store (rs ++ ts))) htwo.kept
  · rw [hfirst, hsecond, hboth]
    exact htwo.evictions

/-- With compiled rules nothing but the end of the calendar is in the way. -/
theorem addedInTwo (hcompiled : ∀ r ∈ c.store (rs ++ ts), r.IsCompiled)
    (hended : (c.insert (rs ++ ts)).2.2 ≠ .error .outsideCalendar) : AddedInTwo c rs ts := by
  cases hauto : c.autoRefresh with
  | false => exact addedInTwo_of_not_autoRefresh hauto rs ts
  | true =>
    rw [insert_of_autoRefresh hauto] at hended
    exact addedInTwo_of_autoRefresh hauto (recompute_failure_eq_none hcompiled hended)

theorem compile_append (hxs : (RuleBatch.items xs).compile = .ok rs)
    (hys : (RuleBatch.items ys).compile = .ok ts) :
    (RuleBatch.items (xs ++ ys)).compile = .ok (rs ++ ts) := by
  have hxs : xs.mapM (fun source => source.compile false "") = .ok rs := hxs
  have hys : ys.mapM (fun source => source.compile false "") = .ok ts := hys
  change (xs ++ ys).mapM (fun source => source.compile false "") = _
  rw [List.mapM_append, hxs, hys]
  rfl

theorem run_addRules {batch : RuleBatch} (h : batch.compile = .ok rs) :
    c.run (.addRules batch) = finish (c.insert rs) (.rules rs) := by
  simp only [run, h]

theorem answer_finish_of_ok {r : Criteria × List Eviction × Except EvalError Unit}
    (h : r.2.2 = .ok ()) (answer : Answer) : (finish r answer).answer = .ok answer := by
  simp only [finish, h]
  rfl

/-- Rules that all compile may come in one batch or in two, the one half after the other. Unless the
one addition leaves the calendar, none of the three fails, and the two ways end in the same state.
They record the same answers as dropped, in some order. -/
theorem one_batch_comes_to_two (hc : ∀ r ∈ c.rules, r.IsCompiled)
    (hsources : ∀ source ∈ xs ++ ys, source.IsCompiled)
    (hxs : (RuleBatch.items xs).compile = .ok rs) (hys : (RuleBatch.items ys).compile = .ok ts)
    (hended : (c.run (.addRules (.items (xs ++ ys)))).answer ≠ .error (.eval .outsideCalendar)) :
    let both := c.run (.addRules (.items (xs ++ ys)))
    let first := c.run (.addRules (.items xs))
    let second := first.state.run (.addRules (.items ys))
    both.answer = .ok (.rules (rs ++ ts)) ∧ first.answer = .ok (.rules rs) ∧
      second.answer = .ok (.rules ts) ∧ second.state = both.state ∧
      both.evictions.Perm (first.evictions ++ second.evictions) := by
  intro both first second
  have hcompile := compile_append hxs hys
  have hbatch : RuleBatch.IsCompiled (.items (xs ++ ys)) := hsources
  have hcompiled : ∀ r ∈ c.store (rs ++ ts), r.IsCompiled :=
    isCompiled_store hc (hbatch.compile hcompile)
  have hboth : both = finish (c.insert (rs ++ ts)) (.rules (rs ++ ts)) := run_addRules hcompile
  have hfirst : first = finish (c.insert rs) (.rules rs) := run_addRules hxs
  have hsecond : second = finish ((c.insert rs).1.insert ts) (.rules ts) := by
    rw [← run_addRules hys]
    simp only [second, hfirst, finish]
  rw [run_addRules hcompile] at hended
  have htwo := addedInTwo hcompiled (answer_finish_ne hended)
  rw [hboth, hfirst, hsecond]
  exact ⟨answer_finish_of_ok htwo.both _, answer_finish_of_ok htwo.first _,
    answer_finish_of_ok htwo.second _, htwo.state, htwo.evictions⟩

/-- The kept answer for 5 March is old. Of the two years that are not in the table the first half
drops the later one, and all rules at once drop them in the order in which they were asked for. -/
theorem two_years_dropped_in_one_batch_or_two :
    let asked : List Step :=
      [.contains (.date ⟨2200, 5, 6, by decide⟩), .contains (.date ⟨2100, 1, 2, by decide⟩),
        .contains (.date ⟨2022, 3, 5, by decide⟩), .setAutoRefresh false,
        .addRule (.text "day == 5") false "", .setAutoRefresh true]
    let xs : List RuleSource := [.text "month == 1; Date == Easter"]
    let ys : List RuleSource := [.text "Date == Easter", .text "MONTH==1;date==easter"]
    ∃ c₀, create false true (.items [.text "day == 1"]) = .ok c₀ ∧
      let c := c₀.after asked
      let both := c.run (.addRules (.items (xs ++ ys)))
      let first := c.run (.addRules (.items xs))
      let second := first.state.run (.addRules (.items ys))
      ¬AllFresh c.rules c.negate c.cache ∧ both.evictions.length = 2 ∧
        both.evictions ≠ first.evictions ++ second.evictions ∧
        ∃ rs ts, both.answer = .ok (.rules (rs ++ ts)) ∧ first.answer = .ok (.rules rs) ∧
          second.answer = .ok (.rules ts) ∧ second.state = both.state ∧
          both.evictions.Perm (first.evictions ++ second.evictions) := by
  intro asked xs ys
  obtain ⟨c₀, hcreate, htest⟩ :
      ∃ c₀, create false true (.items [.text "day == 1"]) = .ok c₀ ∧
        (let c := c₀.after asked
        let both := c.run (.addRules (.items (xs ++ ys)))
        let first := c.run (.addRules (.items xs))
        let second := first.state.run (.addRules (.items ys))
        !decide (AllFresh c.rules c.negate c.cache) && both.evictions.length == 2 &&
          both.evictions != first.evictions ++ second.evictions && both.answer.isOk) = true :=
    exists_ok_of_any (by decide +kernel)
  simp only [Bool.and_eq_true, Bool.not_eq_true', decide_eq_false_iff_not, beq_iff_eq,
    bne_iff_ne] at htest
  obtain ⟨⟨⟨hstale, hlength⟩, hne⟩, hok⟩ := htest
  obtain ⟨rs, hrs, -⟩ : ∃ rs, (RuleBatch.items xs).compile = .ok rs ∧ (rs.length == 1) = true :=
    exists_ok_of_any (by decide +kernel)
  obtain ⟨ts, hts, -⟩ : ∃ ts, (RuleBatch.items ys).compile = .ok ts ∧ (ts.length == 2) = true :=
    exists_ok_of_any (by decide +kernel)
  have hbatch : RuleBatch.IsCompiled (.items [.text "day == 1"]) := by
    simp [RuleBatch.IsCompiled, RuleSource.IsCompiled]
  have hc : (c₀.after asked).WellFormed :=
    (wellFormed_create hcreate hbatch).after
      (by simp [asked, Step.IsCompiled, RuleSource.IsCompiled])
  refine ⟨c₀, hcreate, hstale, hlength, hne, rs, ts,
    one_batch_comes_to_two hc.compiled (by simp [xs, ys, RuleSource.IsCompiled]) hrs hts ?_⟩
  intro hended
  rw [hended] at hok
  cases hok

end DateRules.Criteria
