import DateRules.Proofs.Criteria.History
import DateRules.Proofs.Criteria.Refresh
import Mathlib.Data.List.Nodup

/-!
What is decided stays decided. Rules come in behind those that are there, so a date that one of them
matches, or that makes one fail, has the same outcome for the rest of a run. Dates come in only when
they are looked up and have an answer, so what a refresh drops is never kept again.
-/
namespace DateRules.Criteria

def keptDates (c : Criteria) : List Date := c.cache.map Prod.fst

/-- No rule is stored twice, and no date has two answers. -/
structure Unrepeated (c : Criteria) : Prop where
  rules : Distinct c.rules
  dates : c.keptDates.Nodup

/-- The rules have no answer for the date, and none is kept. -/
structure Lost (c : Criteria) (d : Date) (e : EvalError) : Prop where
  distinct : Distinct c.rules
  fails : anyMatches d c.rules = .error e
  unkept : d ∉ c.keptDates

variable {c : Criteria} {d : Date} {s : Step} {rules : List Rule} {negate : Bool}
  {cache : List (Date × Bool)}

theorem rules_isPrefix_after (h : Distinct c.rules) (steps : List Step) :
    c.rules <+: (c.after steps).rules := by
  rw [rules_after_eq_eraseDups h]
  exact prefix_eraseDups_append h _

theorem anyMatches_after (h : Distinct c.rules) (steps : List Step)
    (hdecided : anyMatches d c.rules ≠ .ok false) :
    anyMatches d (c.after steps).rules = anyMatches d c.rules :=
  anyMatches_eq_of_isPrefix (rules_isPrefix_after h steps) hdecided

theorem lookup_eq_none_iff : c.cache.lookup d = none ↔ d ∉ c.keptDates := by
  rw [List.lookup_eq_none_iff, keptDates, List.mem_map]
  constructor
  · rintro h ⟨entry, hentry, rfl⟩
    simpa using h entry hentry
  · intro h entry hentry
    exact bne_iff_ne.mpr fun heq => h ⟨entry, hentry, heq.symm⟩

theorem recompute_dates_sublist (rules : List Rule) (negate : Bool) (cache : List (Date × Bool)) :
    ((recompute rules negate cache).cache.map Prod.fst).Sublist (cache.map Prod.fst) := by
  fun_induction recompute rules negate cache with
  | case1 => exact .slnil
  | case2 d b rest v hv ih => exact ih.cons_cons d
  | case3 d b rest year hyear ih => exact ih.cons d
  | case4 d b rest e hne hfail => exact .refl _

theorem keptDates_refresh_sublist (c : Criteria) : c.refresh.1.keptDates.Sublist c.keptDates :=
  recompute_dates_sublist c.rules c.negate c.cache

theorem keptDates_insert_sublist (c : Criteria) (new : List Rule) :
    (c.insert new).1.keptDates.Sublist c.keptDates := by
  cases hauto : c.autoRefresh with
  | true =>
    rw [insert_of_autoRefresh hauto]
    exact keptDates_refresh_sublist { c with rules := c.store new }
  | false =>
    rw [insert_of_not_autoRefresh hauto]
    exact .refl _

@[simp] theorem keptDates_setNegate (c : Criteria) (negate : Bool) :
    (c.setNegate negate).keptDates = c.keptDates := by
  unfold setNegate
  split
  · rfl
  · simp [keptDates]

/-- Only a query brings in dates. -/
theorem keptDates_run_sublist (c : Criteria) (hs : ¬s.isQuery) :
    (c.run s).state.keptDates.Sublist c.keptDates := by
  have haddition : s.isAddition → (c.run s).state.keptDates.Sublist c.keptDates := by
    intro hadd
    rcases run_of_isAddition c hadd with ⟨-, fault, hrun⟩ | ⟨new, answer, -, hrun⟩
    · rw [hrun]
    · rw [hrun]
      exact keptDates_insert_sublist c new
  cases s with
  | addRule source negate name => exact haddition rfl
  | addRules batch => exact haddition rfl
  | setNegate negate =>
    change (c.setNegate negate).keptDates.Sublist _
    rw [keptDates_setNegate]
  | setAutoRefresh auto => exact .refl _
  | refreshCache => exact keptDates_refresh_sublist c
  | clearCache => exact List.nil_sublist _
  | summary => exact .refl _
  | _ => exact absurd rfl hs

theorem nodup_keptDates_containsDate (c : Criteria) (d : Date) (h : c.keptDates.Nodup) :
    (c.containsDate d).1.keptDates.Nodup := by
  cases hlookup : c.cache.lookup d with
  | some b =>
    rw [containsDate_of_kept hlookup]
    exact h
  | none =>
    cases heval : evaluate c.rules c.negate d with
    | error e =>
      rw [containsDate_of_error hlookup heval]
      exact h
    | ok b =>
      rw [containsDate_of_ok hlookup heval]
      have hnew : d ∉ c.keptDates := lookup_eq_none_iff.mp hlookup
      rw [keptDates, List.map_append]
      exact List.Nodup.append h (List.nodup_singleton d) (List.disjoint_singleton.mpr hnew)

namespace Unrepeated

theorem run (h : c.Unrepeated) (s : Step) : (c.run s).state.Unrepeated := by
  refine ⟨distinct_rules_run h.rules s, ?_⟩
  by_cases hs : s.isQuery
  · exact query_keeps (P := fun c => c.keptDates.Nodup) nodup_keptDates_containsDate h.dates hs
  · exact h.dates.sublist (keptDates_run_sublist c hs)

theorem after (h : c.Unrepeated) (steps : List Step) : (c.after steps).Unrepeated :=
  after_keeps (P := Unrepeated) (fun s _ _ hc => hc.run s) h

end Unrepeated

theorem unrepeated_create {auto : Bool} {batch : RuleBatch} (h : create negate auto batch = .ok c) :
    c.Unrepeated := by
  obtain ⟨rules, rfl, -⟩ := create_eq_ok h
  exact ⟨distinct_eraseDups _, List.nodup_nil⟩

/-- The rules fail for each date that a refresh drops, and that date is not kept further down. -/
theorem recompute_lost (hdates : (cache.map Prod.fst).Nodup) {e : Eviction}
    (h : e ∈ (recompute rules negate cache).evictions) :
    evaluate rules negate e.date = .error (.easterOutOfTable e.year) ∧
      e.date ∉ (recompute rules negate cache).cache.map Prod.fst := by
  fun_induction recompute rules negate cache with
  | case1 => cases h
  | case2 d b rest v hv ih =>
    obtain ⟨hfails, hunkept⟩ := ih (List.nodup_cons.mp hdates).2 h
    refine ⟨hfails, fun hmem => ?_⟩
    rcases List.mem_cons.mp hmem with heq | htail
    · rw [heq] at hfails
      cases hv.symm.trans hfails
    · exact hunkept htail
  | case3 d b rest year hyear ih =>
    obtain ⟨hd, hrest⟩ := List.nodup_cons.mp hdates
    rcases List.mem_cons.mp h with rfl | htail
    · exact ⟨hyear, fun hmem => hd ((recompute_dates_sublist rules negate rest).subset hmem)⟩
    · exact ih hrest htail
  | case4 d b rest e' hne hfail => cases h

/-- A step that drops answers is a refresh, perhaps with new rules. -/
theorem exists_refresh_of_mem_evictions {e : Eviction} (h : e ∈ (c.run s).evictions) :
    ∃ rules answer, c.run s = finish ({ c with rules := rules } : Criteria).refresh answer := by
  have haddition : s.isAddition →
      ∃ rules answer, c.run s = finish ({ c with rules := rules } : Criteria).refresh answer := by
    intro hadd
    rcases run_of_isAddition c hadd with ⟨-, fault, hrun⟩ | ⟨new, answer, -, hrun⟩
    · rw [hrun] at h
      cases h
    · rw [hrun] at h ⊢
      cases hauto : c.autoRefresh with
      | true => exact ⟨c.store new, answer, by rw [insert_of_autoRefresh hauto, hauto]⟩
      | false =>
        rw [insert_of_not_autoRefresh hauto] at h
        cases h
  cases s with
  | addRule source negate name => exact haddition rfl
  | addRules batch => exact haddition rfl
  | refreshCache => exact ⟨c.rules, .done, rfl⟩
  | _ => cases h

theorem Unrepeated.lost_of_mem_evictions (hc : c.Unrepeated) {e : Eviction}
    (h : e ∈ (c.run s).evictions) : (c.run s).state.Lost e.date (.easterOutOfTable e.year) := by
  have hdistinct := (hc.run s).rules
  obtain ⟨rules, answer, hrun⟩ := exists_refresh_of_mem_evictions h
  rw [hrun] at h hdistinct ⊢
  obtain ⟨hfails, hunkept⟩ := recompute_lost hc.dates h
  exact ⟨hdistinct, map_eq_error_iff.mp hfails, hunkept⟩

namespace Lost

variable {e : EvalError}

theorem not_allFresh_of_mem (h : c.Lost d e) {found : List (Date × Bool)}
    (hmem : d ∈ found.map Prod.fst) : ¬AllFresh c.rules c.negate found := by
  intro hfound
  obtain ⟨⟨d', b⟩, hentry, rfl⟩ := List.mem_map.mp hmem
  obtain ⟨m, hm, -⟩ := evaluate_eq_ok.mp (hfound d' b hentry)
  cases h.fails.symm.trans hm

theorem run (h : c.Lost d e) (s : Step) : (c.run s).state.Lost d e := by
  refine ⟨distinct_rules_run h.distinct s, ?_, fun hmem => ?_⟩
  · exact (anyMatches_after h.distinct [s] (by rw [h.fails]; exact nofun)).trans h.fails
  · by_cases hs : s.isQuery
    · obtain ⟨found, hfound, hstate⟩ := looked_query c hs
      rw [hstate, keptDates, List.map_append] at hmem
      rcases List.mem_append.mp hmem with hold | hnew
      · exact h.unkept hold
      · exact h.not_allFresh_of_mem hnew hfound
    · exact h.unkept ((keptDates_run_sublist c hs).subset hmem)

theorem after (h : c.Lost d e) (steps : List Step) : (c.after steps).Lost d e :=
  after_keeps (P := fun c => c.Lost d e) (fun s _ _ hlost => hlost.run s) h

theorem run_contains (h : c.Lost d e) {q : Query} (hq : q.toDate = .ok d) :
    c.run (.contains q) = ⟨c, [], .error (.eval e)⟩ := by
  have hlookup := lookup_eq_none_iff.mpr h.unkept
  have hfails : evaluate c.rules c.negate d = .error e := map_eq_error_iff.mpr h.fails
  simp only [Criteria.run, contains, hq, containsDate_of_error hlookup hfails]
  rfl

end Lost

/-- Once rules match a date they match it for the rest of the run, and once they fail for it they
fail in the same way. A date whose answer a step drops is never kept again, and whenever it is
looked up later it fails as it did when it was dropped. -/
theorem rules_take_back_no_answer {auto : Bool} {batch : RuleBatch}
    (hcreate : create negate auto batch = .ok c) (before later : List Step) :
    (∀ d, anyMatches d (c.after before).rules = .ok true →
      anyMatches d (c.after (before ++ later)).rules = .ok true) ∧
    (∀ d error, anyMatches d (c.after before).rules = .error error →
      anyMatches d (c.after (before ++ later)).rules = .error error) ∧
    ∀ s, ∀ e ∈ ((c.after before).run s).evictions,
      let now := c.after (before ++ s :: later)
      (∀ b, (e.date, b) ∉ now.cache) ∧
        ∀ q, q.toDate = .ok e.date →
          now.run (.contains q) = ⟨now, [], .error (.eval (.easterOutOfTable e.year))⟩ := by
  have hc := (unrepeated_create hcreate).after before
  refine ⟨fun d htrue => ?_, fun d error hfails => ?_, fun s e he => ?_⟩
  · rw [after_append, anyMatches_after hc.rules later (by rw [htrue]; exact nofun), htrue]
  · rw [after_append, anyMatches_after hc.rules later (by rw [hfails]; exact nofun), hfails]
  · have hlost := (hc.lost_of_mem_evictions he).after later
    rw [after_append]
    refine ⟨fun b hkept => ?_, fun q hq => hlost.run_contains hq⟩
    exact hlost.unkept (List.mem_map_of_mem hkept)

/-- The rule of Easter comes in behind one that 1 January matches, and before one that 2 January
would match. -/
theorem answers_in_January_2100 :
    let d : Date := ⟨2100, 1, 1, by decide⟩
    let d' : Date := ⟨2100, 1, 2, by decide⟩
    let before : List Step := [.contains (.date d), .contains (.date d')]
    let s : Step := .addRule (.text "Date == Easter") false ""
    let later : List Step := [.setNegate true, .addRule (.text "day == 2") false "",
      .contains (.date d'), .clearCache]
    ∃ c, create false true (.items [.text "day == 1"]) = .ok c ∧
      let now := c.after (before ++ s :: later)
      (anyMatches d (c.after before).rules = .ok true ∧
        anyMatches d (c.after (before ++ s :: later)).rules = .ok true) ∧
      (∃ error, anyMatches d' (c.after (before ++ [s])).rules = .error error ∧
        anyMatches d' (c.after ((before ++ [s]) ++ later)).rules = .error error) ∧
      ((c.after before).run s).evictions = [⟨d', 2100⟩] ∧ (∀ b, (d', b) ∉ now.cache) ∧
        now.run (.contains (.text "2100-01-02")) =
          ⟨now, [], .error (.eval (.easterOutOfTable 2100))⟩ := by
  intro d d' before s later
  obtain ⟨c, hcreate, htest⟩ :
      ∃ c, create false true (.items [.text "day == 1"]) = .ok c ∧
        ((anyMatches d (c.after before).rules).toOption.any id &&
          !(anyMatches d' (c.after (before ++ [s])).rules).isOk &&
          ((c.after before).run s).evictions == [⟨d', 2100⟩]) = true :=
    exists_ok_of_any (by decide +kernel)
  simp only [Bool.and_eq_true, Bool.not_eq_true', beq_iff_eq] at htest
  obtain ⟨⟨htrue, hfailed⟩, hevicted⟩ := htest
  obtain ⟨m, hmatch, rfl⟩ := exists_ok_of_any htrue
  obtain ⟨date, hdate, hsame⟩ : ∃ date, (Query.text "2100-01-02").toDate = .ok date ∧
      decide (date = d') = true := exists_ok_of_any (by decide +kernel)
  obtain rfl := of_decide_eq_true hsame
  obtain ⟨hunkept, hcontains⟩ := (rules_take_back_no_answer hcreate before later).2.2 s ⟨d', 2100⟩
    (by rw [hevicted]; exact List.mem_singleton_self _)
  refine ⟨c, hcreate, ⟨hmatch, (rules_take_back_no_answer hcreate before _).1 d hmatch⟩, ?_,
    hevicted, hunkept, hcontains _ hdate⟩
  generalize hanswer : anyMatches _ (c.after (before ++ [s])).rules = answer at hfailed
  cases answer with
  | ok m => cases hfailed
  | error error =>
    exact ⟨error, rfl, (rules_take_back_no_answer hcreate (before ++ [s]) later).2.1 _ _ hanswer⟩

end DateRules.Criteria
