import DateRules.Proofs.Criteria.Run

/-!
How stale kept answers can be. Whatever was done to criteria, and whatever failed on the way, each
kept answer is that of some of the first rules under the present negation. These are at least the
rules that were there when the last refresh came to its end.
-/
namespace DateRules.Criteria

/-- Whether a step recomputes all kept answers, down to the last one. -/
def completesRefresh (c : Criteria) (s : Step) : Bool :=
  match s with
  | .refreshCache => (c.run s).answer.isOk
  | .addRule .. | .addRules .. => c.autoRefresh && (c.run s).answer.isOk
  | _ => false

/-- The rules that were there when the last refresh came to its end; `settled` if none did. -/
def settledAfter (settled : List Rule) (c : Criteria) : List Step → List Rule
  | [] => settled
  | s :: ss =>
    let c' := (c.run s).state
    c'.settledAfter (if c.completesRefresh s then c'.rules else settled) ss

/-- Each kept answer is that of some first rules, `settled` among them, under the present
negation. -/
structure Bounded (settled : List Rule) (c : Criteria) : Prop where
  distinct : Distinct c.rules
  settled_prefix : settled <+: c.rules
  known : ∀ d b, (d, b) ∈ c.cache →
    ∃ known, known <+: c.rules ∧ settled <+: known ∧ evaluate known c.negate d = .ok b

variable {settled : List Rule} {c : Criteria}

theorem Bounded.fresh_entry (h : Bounded settled c) {d : Date} {b : Bool}
    (hfresh : evaluate c.rules c.negate d = .ok b) :
    ∃ known, known <+: c.rules ∧ settled <+: known ∧ evaluate known c.negate d = .ok b :=
  ⟨c.rules, List.prefix_refl _, h.settled_prefix, hfresh⟩

theorem Bounded.looked (h : Bounded settled c) {c' : Criteria} (hlooked : Looked c c') :
    Bounded settled c' := by
  obtain ⟨found, hfound, rfl⟩ := hlooked
  refine ⟨h.distinct, h.settled_prefix, fun d b hmem => ?_⟩
  rcases List.mem_append.mp hmem with hold | hnew
  · exact h.known d b hold
  · exact h.fresh_entry (hfound d b hnew)

theorem Bounded.store (h : Bounded settled c) (new : List Rule) :
    Bounded settled { c with rules := c.store new } := by
  have hgrown := rules_isPrefix_store h.distinct new
  refine ⟨distinct_eraseDups _, h.settled_prefix.trans hgrown, fun d b hmem => ?_⟩
  obtain ⟨known, hknown, hsettled, heval⟩ := h.known d b hmem
  exact ⟨known, hknown.trans hgrown, hsettled, heval⟩

/-- A refresh that fails on its way leaves recomputed answers before old ones, and both will do. -/
theorem Bounded.refresh (h : Bounded settled c) : Bounded settled c.refresh.1 := by
  refine ⟨h.distinct, h.settled_prefix, fun d b hmem => ?_⟩
  rcases recompute_entry hmem with hfresh | ⟨hold, -⟩
  · exact h.fresh_entry hfresh
  · exact h.known d b hold

theorem bounded_completed_refresh (hdistinct : Distinct c.rules) (hok : c.refresh.2.2 = .ok ()) :
    Bounded c.refresh.1.rules c.refresh.1 := by
  have hfinished : (recompute c.rules c.negate c.cache).failure = none := by
    unfold Criteria.refresh at hok
    cases hfailure : (recompute c.rules c.negate c.cache).failure with
    | none => rfl
    | some e => simp [hfailure] at hok
  refine ⟨hdistinct, List.prefix_refl _, fun d b hmem => ?_⟩
  exact ⟨c.rules, List.prefix_refl _, List.prefix_refl _, allFresh_recompute hfinished d b hmem⟩

/-- Old and new answers are turned around alike, so it does not matter how old they are. -/
theorem Bounded.setNegate (h : Bounded settled c) (negate : Bool) :
    Bounded settled (c.setNegate negate) := by
  refine ⟨by rw [setNegate_rules]; exact h.distinct,
    by rw [setNegate_rules]; exact h.settled_prefix, fun d b hmem => ?_⟩
  obtain ⟨old, hold, hturned⟩ := mem_setNegate hmem
  obtain ⟨known, hknown, hsettled, heval⟩ := h.known d old hold
  rw [setNegate_rules, setNegate_negate]
  exact ⟨known, hknown, hsettled, hturned known heval⟩

theorem isOk_finish (r : Criteria × List Eviction × Except EvalError Unit) (answer : Answer) :
    (finish r answer).answer.isOk = r.2.2.isOk := by
  unfold finish
  cases r.2.2 <;> rfl

theorem refresh_eq_ok_of_isOk (h : c.refresh.2.2.isOk) : c.refresh.2.2 = .ok () := by
  cases hr : c.refresh.2.2 with
  | ok u => rfl
  | error e => simp [hr, Except.isOk, Except.toBool] at h

/-- A refresh, whether it came to its end or not, and what is settled after it. -/
theorem Bounded.finish_refresh (h : Bounded settled c) (answer : Answer) :
    Bounded
      (if (finish c.refresh answer).answer.isOk then (finish c.refresh answer).state.rules
        else settled)
      (finish c.refresh answer).state := by
  rw [isOk_finish]
  split
  · rename_i hok
    exact bounded_completed_refresh h.distinct (refresh_eq_ok_of_isOk hok)
  · exact h.refresh

theorem Bounded.finish_insert (h : Bounded settled c) (new : List Rule) (answer : Answer) :
    Bounded
      (if c.autoRefresh && (finish (c.insert new) answer).answer.isOk
        then (finish (c.insert new) answer).state.rules else settled)
      (finish (c.insert new) answer).state := by
  cases hauto : c.autoRefresh with
  | true =>
    rw [insert_of_autoRefresh hauto, Bool.true_and]
    exact (h.store new).finish_refresh answer
  | false =>
    rw [insert_of_not_autoRefresh hauto]
    exact h.store new

theorem completesRefresh_of_newRules {s : Step} {new : List Rule} (h : s.newRules? = some new) :
    c.completesRefresh s = (c.autoRefresh && (c.run s).answer.isOk) := by
  cases s <;> first | rfl | simp [Step.newRules?] at h

theorem completesRefresh_eq_false {s : Step} (hnew : s.newRules? = none)
    (hrefresh : s ≠ .refreshCache) : c.completesRefresh s = false := by
  cases s with
  | addRule source negate name =>
    cases hcompile : source.compile negate name with
    | error e => simp [completesRefresh, Criteria.run, hcompile, Except.isOk, Except.toBool]
    | ok r => simp [Step.newRules?, hcompile, Except.toOption] at hnew
  | addRules batch =>
    cases hcompile : batch.compile with
    | error e => simp [completesRefresh, Criteria.run, hcompile, Except.isOk, Except.toBool]
    | ok rs => simp [Step.newRules?, hcompile, Except.toOption] at hnew
  | refreshCache => exact absurd rfl hrefresh
  | _ => rfl

theorem Bounded.run (h : Bounded settled c) (s : Step) :
    Bounded (if c.completesRefresh s then (c.run s).state.rules else settled) (c.run s).state := by
  rcases run_cases c s with ⟨hlooked, hnew, hrefresh, -⟩ | ⟨new, answer, hnew, hrun⟩ | ⟨rfl, hrun⟩ |
    ⟨negate, rfl, hstate⟩ | ⟨auto, rfl, hstate⟩ | ⟨rfl, hstate⟩
  · rw [completesRefresh_eq_false hnew hrefresh]
    exact h.looked hlooked
  · rw [completesRefresh_of_newRules hnew, hrun]
    exact h.finish_insert new answer
  · exact h.finish_refresh .done
  · rw [hstate]
    exact h.setNegate negate
  · exact ⟨h.distinct, h.settled_prefix, h.known⟩
  · exact ⟨h.distinct, h.settled_prefix, fun d b hmem => by simp [hstate, clear] at hmem⟩

theorem Bounded.after (h : Bounded settled c) (steps : List Step) :
    Bounded (c.settledAfter settled steps) (c.after steps) := by
  induction steps generalizing settled c with
  | nil => exact h
  | cons s ss ih => exact ih (h.run s)

theorem bounded_create {negate auto : Bool} {batch : RuleBatch}
    (h : create negate auto batch = .ok c) : Bounded (if auto then c.rules else []) c := by
  obtain ⟨rules, rfl, -⟩ := create_eq_ok h
  refine ⟨distinct_eraseDups _, ?_, by simp⟩
  split
  · exact List.prefix_refl _
  · exact List.nil_prefix

/-- In every state that is ever reached, a kept answer is that of some first rules under the present
negation. Rules that came after the last refresh that was not cut short are all it can lack. -/
theorem kept_answer_lacks_only_unsettled_rules {negate auto : Bool} {batch : RuleBatch}
    (hcreate : create negate auto batch = .ok c) (steps : List Step) {d : Date} {b : Bool}
    (hkept : (d, b) ∈ (c.after steps).cache) :
    ∃ known, known <+: (c.after steps).rules ∧
      c.settledAfter (if auto then c.rules else []) steps <+: known ∧
      ∃ m, anyMatches d known = .ok m ∧ (m = true ↔ ∃ r ∈ known, r.matches? d = .ok true) ∧
        b = (m ^^ (c.after steps).negate) := by
  have hbounded := (bounded_create hcreate).after steps
  obtain ⟨known, hknown, hsettled, heval⟩ := hbounded.known d b hkept
  obtain ⟨m, hm, hb⟩ := evaluate_eq_ok.mp heval
  exact ⟨known, hknown, hsettled, m, hm, anyMatches_true_iff hm, hb⟩

/-- The answer for 19 December was found before `month == 12` came in, and then turned around. -/
theorem kept_answer_of_19_December_2022 :
    let d : Date := ⟨2022, 12, 19, by decide⟩
    let steps : List Step := [.contains (.date d), .setAutoRefresh false,
      .addRule (.text "month == 12") false "", .setNegate true]
    ∃ c, create false true (.items [.text "day == 1"]) = .ok c ∧
      (d, true) ∈ (c.after steps).cache ∧
      ∃ known, known <+: (c.after steps).rules ∧ c.settledAfter c.rules steps <+: known ∧
        ∃ m, anyMatches d known = .ok m ∧ (m = true ↔ ∃ r ∈ known, r.matches? d = .ok true) ∧
          true = (m ^^ (c.after steps).negate) := by
  intro d steps
  obtain ⟨c, hcreate, hkept⟩ :
      ∃ c, create false true (.items [.text "day == 1"]) = .ok c ∧
        decide ((d, true) ∈ (c.after steps).cache) = true :=
    exists_ok_of_any (by decide +kernel)
  have hmem := of_decide_eq_true hkept
  exact ⟨c, hcreate, hmem, kept_answer_lacks_only_unsettled_rules hcreate steps hmem⟩

end DateRules.Criteria
