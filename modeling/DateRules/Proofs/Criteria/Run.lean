import DateRules.Proofs.Criteria.Evaluation
import DateRules.Proofs.Criteria.Store

/-!
What each step does to criteria, said once. Look-ups add answers of the rules as they stand; the
other steps add rules, recompute, turn the answers around, or forget them.
-/
namespace DateRules

def Step.isQuery : Step → Bool
  | .contains _ | .containsAny _ | .containsAll _ | .matchingDates .. => true
  | _ => false

/-- The rules that a step adds, if its sources compile. -/
def Step.newRules? : Step → Option (List Rule)
  | .addRule source negate name => (source.compile negate name).toOption.map ([·])
  | .addRules batch => batch.compile.toOption
  | _ => none

def Step.isAddition : Step → Bool
  | .addRule .. | .addRules _ => true
  | _ => false

theorem exists_ok_of_any {x : Except ε α} {test : α → Bool} (h : x.toOption.any test) :
    ∃ a, x = .ok a ∧ test a := by
  cases x with
  | error e => simp [Except.toOption] at h
  | ok a => exact ⟨a, rfl, h⟩

namespace Criteria

/-- `after` is `before` with more answers, each of them what the rules say. -/
def Looked (before after : Criteria) : Prop :=
  ∃ found, AllFresh before.rules before.negate found ∧
    after = { before with cache := before.cache ++ found }

theorem looked_refl (c : Criteria) : Looked c c :=
  ⟨[], by simp [AllFresh], by simp⟩

theorem Looked.trans {a b c : Criteria} (hab : Looked a b) (hbc : Looked b c) : Looked a c := by
  obtain ⟨first, hfirst, rfl⟩ := hab
  obtain ⟨second, hsecond, rfl⟩ := hbc
  refine ⟨first ++ second, fun d b hmem => ?_, by simp⟩
  exact (List.mem_append.mp hmem).elim (hfirst d b) (hsecond d b)

theorem looked_containsDate (c : Criteria) (d : Date) : Looked c (c.containsDate d).1 := by
  unfold containsDate
  split
  · exact looked_refl c
  · split
    · rename_i b hb
      refine ⟨[(d, b)], fun d' b' hmem => ?_, rfl⟩
      cases List.mem_singleton.mp hmem
      exact hb
    · exact looked_refl c

theorem mem_of_lookup {cache : List (Date × Bool)} {d : Date} {b : Bool}
    (h : cache.lookup d = some b) : (d, b) ∈ cache := by
  obtain ⟨before, behind, rfl, -⟩ := List.lookup_eq_some_iff.mp h
  simp

theorem exists_lookup_of_mem {cache : List (Date × Bool)} {d : Date} {b : Bool}
    (h : (d, b) ∈ cache) : ∃ kept, cache.lookup d = some kept := by
  cases hlookup : cache.lookup d with
  | some kept => exact ⟨kept, rfl⟩
  | none => exact absurd (List.lookup_eq_none_iff.mp hlookup (d, b) h) (by simp)

section
variable {c : Criteria} {d : Date} {b : Bool}

theorem containsDate_of_kept (h : c.cache.lookup d = some b) : c.containsDate d = (c, .ok b) := by
  rw [containsDate, h]

theorem containsDate_of_ok (hlookup : c.cache.lookup d = none)
    (h : evaluate c.rules c.negate d = .ok b) :
    c.containsDate d = ({ c with cache := c.cache ++ [(d, b)] }, .ok b) := by
  rw [containsDate, hlookup, h]

theorem containsDate_of_error {e : EvalError} (hlookup : c.cache.lookup d = none)
    (h : evaluate c.rules c.negate d = .error e) : c.containsDate d = (c, .error e) := by
  rw [containsDate, hlookup, h]

end

theorem evaluate_of_containsDate {c : Criteria} {d : Date} {error : EvalError}
    (h : (c.containsDate d).2 = .error error) : evaluate c.rules c.negate d = .error error := by
  unfold containsDate at h
  split at h
  · cases h
  · cases heval : evaluate c.rules c.negate d with
    | ok b => simp [heval] at h
    | error e => simpa [heval] using h

/-! A query asks for one date after the other. What a look-up keeps true it keeps true as well. -/
section
variable {P : Criteria → Prop} (hkeep : ∀ c d, P c → P (c.containsDate d).1) {c : Criteria}
include hkeep

theorem contains_keeps (h : P c) (q : Query) : P (c.contains q).1 := by
  unfold contains
  split
  · exact h
  · exact hkeep c _ h

theorem scan_keeps (h : P c) (wanted : Bool) (qs : List Query) : P (c.scan wanted qs).1 := by
  induction qs generalizing c with
  | nil => exact h
  | cons q qs ih =>
    have hhead := contains_keeps hkeep h q
    unfold scan
    split
    · rename_i c' b hcontains
      rw [hcontains] at hhead
      split
      · exact hhead
      · exact ih hhead
    · rename_i c' e hcontains
      rw [hcontains] at hhead
      exact hhead

theorem sweep_keeps (h : P c) (count : Nat) (d : Date) : P (c.sweep count d).1 := by
  induction count generalizing c d with
  | zero => exact h
  | succ count ih =>
    have hhead := hkeep c d h
    unfold sweep
    split
    · rename_i c' e hcontains
      rw [hcontains] at hhead
      exact hhead
    · rename_i c' b hcontains
      rw [hcontains] at hhead
      cases d.addDays? 1 with
      | none => exact hhead
      | some next => exact ih hhead next

theorem matchingDates_keeps (h : P c) (first last : Query) : P (c.matchingDates first last).1 := by
  unfold matchingDates
  split
  · exact h
  · exact h
  · exact sweep_keeps hkeep h _ _

theorem query_keeps (h : P c) {s : Step} (hs : s.isQuery) : P (c.run s).state := by
  cases s with
  | contains q => exact contains_keeps hkeep h q
  | containsAny qs => exact scan_keeps hkeep h true qs
  | containsAll qs => exact scan_keeps hkeep h false qs
  | matchingDates first last => exact matchingDates_keeps hkeep h first last
  | _ => cases hs

end

theorem looked_contains (c : Criteria) (q : Query) : Looked c (c.contains q).1 :=
  contains_keeps (P := Looked c) (fun c' d h => h.trans (looked_containsDate c' d))
    (looked_refl c) q

theorem looked_query (c : Criteria) {s : Step} (hs : s.isQuery) : Looked c (c.run s).state :=
  query_keeps (P := Looked c) (fun c' d h => h.trans (looked_containsDate c' d)) (looked_refl c) hs

/-- An addition whose sources compile puts rules in. -/
theorem run_of_newRules (c : Criteria) {s : Step} {new : List Rule} (h : s.newRules? = some new) :
    ∃ answer, c.run s = finish (c.insert new) answer := by
  cases s with
  | addRule source negate name =>
    cases hcompile : source.compile negate name with
    | error e => simp [Step.newRules?, hcompile, Except.toOption] at h
    | ok r =>
      simp only [Step.newRules?, hcompile, Except.toOption, Option.map_some, Option.some.injEq] at h
      subst h
      exact ⟨.rule r, by simp only [run, hcompile]⟩
  | addRules batch =>
    cases hcompile : batch.compile with
    | error e => simp [Step.newRules?, hcompile, Except.toOption] at h
    | ok rs =>
      simp only [Step.newRules?, hcompile, Except.toOption, Option.some.injEq] at h
      subst h
      exact ⟨.rules rs, by simp only [run, hcompile]⟩
  | _ => cases h

/-- An addition with a source that does not compile does nothing. -/
theorem run_of_newRules_eq_none (c : Criteria) {s : Step} (hs : s.isAddition)
    (h : s.newRules? = none) : ∃ fault, c.run s = ⟨c, [], .error (.source fault)⟩ := by
  cases s with
  | addRule source negate name =>
    cases hcompile : source.compile negate name with
    | error e => exact ⟨e, by simp only [run, hcompile]⟩
    | ok r => simp [Step.newRules?, hcompile, Except.toOption] at h
  | addRules batch =>
    cases hcompile : batch.compile with
    | error e => exact ⟨e, by simp only [run, hcompile]⟩
    | ok rs => simp [Step.newRules?, hcompile, Except.toOption] at h
  | _ => cases hs

/-- An addition does nothing, or puts rules in. -/
theorem run_of_isAddition (c : Criteria) {s : Step} (hs : s.isAddition) :
    (s.newRules? = none ∧ ∃ fault, c.run s = ⟨c, [], .error (.source fault)⟩) ∨
      ∃ new answer, s.newRules? = some new ∧ c.run s = finish (c.insert new) answer := by
  cases hnew : s.newRules? with
  | none => exact .inl ⟨rfl, run_of_newRules_eq_none c hs hnew⟩
  | some new =>
    obtain ⟨answer, hrun⟩ := run_of_newRules c hnew
    exact .inr ⟨new, answer, rfl, hrun⟩

theorem run_cases (c : Criteria) (s : Step) :
    (Looked c (c.run s).state ∧ s.newRules? = none ∧ s ≠ .refreshCache ∧
        ∀ negate, s ≠ .setNegate negate) ∨
      (∃ new answer, s.newRules? = some new ∧ c.run s = finish (c.insert new) answer) ∨
      (s = .refreshCache ∧ c.run s = finish c.refresh .done) ∨
      (∃ negate, s = .setNegate negate ∧ (c.run s).state = c.setNegate negate) ∨
      (∃ auto, s = .setAutoRefresh auto ∧ (c.run s).state = { c with autoRefresh := auto }) ∨
      (s = .clearCache ∧ (c.run s).state = c.clear) := by
  have haddition : s.isAddition →
      (Looked c (c.run s).state ∧ s.newRules? = none) ∨
        ∃ new answer, s.newRules? = some new ∧ c.run s = finish (c.insert new) answer := by
    intro hs
    refine (run_of_isAddition c hs).imp_left fun ⟨hnone, fault, hrun⟩ => ⟨?_, hnone⟩
    rw [hrun]
    exact looked_refl c
  cases s with
  | addRule source negate name =>
    exact (haddition rfl).imp (fun h => ⟨h.1, h.2, nofun, nofun⟩) .inl
  | addRules batch => exact (haddition rfl).imp (fun h => ⟨h.1, h.2, nofun, nofun⟩) .inl
  | contains q => exact .inl ⟨looked_query c rfl, rfl, nofun, nofun⟩
  | containsAny qs => exact .inl ⟨looked_query c rfl, rfl, nofun, nofun⟩
  | containsAll qs => exact .inl ⟨looked_query c rfl, rfl, nofun, nofun⟩
  | matchingDates first last => exact .inl ⟨looked_query c rfl, rfl, nofun, nofun⟩
  | setNegate negate => exact .inr (.inr (.inr (.inl ⟨negate, rfl, rfl⟩)))
  | setAutoRefresh auto => exact .inr (.inr (.inr (.inr (.inl ⟨auto, rfl, rfl⟩))))
  | refreshCache => exact .inr (.inr (.inl ⟨rfl, rfl⟩))
  | clearCache => exact .inr (.inr (.inr (.inr (.inr ⟨rfl, rfl⟩))))
  | summary => exact .inl ⟨looked_refl c, rfl, nofun, nofun⟩

theorem answer_finish_ne {r : Criteria × List Eviction × Except EvalError Unit} {answer : Answer}
    {e : EvalError} (h : (finish r answer).answer ≠ .error (.eval e)) : r.2.2 ≠ .error e := by
  intro hr
  apply h
  simp only [finish, hr]
  rfl

theorem insert_empty (negate auto : Bool) (new : List Rule) :
    ((empty negate auto).insert new).1 = ⟨negate, auto, new.eraseDups, []⟩ := by
  cases auto <;> rfl

@[simp] theorem setNegate_rules (c : Criteria) (negate : Bool) :
    (c.setNegate negate).rules = c.rules := by
  unfold setNegate
  split <;> rfl

@[simp] theorem setNegate_negate (c : Criteria) (negate : Bool) :
    (c.setNegate negate).negate = negate := by
  unfold setNegate
  split
  · rename_i hsame
    exact hsame.symm
  · rfl

@[simp] theorem setNegate_autoRefresh (c : Criteria) (negate : Bool) :
    (c.setNegate negate).autoRefresh = c.autoRefresh := by
  unfold setNegate
  split <;> rfl

/-- Rules change only when new ones come in. -/
theorem rules_run (c : Criteria) (s : Step) :
    (c.run s).state.rules = match s.newRules? with
      | some new => c.store new
      | none => c.rules := by
  cases hnew : s.newRules? with
  | some new =>
    obtain ⟨answer, hrun⟩ := run_of_newRules c hnew
    rw [hrun]
    exact insert_rules c new
  | none =>
    rcases run_cases c s with ⟨⟨found, -, hstate⟩, -⟩ | ⟨new, answer, hsome, -⟩ | ⟨rfl, hrun⟩ |
      ⟨negate, rfl, hstate⟩ | ⟨auto, rfl, hstate⟩ | ⟨rfl, hstate⟩
    · rw [hstate]
    · rw [hnew] at hsome
      cases hsome
    · rw [hrun]
      rfl
    · rw [hstate, setNegate_rules]
    · rw [hstate]
    · rw [hstate]
      rfl

theorem distinct_rules_run {c : Criteria} (h : Distinct c.rules) (s : Step) :
    Distinct (c.run s).state.rules := by
  rw [rules_run]
  cases s.newRules? with
  | none => exact h
  | some new => exact distinct_eraseDups _

/-- An answer is turned around with the negation, whatever the rules are that it comes from. -/
theorem mem_setNegate {c : Criteria} {negate : Bool} {d : Date} {b : Bool}
    (h : (d, b) ∈ (c.setNegate negate).cache) :
    ∃ old, (d, old) ∈ c.cache ∧ ∀ rules,
      evaluate rules c.negate d = .ok old → evaluate rules negate d = .ok b := by
  unfold setNegate at h
  split at h
  · rename_i hsame
    exact ⟨b, h, fun rules heval => hsame ▸ heval⟩
  · rename_i hchange
    obtain rfl : negate = !c.negate := by
      cases negate <;> cases hc : c.negate <;> simp_all
    obtain ⟨⟨d', old⟩, hold, heq⟩ := List.mem_map.mp h
    cases heq
    exact ⟨old, hold, fun rules heval => evaluate_not_eq_ok heval⟩

/-- New criteria hold the distinct ones of their rules and have answered nothing. -/
theorem create_eq_ok {negate auto : Bool} {batch : RuleBatch} {c : Criteria}
    (h : create negate auto batch = .ok c) :
    ∃ rules, c = ⟨negate, auto, rules.eraseDups, []⟩ ∧
      (batch.isSet → batch.compile = .ok rules) ∧ (!batch.isSet → rules = []) := by
  unfold create at h
  split at h
  · rename_i hset
    cases hcompile : batch.compile with
    | error e => simp [hcompile, bind, Except.bind] at h
    | ok rules =>
      simp only [hcompile, bind, Except.bind, pure, Except.pure, Except.ok.injEq] at h
      rw [insert_empty] at h
      exact ⟨rules, h.symm, fun _ => rfl, by simp [hset]⟩
  · rename_i hset
    cases h
    exact ⟨[], rfl, fun hset' => absurd hset' hset, fun _ => rfl⟩

def after (c : Criteria) : List Step → Criteria
  | [] => c
  | s :: ss => (c.run s).state.after ss

theorem after_eq_last_state (c : Criteria) (steps : List Step) :
    c.after steps = ((c.runAll steps).getLast?.map StepResult.state).getD c := by
  induction steps generalizing c with
  | nil => rfl
  | cons s ss ih =>
    rw [after, ih, runAll, List.getLast?_cons]
    cases ((c.run s).state.runAll ss).getLast? <;> rfl

theorem after_append (c : Criteria) (before later : List Step) :
    c.after (before ++ later) = (c.after before).after later := by
  induction before generalizing c with
  | nil => rfl
  | cons s ss ih => exact ih _

/-- What each step of a run keeps true holds at its end. -/
theorem after_keeps {P : Criteria → Prop} {steps : List Step}
    (hkeep : ∀ s ∈ steps, ∀ c, P c → P (c.run s).state) {c : Criteria} (h : P c) :
    P (c.after steps) := by
  induction steps generalizing c with
  | nil => exact h
  | cons s ss ih =>
    obtain ⟨hs, hss⟩ := List.forall_mem_cons.mp hkeep
    exact ih hss (hs c h)

end Criteria
end DateRules
