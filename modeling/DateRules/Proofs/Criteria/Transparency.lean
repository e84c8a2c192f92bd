import DateRules.Proofs.Criteria.Range
import DateRules.Proofs.Soundness

/-!
Kept answers are never seen. Criteria that keep none, and evaluate their rules for every date that
they are asked for, answer all queries alike, as long as every refresh comes to its end.
-/
namespace DateRules

/-- Criteria that keep no answers. -/
structure PlainCriteria where
  negate : Bool
  rules : List Rule

namespace PlainCriteria

/-- Whether any rule matches `d`, or, if negated, whether none does. -/
def containsDate (p : PlainCriteria) (d : Date) : Except EvalError Bool :=
  (· ^^ p.negate) <$> anyMatches d p.rules

def contains (p : PlainCriteria) (q : Query) : Except StepError Bool :=
  match q.toDate with
  | .error e => .error (.query e)
  | .ok d => (p.containsDate d).mapError .eval

/-- Whether a value gives `wanted`; those after the first that does are not looked at. -/
def scan (p : PlainCriteria) (wanted : Bool) : List Query → Except StepError Bool
  | [] => .ok !wanted
  | q :: qs =>
    match p.contains q with
    | .ok b => if b = wanted then .ok wanted else p.scan wanted qs
    | .error e => .error e

/-- The matching dates among `days`, up to the first failure. -/
def collect (p : PlainCriteria) : (days : List Date) → List Date × Option StepError
  | [] => ([], none)
  | d :: days =>
    match p.contains (.date d) with
    | .error e => ([], some e)
    | .ok b =>
      let (found, stopped) := p.collect days
      (if b then d :: found else found, stopped)

/-- The matching dates of the range, in the order of its days. -/
def matchingDates (p : PlainCriteria) (first last : Query) : List Date × Option StepError :=
  match first.toDate, last.toDate with
  | .error e, _ | .ok _, .error e => ([], some (.query e))
  | .ok s, .ok e => p.collect (s.through e)

/-- The answer to a query; other steps ask nothing. -/
def answer? (p : PlainCriteria) : Step → Option (Except StepError Answer)
  | .contains q => some ((p.contains q).map .truth)
  | .containsAny qs => some ((p.scan true qs).map .truth)
  | .containsAll qs => some ((p.scan false qs).map .truth)
  | .matchingDates first last =>
    some (.ok (.dates (p.matchingDates first last).1 (p.matchingDates first last).2))
  | _ => none

/-- A step adds its rules, if they compile, or sets the negation. -/
def next (p : PlainCriteria) (s : Step) : PlainCriteria :=
  match s.newRules? with
  | some new => { p with rules := (p.rules ++ new).eraseDups }
  | none =>
    match s with
    | .setNegate negate => { p with negate := negate }
    | _ => p

theorem next_of_newRules {p : PlainCriteria} {s : Step} {new : List Rule}
    (h : s.newRules? = some new) : p.next s = { p with rules := (p.rules ++ new).eraseDups } := by
  unfold next
  rw [h]

theorem next_of_none {p : PlainCriteria} {s : Step} (hnew : s.newRules? = none)
    (hnegate : ∀ negate, s ≠ .setNegate negate) : p.next s = p := by
  unfold next
  rw [hnew]
  dsimp only
  split
  · exact absurd rfl (hnegate _)
  · rfl

def answers (p : PlainCriteria) : List Step → List (Option (Except StepError Answer))
  | [] => []
  | s :: ss => p.answer? s :: (p.next s).answers ss

end PlainCriteria

namespace Criteria

def plain (c : Criteria) : PlainCriteria := ⟨c.negate, c.rules⟩

def answers (c : Criteria) (steps : List Step) : List (Option (Except StepError Answer)) :=
  List.zipWith (fun s r => if s.isQuery then some r.answer else none) steps (c.runAll steps)

/-- All that is kept is what the rules say now, and will be recomputed when rules come in. -/
structure Settled (c : Criteria) : Prop where
  autoRefresh : c.autoRefresh = true
  fresh : AllFresh c.rules c.negate c.cache
  compiled : ∀ r ∈ c.rules, r.IsCompiled

theorem containsDate_eq {c : Criteria} (h : AllFresh c.rules c.negate c.cache) (d : Date) :
    (c.containsDate d).2 = c.plain.containsDate d := by
  change _ = evaluate c.rules c.negate d
  unfold containsDate
  cases hlookup : c.cache.lookup d with
  | some b => exact (h d b (mem_of_lookup hlookup)).symm
  | none => cases evaluate c.rules c.negate d <;> rfl

theorem Looked.plain_eq {c c' : Criteria} (h : Looked c c') : c'.plain = c.plain := by
  obtain ⟨found, -, rfl⟩ := h
  rfl

theorem Looked.allFresh {c c' : Criteria} (h : Looked c c')
    (hfresh : AllFresh c.rules c.negate c.cache) : AllFresh c'.rules c'.negate c'.cache := by
  obtain ⟨found, hfound, rfl⟩ := h
  intro d b hmem
  rcases List.mem_append.mp hmem with hold | hnew
  · exact hfresh d b hold
  · exact hfound d b hnew

theorem contains_eq {c : Criteria} (h : AllFresh c.rules c.negate c.cache) (q : Query) :
    (c.contains q).2 = c.plain.contains q := by
  unfold contains PlainCriteria.contains
  cases q.toDate with
  | error e => rfl
  | ok d => exact congrArg (Except.mapError StepError.eval) (containsDate_eq h d)

theorem scan_eq {c : Criteria} (h : AllFresh c.rules c.negate c.cache) (wanted : Bool)
    (qs : List Query) : (c.scan wanted qs).2 = c.plain.scan wanted qs := by
  induction qs generalizing c with
  | nil => rfl
  | cons q qs ih =>
    have hanswer := contains_eq h q
    have hlooked := looked_contains c q
    unfold scan PlainCriteria.scan
    rw [← hanswer]
    cases hcontains : c.contains q with
    | mk c' result =>
      rw [hcontains] at hlooked
      cases result with
      | error e => rfl
      | ok b =>
        dsimp only
        split
        · rfl
        · rw [ih (hlooked.allFresh h), hlooked.plain_eq]

/-- However a range is walked through, what is found are the matching dates among its days. -/
theorem Walks.collect_eq {c : Criteria} {last d : Date}
    {r : Criteria × List Date × Option StepError} (hwalk : Walks last c d r)
    (h : AllFresh c.rules c.negate c.cache) : r.2 = c.plain.collect (d.through last) := by
  induction hwalk with
  | past hlater =>
    rw [Date.through_eq_nil hlater]
    rfl
  | failed hle look =>
    obtain ⟨days, hdays⟩ := Date.exists_through_eq_cons hle
    rw [hdays, PlainCriteria.collect, ← contains_eq h, look]
  | reached look =>
    rw [Date.through_self, PlainCriteria.collect, ← contains_eq h, look]
    rfl
  | @stepped c c' c'' d next b found stopped hle hne look hnext rest ih =>
    have hlooked := looked_contains c (.date d)
    rw [look] at hlooked
    have hdays := Date.through_eq_cons (Date.lt_of_le_of_ne hle hne)
      (Date.addDays?_eq_some_iff.mpr (addDays_eq_ok_iff.mp hnext))
    rw [hdays, PlainCriteria.collect, ← contains_eq h, look, ← hlooked.plain_eq,
      ← ih (hlooked.allFresh h)]
  | outside hle hne look hnext =>
    obtain ⟨next, hsome, -⟩ := exists_next_of_lt (Date.lt_of_le_of_ne hle hne)
    rw [hnext] at hsome
    cases hsome

theorem matchingDates_eq {c : Criteria} (h : AllFresh c.rules c.negate c.cache)
    (first last : Query) : (c.matchingDates first last).2 = c.plain.matchingDates first last := by
  unfold matchingDates PlainCriteria.matchingDates
  cases first.toDate with
  | error e => rfl
  | ok s =>
    cases last.toDate with
    | error e => rfl
    | ok e => exact (walks_iff.mpr rfl).collect_eq h

theorem answer_eq {c : Criteria} (h : AllFresh c.rules c.negate c.cache) (s : Step) :
    (if s.isQuery then some (c.run s).answer else none) = c.plain.answer? s := by
  cases s with
  | contains q =>
    exact congrArg (fun result => some (Except.map Answer.truth result)) (contains_eq h q)
  | containsAny qs =>
    exact congrArg (fun result => some (Except.map Answer.truth result)) (scan_eq h true qs)
  | containsAll qs =>
    exact congrArg (fun result => some (Except.map Answer.truth result)) (scan_eq h false qs)
  | matchingDates first last =>
    exact congrArg (fun result => some (Except.ok (Answer.dates result.1 result.2)))
      (matchingDates_eq h first last)
  | _ => rfl

/-- A refresh that is not cut short leaves no old answer. -/
theorem allFresh_refresh {c : Criteria} (hcompiled : ∀ r ∈ c.rules, r.IsCompiled)
    (hended : c.refresh.2.2 ≠ .error .outsideCalendar) :
    AllFresh c.rules c.negate c.refresh.1.cache :=
  allFresh_recompute (recompute_failure_eq_none hcompiled hended)

theorem allFresh_setNegate {c : Criteria} (h : AllFresh c.rules c.negate c.cache) (negate : Bool) :
    AllFresh c.rules negate (c.setNegate negate).cache := by
  intro d b hmem
  obtain ⟨old, hold, hturned⟩ := mem_setNegate hmem
  exact hturned c.rules (h d old hold)

/-- A step keeps the criteria settled, and changes rules and negation like that of plain
criteria. -/
theorem Settled.run {c : Criteria} (h : c.Settled) {s : Step} (hs : s.IsCompiled)
    (hauto : s ≠ .setAutoRefresh false)
    (hended : s.isQuery = false → (c.run s).answer ≠ .error (.eval .outsideCalendar)) :
    (c.run s).state.Settled ∧ (c.run s).state.plain = c.plain.next s := by
  have hcompiled := isCompiled_run h.compiled hs
  rcases run_cases c s with ⟨hlooked, hnew, hrefresh, hnegate⟩ | ⟨new, answer, hnew, hrun⟩ |
    ⟨rfl, hrun⟩ | ⟨negate, rfl, hstate⟩ | ⟨auto, rfl, hstate⟩ | ⟨rfl, hstate⟩
  · have hfresh := hlooked.allFresh h.fresh
    refine ⟨⟨?_, hfresh, hcompiled⟩, ?_⟩
    · obtain ⟨found, -, heq⟩ := hlooked
      rw [heq]
      exact h.autoRefresh
    · rw [hlooked.plain_eq, PlainCriteria.next_of_none hnew hnegate]
  · have hquery : s.isQuery = false := by
      cases s <;> first | rfl | cases hnew
    have hrefreshed := hended hquery
    have hinsert := insert_of_autoRefresh h.autoRefresh new
    rw [hrun, hinsert] at hrefreshed hcompiled ⊢
    refine ⟨⟨h.autoRefresh, ?_, hcompiled⟩, ?_⟩
    · exact allFresh_refresh hcompiled (answer_finish_ne hrefreshed)
    · rw [PlainCriteria.next_of_newRules hnew]
      rfl
  · rw [hrun]
    exact ⟨⟨h.autoRefresh, allFresh_refresh h.compiled (answer_finish_ne (hended rfl)), h.compiled⟩,
      rfl⟩
  · rw [hstate] at hcompiled ⊢
    refine ⟨⟨?_, ?_, hcompiled⟩, ?_⟩
    · rw [setNegate_autoRefresh]
      exact h.autoRefresh
    · rw [setNegate_rules, setNegate_negate]
      exact allFresh_setNegate h.fresh negate
    · rw [plain, setNegate_rules, setNegate_negate]
      rfl
  · rw [hstate]
    cases auto with
    | false => exact absurd rfl hauto
    | true => exact ⟨⟨rfl, h.fresh, h.compiled⟩, rfl⟩
  · rw [hstate]
    exact ⟨⟨h.autoRefresh, fun d b hmem => absurd hmem List.not_mem_nil, h.compiled⟩, rfl⟩

/-- The steps are those of the compiler's rules, rules are always followed by a refresh, and no
refresh leaves the calendar. -/
structure Unbroken (c : Criteria) (steps : List Step) : Prop where
  compiled : ∀ s ∈ steps, s.IsCompiled
  auto : ∀ s ∈ steps, s ≠ .setAutoRefresh false
  ended : ∀ s r, (s, r) ∈ steps.zip (c.runAll steps) → s.isQuery = false →
    r.answer ≠ .error (.eval .outsideCalendar)

theorem Settled.answers_eq {c : Criteria} (h : c.Settled) {steps : List Step}
    (hsteps : c.Unbroken steps) :
    c.answers steps = c.plain.answers steps ∧
      (c.after steps).plain = steps.foldl PlainCriteria.next c.plain := by
  induction steps generalizing c with
  | nil => exact ⟨rfl, rfl⟩
  | cons s ss ih =>
    obtain ⟨hs, hss⟩ := List.forall_mem_cons.mp hsteps.compiled
    obtain ⟨hsauto, hssauto⟩ := List.forall_mem_cons.mp hsteps.auto
    obtain ⟨hsettled, hplain⟩ := h.run hs hsauto (hsteps.ended s _ List.mem_cons_self)
    obtain ⟨hanswers, hafter⟩ := ih hsettled ⟨hss, hssauto, fun s' r' hmem =>
      hsteps.ended s' r' (List.mem_cons_of_mem _ hmem)⟩
    rw [hplain] at hanswers hafter
    refine ⟨?_, hafter⟩
    change (if s.isQuery then some (c.run s).answer else none) :: (c.run s).state.answers ss = _
    rw [answer_eq h.fresh, hanswers]
    rfl

theorem settled_create {negate : Bool} {batch : RuleBatch} {c : Criteria}
    (h : create negate true batch = .ok c) (hbatch : batch.IsCompiled) : c.Settled := by
  have hcompiled := isCompiled_create h hbatch
  obtain ⟨rules, rfl, -⟩ := create_eq_ok h
  exact ⟨rfl, fun d b hmem => absurd hmem List.not_mem_nil, hcompiled⟩

/-- From new criteria on, a run in which rules are always followed by a refresh, and none leaves the
calendar, answers every query as criteria do that keep nothing. -/
theorem answers_are_those_of_plain_criteria {negate : Bool} {batch : RuleBatch} {c : Criteria}
    (hcreate : create negate true batch = .ok c) (hbatch : batch.IsCompiled) {steps : List Step}
    (hsteps : c.Unbroken steps) :
    c.answers steps = c.plain.answers steps ∧
      (c.after steps).plain = steps.foldl PlainCriteria.next c.plain :=
  (settled_create hcreate hbatch).answers_eq hsteps

/-- A failing query, a text that does not compile, and an answer of 2100 that the table makes a
refresh drop. -/
theorem plain_answers_around_the_year_2100 :
    let d : Date := ⟨2100, 1, 1, by decide⟩
    let steps : List Step := [.contains (.date d), .addRule (.text "Date == Easter") false "",
      .addRule (.text "month = 12") false "", .containsAny [.date d], .setNegate true,
      .contains (.date ⟨2000, 4, 23, by decide⟩), .refreshCache]
    ∃ c, create false true (.items [.text "day == 2"]) = .ok c ∧
      RuleBatch.IsCompiled (.items [.text "day == 2"]) ∧ c.Unbroken steps ∧
      c.answers steps = c.plain.answers steps ∧
      (c.after steps).plain = steps.foldl PlainCriteria.next c.plain := by
  intro d steps
  obtain ⟨c, hcreate, hanswers⟩ :
      ∃ c, create false true (.items [.text "day == 2"]) = .ok c ∧
        (c.runAll steps).all (fun r => match r.answer with
          | .error (.eval .outsideCalendar) => false
          | _ => true) = true :=
    exists_ok_of_any (by decide +kernel)
  have hbatch : RuleBatch.IsCompiled (.items [.text "day == 2"]) := by
    simp [RuleBatch.IsCompiled, RuleSource.IsCompiled]
  have hsteps : c.Unbroken steps := by
    refine ⟨?_, ?_, fun s r hmem _ herror => ?_⟩
    · simp [steps, Step.IsCompiled, RuleSource.IsCompiled]
    · simp [steps]
    · have htest := List.all_eq_true.mp hanswers r (List.of_mem_zip hmem).2
      rw [herror] at htest
      cases htest
  exact ⟨c, hcreate, hbatch, hsteps, answers_are_those_of_plain_criteria hcreate hbatch hsteps⟩

end Criteria
end DateRules
