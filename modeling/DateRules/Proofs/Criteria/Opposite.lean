import DateRules.Proofs.Criteria.Lookup
import DateRules.Proofs.Criteria.Refresh

/-!
Criteria and their opposite, with the negation and every kept answer turned around. The two go
through a run side by side, and all that they are asked they answer in opposite ways.
-/
namespace DateRules

/-- The step that does to the opposite criteria what `s` does. -/
def Step.opposite : Step → Step
  | setNegate negate => setNegate !negate
  | containsAny qs => containsAll qs
  | containsAll qs => containsAny qs
  | s => s

namespace Criteria

/-- The same rules and dates, under the opposite negation and with the opposite answers. -/
def opposite (c : Criteria) : Criteria :=
  { c with
    negate := !c.negate
    cache := c.cache.map fun (d, b) => (d, !b) }

variable {c : Criteria} {d : Date} {days visited : List Date} {stopped : Option EvalError}
  {b : Bool} {e : EvalError}

theorem lookup_map_not (cache : List (Date × Bool)) (d : Date) :
    (cache.map fun (d, b) => (d, !b)).lookup d = (cache.lookup d).map not := by
  induction cache with
  | nil => rfl
  | cons entry cache ih =>
    obtain ⟨d', b⟩ := entry
    rw [List.map_cons, List.lookup_cons, List.lookup_cons, ih]
    cases d == d' <;> rfl

theorem containsDate_opposite (c : Criteria) (d : Date) : c.opposite.containsDate d =
    ((c.containsDate d).1.opposite, (c.containsDate d).2.map not) := by
  have hlookup : c.opposite.cache.lookup d = (c.cache.lookup d).map not := lookup_map_not c.cache d
  have hevaluate := evaluate_not c.rules c.negate d
  cases hkept : c.cache.lookup d with
  | some b =>
    rw [hkept] at hlookup
    rw [containsDate_of_kept hkept, containsDate_of_kept hlookup]
    rfl
  | none =>
    rw [hkept] at hlookup
    cases hanswer : evaluate c.rules c.negate d with
    | ok b =>
      rw [hanswer] at hevaluate
      rw [containsDate_of_ok hkept hanswer, containsDate_of_ok hlookup hevaluate]
      simp [opposite, Except.map]
    | error e =>
      rw [hanswer] at hevaluate
      rw [containsDate_of_error hkept hanswer, containsDate_of_error hlookup hevaluate]
      rfl

theorem containsDate_opposite_of_ok (h : (c.containsDate d).2 = .ok b) :
    (c.opposite.containsDate d).2 = .ok !b := by
  rw [containsDate_opposite, h]
  rfl

theorem containsDate_opposite_of_error (h : (c.containsDate d).2 = .error e) :
    (c.opposite.containsDate d).2 = .error e := by
  rw [containsDate_opposite, h]
  rfl

theorem contains_opposite (c : Criteria) (q : Query) :
    c.opposite.contains q = ((c.contains q).1.opposite, (c.contains q).2.map not) := by
  unfold contains
  cases q.toDate with
  | error e => rfl
  | ok d =>
    dsimp only
    rw [containsDate_opposite]
    cases (c.containsDate d).2 <;> rfl

/-- Where the one scan stops because of an answer, the other does because of the opposite one. -/
theorem scan_opposite (wanted : Bool) (c : Criteria) (qs : List Query) :
    c.opposite.scan (!wanted) qs =
      ((c.scan wanted qs).1.opposite, (c.scan wanted qs).2.map not) := by
  induction qs generalizing c with
  | nil => rfl
  | cons q qs ih =>
    rw [scan, scan, contains_opposite]
    obtain ⟨c', result⟩ := c.contains q
    cases result with
    | error e => rfl
    | ok b =>
      change (if (!b) = !wanted then _ else _) = _
      by_cases hb : b = wanted
      · simp [hb, Except.map]
      · simp [hb, ih]

theorem LooksUp.opposite (h : c.LooksUp days visited stopped) :
    c.opposite.LooksUp days visited stopped := by
  induction h with
  | done => exact .done
  | answered hday hrest ih => exact .answered (containsDate_opposite_of_ok hday) ih
  | failed days hday => exact .failed days (containsDate_opposite_of_error hday)

theorem finds_opposite (h : (c.containsDate d).2 = .ok b) : c.opposite.finds d = !c.finds d := by
  rw [finds_of_ok h, finds_of_ok (containsDate_opposite_of_ok h)]

theorem sweep_opposite (c : Criteria) (count : Nat) (d : Date) :
    (c.opposite.sweep count d).1 = (c.sweep count d).1.opposite := by
  induction count generalizing c d with
  | zero => rfl
  | succ count ih =>
    cases hday : (c.containsDate d).2 with
    | error e =>
      have hopposite := containsDate_opposite_of_error hday
      rw [sweep_of_error hday, sweep_of_error hopposite, containsDate_opposite]
    | ok b =>
      have hopposite := containsDate_opposite_of_ok hday
      cases hnext : d.addDays? 1 with
      | none =>
        rw [sweep_of_ok_of_last hday hnext, sweep_of_ok_of_last hopposite hnext,
          containsDate_opposite]
      | some next =>
        rw [sweep_of_ok_of_next hday hnext, sweep_of_ok_of_next hopposite hnext,
          containsDate_opposite, ih]

theorem filter_not_mem_filter {α : Type} [DecidableEq α] (p : α → Bool) (as : List α) :
    (as.filter fun a => a ∉ as.filter p) = as.filter fun a => !p a := by
  refine List.filter_congr fun a ha => ?_
  simp [ha]

theorem refresh_opposite (c : Criteria) :
    c.opposite.refresh = (c.refresh.1.opposite, c.refresh.2) := by
  have hturned : recompute c.opposite.rules c.opposite.negate c.opposite.cache = _ :=
    recompute_turned c.rules c.negate c.cache
  unfold refresh
  rw [hturned]
  rfl

theorem insert_opposite (c : Criteria) (new : List Rule) :
    c.opposite.insert new = ((c.insert new).1.opposite, (c.insert new).2) := by
  cases hauto : c.autoRefresh with
  | true =>
    have hauto' : c.opposite.autoRefresh = true := hauto
    rw [insert_of_autoRefresh hauto, insert_of_autoRefresh hauto']
    exact refresh_opposite { c with rules := c.store new }
  | false =>
    have hauto' : c.opposite.autoRefresh = false := hauto
    rw [insert_of_not_autoRefresh hauto, insert_of_not_autoRefresh hauto']
    rfl

theorem setNegate_opposite (c : Criteria) (negate : Bool) :
    c.opposite.setNegate (!negate) = (c.setNegate negate).opposite := by
  have hsame : (!negate) = c.opposite.negate ↔ negate = c.negate := by
    simp [opposite]
  unfold setNegate
  by_cases hnegate : negate = c.negate
  · rw [if_pos hnegate, if_pos (hsame.mpr hnegate)]
  · rw [if_neg hnegate, if_neg (mt hsame.mp hnegate)]
    rfl

/-- Opposite truth values, or one and the same error. -/
def OppositeTruths (a a' : Except StepError Answer) : Prop :=
  (∃ b, a = .ok (.truth b) ∧ a' = .ok (.truth !b)) ∨ ∃ e, a = .error e ∧ a' = .error e

/-- Of the days that are visited, each is found in one of the two ways, and the same failure behind
them stops both. -/
def PartsDays (c : Criteria) (days : List Date) (a a' : Except StepError Answer) : Prop :=
  ∃ visited found found' stopped,
    c.LooksUp days visited stopped ∧ c.opposite.LooksUp days visited stopped ∧
    a = .ok (.dates found (stopped.map .eval)) ∧ a' = .ok (.dates found' (stopped.map .eval)) ∧
    (found = visited.filter fun day => day ∉ found') ∧
    found' = visited.filter fun day => day ∉ found

/-- What `c` answers to a step, and its opposite to the opposite step. Nothing is said of the line
on the state, which shows the negation. -/
def OppositeAnswers (c : Criteria) (s : Step) (a a' : Except StepError Answer) : Prop :=
  match s with
  | .contains _ | .containsAny _ | .containsAll _ => OppositeTruths a a'
  | .matchingDates first last =>
    match first.toDate, last.toDate with
    | .error e, _ | .ok _, .error e => a = .ok (.dates [] (some (.query e))) ∧ a' = a
    | .ok d, .ok e => c.PartsDays (d.through e) a a'
  | .summary => True
  | _ => a' = a

structure OppositeResults (c : Criteria) (s : Step) (r r' : StepResult) : Prop where
  state : r'.state = r.state.opposite
  evictions : r'.evictions = r.evictions
  answer : c.OppositeAnswers s r.answer r'.answer

theorem oppositeTruths_map (r : Except StepError Bool) :
    OppositeTruths (r.map .truth) ((r.map not).map .truth) := by
  cases r with
  | ok b => exact .inl ⟨b, rfl, rfl⟩
  | error e => exact .inr ⟨e, rfl, rfl⟩

theorem partsDays_sweep (c : Criteria) (count : Nat) (d : Date) :
    c.PartsDays (d.following count) (.ok (.dates (c.sweep count d).2.1 (c.sweep count d).2.2))
      (.ok (.dates (c.opposite.sweep count d).2.1 (c.opposite.sweep count d).2.2)) := by
  obtain ⟨visited, stopped, h⟩ := c.exists_looksUp (d.following count)
  have hfound : visited.filter c.opposite.finds = visited.filter fun day => !c.finds day := by
    refine List.filter_congr fun day hday => ?_
    obtain ⟨b, hb⟩ := h.exists_answer day hday
    exact finds_opposite hb
  rw [h.sweep_eq, h.opposite.sweep_eq, hfound]
  refine ⟨visited, _, _, stopped, h, h.opposite, rfl, rfl, ?_, ?_⟩
  · rw [filter_not_mem_filter]
    simp only [Bool.not_not]
  · exact (filter_not_mem_filter c.finds visited).symm

theorem oppositeResults_matchingDates (c : Criteria) (first last : Query) :
    c.OppositeResults (.matchingDates first last) (c.run (.matchingDates first last))
      (c.opposite.run (.matchingDates first last)) := by
  simp only [run, matchingDates]
  cases hfirst : first.toDate with
  | error e => exact ⟨rfl, rfl, by simp [OppositeAnswers, hfirst]⟩
  | ok d =>
    cases hlast : last.toDate with
    | error e => exact ⟨rfl, rfl, by simp [OppositeAnswers, hfirst, hlast]⟩
    | ok e =>
      refine ⟨sweep_opposite c _ d, rfl, ?_⟩
      simp only [OppositeAnswers, hfirst, hlast]
      exact partsDays_sweep c _ d

theorem oppositeResults_run (c : Criteria) (s : Step) :
    c.OppositeResults s (c.run s) (c.opposite.run s.opposite) := by
  cases s with
  | addRule source negate name =>
    simp only [Step.opposite, run]
    cases source.compile negate name with
    | error e => exact ⟨rfl, rfl, rfl⟩
    | ok r =>
      simp only [insert_opposite]
      exact ⟨rfl, rfl, rfl⟩
  | addRules batch =>
    simp only [Step.opposite, run]
    cases batch.compile with
    | error e => exact ⟨rfl, rfl, rfl⟩
    | ok rs =>
      simp only [insert_opposite]
      exact ⟨rfl, rfl, rfl⟩
  | contains q =>
    simp only [Step.opposite, run, contains_opposite]
    exact ⟨rfl, rfl, oppositeTruths_map _⟩
  | containsAny qs =>
    -- Any is the scan for true, and all the scan for false.
    simp only [Step.opposite, run, containsAny, containsAll]
    rw [show c.opposite.scan false qs = _ from scan_opposite true c qs]
    exact ⟨rfl, rfl, oppositeTruths_map _⟩
  | containsAll qs =>
    simp only [Step.opposite, run, containsAny, containsAll]
    rw [show c.opposite.scan true qs = _ from scan_opposite false c qs]
    exact ⟨rfl, rfl, oppositeTruths_map _⟩
  | matchingDates first last => exact oppositeResults_matchingDates c first last
  | setNegate negate => exact ⟨setNegate_opposite c negate, rfl, rfl⟩
  | setAutoRefresh auto => exact ⟨rfl, rfl, rfl⟩
  | refreshCache =>
    simp only [Step.opposite, run, refresh_opposite]
    exact ⟨rfl, rfl, rfl⟩
  | clearCache => exact ⟨rfl, rfl, rfl⟩
  | summary => exact ⟨rfl, rfl, trivial⟩

theorem after_opposite (c : Criteria) (steps : List Step) :
    c.opposite.after (steps.map Step.opposite) = (c.after steps).opposite := by
  induction steps generalizing c with
  | nil => rfl
  | cons s ss ih =>
    rw [List.map_cons, after, (oppositeResults_run c s).state, ih]
    rfl

/-- Criteria and their opposite stay so in every run, with the negations that are set turned around
and the questions for any and for all exchanged. At each step they drop the same answers. Their
truth values are opposite, they part the days of a range up to the failure that stops both, and all
else is the same. -/
theorem opposite_criteria_answer_oppositely (c : Criteria) (before : List Step) (s : Step) :
    let now := c.after before
    let now' := c.opposite.after (before.map Step.opposite)
    now' = now.opposite ∧ now.OppositeResults s (now.run s) (now'.run s.opposite) := by
  intro now now'
  have hnow : now' = now.opposite := after_opposite c before
  refine ⟨hnow, ?_⟩
  rw [hnow]
  exact oppositeResults_run now s

end Criteria
end DateRules
