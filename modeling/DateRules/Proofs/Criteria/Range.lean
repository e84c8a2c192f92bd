import DateRules.Proofs.Criteria.Lookup
import DateRules.Proofs.Outcome
import DateRules.Proofs.Value

/-!
The dates of a range that are in criteria. They are looked up day by day from the first one on, up
to the last one or to a day without an answer; no step leaves the calendar, because none is made
from the last day.
-/
namespace DateRules.Criteria

variable {c c' : Criteria} {d last next : Date} {days visited : List Date}
  {stopped : Option EvalError}

/-- A walk from `current` to `last`, with the state, the days found and the failure at its end: a
day is looked up, and then, unless it is the last, the next one. A step out of the calendar would be
a failure too. -/
inductive Walks (last : Date) :
    (c : Criteria) → (current : Date) → Criteria × List Date × Option StepError → Prop
  | past {c : Criteria} {d : Date} (h : last < d) : Walks last c d (c, [], none)
  | failed {c c' : Criteria} {d : Date} {e : StepError} (h : d ≤ last)
      (look : c.contains (.date d) = (c', .error e)) : Walks last c d (c', [], some e)
  | reached {c c' : Criteria} {b : Bool} (look : c.contains (.date last) = (c', .ok b)) :
      Walks last c last (c', if b then [last] else [], none)
  | stepped {c c' c'' : Criteria} {d next : Date} {b : Bool} {found : List Date}
      {stopped : Option StepError} (h : d ≤ last) (hne : d ≠ last)
      (look : c.contains (.date d) = (c', .ok b)) (hnext : d.addDays 1 = .ok next)
      (rest : Walks last c' next (c'', found, stopped)) :
      Walks last c d (c'', if b then d :: found else found, stopped)
  | outside {c c' : Criteria} {d : Date} {b : Bool} {e : EvalError} (h : d ≤ last) (hne : d ≠ last)
      (look : c.contains (.date d) = (c', .ok b)) (hnext : d.addDays 1 = .error e) :
      Walks last c d (c', if b then [d] else [], some (.eval e))

theorem contains_date_eq_ok_iff {b : Bool} :
    (c.contains (.date d)).2 = .ok b ↔ (c.containsDate d).2 = .ok b :=
  mapError_eq_ok_iff

theorem contains_date_eq_error_iff {error : StepError} : (c.contains (.date d)).2 = .error error ↔
    ∃ e, (c.containsDate d).2 = .error e ∧ error = .eval e :=
  mapError_eq_error_iff

/-- Every day but the last one of a range has a next day, which is in the range. -/
theorem exists_next_of_lt (h : d < last) : ∃ next, d.addDays 1 = .ok next ∧
    d.addDays? 1 = some next ∧ next.dayNumber = d.dayNumber + 1 := by
  have hlater := Date.dayNumber_lt_iff.mpr h
  obtain ⟨next, hnumber⟩ := Date.exists_dayNumber_eq
    (Nat.lt_of_le_of_lt hlater last.dayNumber_lt_count)
  have hnext : (next.dayNumber : Int) = d.dayNumber + 1 := by omega
  exact ⟨next, addDays_eq_ok_iff.mpr hnext, Date.addDays?_eq_some_iff.mpr hnext, hnumber⟩

theorem Walks.eq_sweep {r : Criteria × List Date × Option StepError} (h : Walks last c d r) :
    r = c.sweep (last.dayNumber + 1 - d.dayNumber) d := by
  induction h with
  | @past c d h =>
    have hlater := Date.dayNumber_lt_iff.mpr h
    rw [show last.dayNumber + 1 - d.dayNumber = 0 by omega]
    rfl
  | @failed c c' d e h look =>
    have hfrom := Date.dayNumber_le_iff.mpr h
    obtain ⟨error, herror, rfl⟩ := contains_date_eq_error_iff.mp (congrArg Prod.snd look)
    rw [show last.dayNumber + 1 - d.dayNumber = last.dayNumber - d.dayNumber + 1 by omega,
      sweep_of_error herror]
    exact congrArg (·, _, _) (congrArg Prod.fst look).symm
  | @reached c c' b look =>
    have hanswer := contains_date_eq_ok_iff.mp (congrArg Prod.snd look)
    obtain rfl : (c.containsDate last).1 = c' := congrArg Prod.fst look
    rw [show last.dayNumber + 1 - last.dayNumber = 0 + 1 by omega]
    cases hnext : last.addDays? 1 with
    | none => rw [sweep_of_ok_of_last hanswer hnext]
    | some next => rw [sweep_of_ok_of_next hanswer hnext]; rfl
  | @stepped c c' c'' d next b found stopped h hne look hnext rest ih =>
    have hanswer := contains_date_eq_ok_iff.mp (congrArg Prod.snd look)
    obtain rfl : (c.containsDate d).1 = c' := congrArg Prod.fst look
    have hnumber := addDays_eq_ok_iff.mp hnext
    have hfrom := Date.dayNumber_lt_iff.mpr (Date.lt_of_le_of_ne h hne)
    rw [show last.dayNumber + 1 - d.dayNumber = last.dayNumber + 1 - next.dayNumber + 1 by omega,
      sweep_of_ok_of_next hanswer (Date.addDays?_eq_some_iff.mpr hnumber), ← ih]
  | @outside c c' d b e h hne look hnext =>
    obtain ⟨next, hsome, -⟩ := exists_next_of_lt (Date.lt_of_le_of_ne h hne)
    rw [hnext] at hsome
    cases hsome

/-- However far the last day is, the walk comes to its end. -/
theorem exists_walk (c : Criteria) (last d : Date) : ∃ r, Walks last c d r := by
  induction hcount : last.dayNumber + 1 - d.dayNumber generalizing c d with
  | zero => exact ⟨_, .past (Date.dayNumber_lt_iff.mp (by omega))⟩
  | succ count ih =>
    have hfrom : d ≤ last := Date.dayNumber_le_iff.mp (by omega)
    cases hlook : c.contains (.date d) with
    | mk c' result =>
      cases result with
      | error e => exact ⟨_, .failed hfrom hlook⟩
      | ok b =>
        by_cases hne : d = last
        · subst hne
          exact ⟨_, .reached hlook⟩
        · obtain ⟨next, hnext, -, hnumber⟩ := exists_next_of_lt (Date.lt_of_le_of_ne hfrom hne)
          obtain ⟨r, hr⟩ := ih c' next (by omega)
          exact ⟨_, .stepped hfrom hne hlook hnext hr⟩

theorem walks_iff {r : Criteria × List Date × Option StepError} :
    Walks last c d r ↔ r = c.sweep (last.dayNumber + 1 - d.dayNumber) d := by
  refine ⟨Walks.eq_sweep, ?_⟩
  rintro rfl
  obtain ⟨r, hr⟩ := exists_walk c last d
  exact hr.eq_sweep ▸ hr

/-- What comes to be kept when `days` are looked up: answers for those that had none. -/
def newAnswers (c : Criteria) (days : List Date) : List (Date × Bool) :=
  (days.filter fun d => (c.cache.lookup d).isNone).map fun d => (d, c.finds d)

theorem mem_newAnswers {b : Bool} :
    (d, b) ∈ c.newAnswers days ↔ d ∈ days ∧ c.cache.lookup d = none ∧ b = c.finds d := by
  simp only [newAnswers, List.mem_map, List.mem_filter, Option.isNone_iff_eq_none, Prod.mk.injEq]
  constructor
  · rintro ⟨d', ⟨hmem, hnone⟩, rfl, rfl⟩
    exact ⟨hmem, hnone, rfl⟩
  · rintro ⟨hmem, hnone, rfl⟩
    exact ⟨d, ⟨hmem, hnone⟩, rfl, rfl⟩

theorem containsDate_state_of_error {e : EvalError} (h : (c.containsDate d).2 = .error e) :
    (c.containsDate d).1 = c := by
  cases hkept : c.cache.lookup d with
  | some b => rw [containsDate_of_kept hkept]
  | none => rw [containsDate_of_error hkept (evaluate_of_containsDate h)]

theorem containsDate_state_of_ok {b : Bool} (h : (c.containsDate d).2 = .ok b) :
    (c.containsDate d).1 = { c with cache := c.cache ++ c.newAnswers [d] } := by
  have hfinds := finds_of_ok h
  cases hkept : c.cache.lookup d with
  | some kept => simp [containsDate_of_kept hkept, newAnswers, hkept]
  | none =>
    cases hanswer : evaluate c.rules c.negate d with
    | error e =>
      rw [containsDate_of_error hkept hanswer] at h
      cases h
    | ok b' =>
      rw [containsDate_of_ok hkept hanswer] at h ⊢
      cases h
      simp [newAnswers, hkept, hfinds]

theorem newAnswers_containsDate (h : d ∉ days) :
    (c.containsDate d).1.newAnswers days = c.newAnswers days := by
  have hlooked := looked_containsDate c d
  cases hanswer : (c.containsDate d).2 with
  | error e => rw [containsDate_state_of_error hanswer]
  | ok b =>
    have hlookup : ∀ day ∈ days, (c.containsDate d).1.cache.lookup day = c.cache.lookup day := by
      intro day hday
      have hother : (c.newAnswers [d]).lookup day = none := by
        rw [List.lookup_eq_none_iff]
        rintro ⟨d', b'⟩ hmem
        obtain rfl := List.mem_singleton.mp (mem_newAnswers.mp hmem).1
        simpa using fun heq : day = d' => h (heq ▸ hday)
      rw [containsDate_state_of_ok hanswer, List.lookup_append, hother, Option.or_none]
    unfold newAnswers
    rw [hlooked.finds_eq, List.filter_congr fun day hday => by rw [hlookup day hday]]

theorem newAnswers_append (c : Criteria) (days more : List Date) :
    c.newAnswers (days ++ more) = c.newAnswers days ++ c.newAnswers more := by
  simp [newAnswers]

/-- The days that were visited come first, and behind them the one that failed. -/
theorem LooksUp.days_eq (h : c.LooksUp days visited stopped) :
    (stopped = none ∧ days = visited) ∨ ∃ day behind e, stopped = some e ∧
      days = visited ++ day :: behind ∧ (c.containsDate day).2 = .error e := by
  induction h with
  | done => exact .inl ⟨rfl, rfl⟩
  | answered answer rest ih =>
    rcases ih with ⟨rfl, rfl⟩ | ⟨day, behind, e, rfl, rfl, hfailure⟩
    · exact .inl ⟨rfl, rfl⟩
    · exact .inr ⟨day, behind, e, rfl, rfl, hfailure⟩
  | failed days failure => exact .inr ⟨_, days, _, rfl, rfl, failure⟩

theorem LooksUp.visited_subset (h : c.LooksUp days visited stopped) : visited ⊆ days := by
  rcases h.days_eq with ⟨-, rfl⟩ | ⟨day, behind, e, -, rfl, -⟩
  · exact List.Subset.refl _
  · exact List.subset_append_left _ _

/-- A sweep keeps answers for the days that were visited and had none. -/
theorem LooksUp.sweep_state {count : Nat} (h : c.LooksUp (d.following count) visited stopped) :
    (c.sweep count d).1 = { c with cache := c.cache ++ c.newAnswers visited } := by
  induction count generalizing c d visited with
  | zero =>
    cases h
    simp [sweep, newAnswers]
  | succ count ih =>
    have hlooked := looked_containsDate c d
    have hsorted := Date.pairwise_following (count + 1) d
    rw [Date.following] at h hsorted
    cases h with
    | failed days hday =>
      rw [sweep_of_error hday]
      simp [containsDate_state_of_error hday, newAnswers]
    | @answered _ _ visited _ b hday hrest =>
      cases hnext : d.addDays? 1 with
      | none =>
        rw [hnext] at hrest
        cases hrest
        rw [sweep_of_ok_of_last hday hnext]
        exact containsDate_state_of_ok hday
      | some next =>
        rw [hnext] at hrest hsorted
        have hnot : d ∉ visited := fun hmem =>
          Date.lt_irrefl d ((List.pairwise_cons.mp hsorted).1 d (hrest.visited_subset hmem))
        rw [sweep_of_ok_of_next hday hnext]
        dsimp only
        rw [ih (hrest.of_looked hlooked), newAnswers_containsDate hnot,
          containsDate_state_of_ok hday, List.append_assoc, ← newAnswers_append]
        rfl

/-- The days with the property were looked up in `c` in their order, and none besides. Those in the
criteria were found, and there are answers now for those that had none. -/
structure Collects (c : Criteria) (property : Date → Prop) (found : List Date) (c' : Criteria) :
    Prop where
  increasing : found.Pairwise (· < ·)
  mem_found : ∀ d, d ∈ found ↔ property d ∧ (c.contains (.date d)).2 = .ok true
  state : ∃ new, c' = { c with cache := c.cache ++ new } ∧ (new.map Prod.fst).Pairwise (· < ·) ∧
    ∀ d b, (d, b) ∈ new ↔
      property d ∧ c.cache.lookup d = none ∧ (c.contains (.date d)).2 = .ok b

theorem LooksUp.collects {count : Nat} {property : Date → Prop}
    (h : c.LooksUp (d.following count) visited stopped)
    (hvisited : ∀ day, day ∈ visited ↔ property day) :
    c.Collects property (c.sweep count d).2.1 (c.sweep count d).1 := by
  have hsorted : visited.Pairwise (· < ·) := by
    have hall := Date.pairwise_following count d
    rcases h.days_eq with ⟨-, heq⟩ | ⟨day, behind, e, -, heq, -⟩
    · exact heq ▸ hall
    · exact (List.pairwise_append.mp (heq ▸ hall)).1
  have hfinds : ∀ day b, day ∈ visited →
      ((c.contains (.date day)).2 = .ok b ↔ b = c.finds day) := by
    intro day b hday
    obtain ⟨b', hb'⟩ := h.exists_answer day hday
    rw [contains_date_eq_ok_iff, hb', finds_of_ok hb', ok_eq_ok_iff]
  refine ⟨?_, fun day => ?_, c.newAnswers visited, h.sweep_state, ?_, fun day b => ?_⟩
  · rw [h.sweep_eq]
    exact hsorted.sublist List.filter_sublist
  · rw [h.sweep_eq, List.mem_filter, ← hvisited]
    exact and_congr_right fun hday => by rw [hfinds day true hday, eq_comm]
  · simp only [newAnswers, List.map_map, Function.comp_def, List.map_id']
    exact hsorted.sublist List.filter_sublist
  · rw [mem_newAnswers, ← hvisited]
    exact and_congr_right fun hday => and_congr_right fun _ => (hfinds day b hday).symm

theorem matchingDates_of_toDate {first last : Query} {s e : Date} (hfirst : first.toDate = .ok s)
    (hlast : last.toDate = .ok e) :
    c.matchingDates first last = c.sweep (e.dayNumber + 1 - s.dayNumber) s := by
  rw [matchingDates, hfirst, hlast]

/-- A range is walked through to its end in one way. Where each of its days has an answer, the days
in the criteria are found, in their order, and no failure; answers come to be kept for the days that
had none. Otherwise the same is so of the days before the first one without an answer, whose failure
ends the walk. -/
theorem range_is_searched_up_to_the_first_failure {first last : Query} {s e : Date}
    (hfirst : first.toDate = .ok s) (hlast : last.toDate = .ok e) (c : Criteria) :
    let result := c.matchingDates first last
    (∀ r, Walks e c s r ↔ r = result) ∧
    ((∀ d, s ≤ d → d ≤ e → ∃ b, (c.contains (.date d)).2 = .ok b) →
      result.2.2 = none ∧ c.Collects (fun d => s ≤ d ∧ d ≤ e) result.2.1 result.1) ∧
    ((∃ d, s ≤ d ∧ d ≤ e ∧ ∃ error, (c.contains (.date d)).2 = .error error) →
      ∃ f error, (s ≤ f ∧ f ≤ e) ∧ (c.contains (.date f)).2 = .error error ∧
        (∀ d, s ≤ d → d < f → ∃ b, (c.contains (.date d)).2 = .ok b) ∧
        result.2.2 = some error ∧ c.Collects (fun d => s ≤ d ∧ d < f) result.2.1 result.1) := by
  intro result
  have hresult : result = c.sweep (e.dayNumber + 1 - s.dayNumber) s :=
    matchingDates_of_toDate hfirst hlast
  obtain ⟨visited, stopped, h⟩ := c.exists_looksUp (s.through e)
  have hanswers : ∀ day ∈ visited, ∃ b, (c.contains (.date day)).2 = .ok b := fun day hday => by
    simpa only [contains_date_eq_ok_iff] using h.exists_answer day hday
  have hstopped : result.2.2 = stopped.map .eval := by
    rw [hresult, h.sweep_eq]
  refine ⟨fun r => hresult ▸ walks_iff, fun hall => ?_, fun hfails => ?_⟩
  · rcases h.days_eq with ⟨rfl, hdays⟩ | ⟨f, behind, failure, -, hdays, hfailure⟩
    · refine ⟨hstopped, hresult ▸ h.collects fun day => ?_⟩
      rw [← hdays, Date.mem_through]
    · have hmem : f ∈ s.through e := hdays ▸ List.mem_append_right _ List.mem_cons_self
      obtain ⟨hfrom, hto⟩ := Date.mem_through.mp hmem
      obtain ⟨b, hb⟩ := hall f hfrom hto
      rw [contains_date_eq_ok_iff, hfailure] at hb
      cases hb
  · rcases h.days_eq with ⟨-, hdays⟩ | ⟨f, behind, failure, rfl, hdays, hfailure⟩
    · obtain ⟨day, hfrom, hto, error, herror⟩ := hfails
      obtain ⟨b, hb⟩ := hanswers day (hdays ▸ Date.mem_through.mpr ⟨hfrom, hto⟩)
      rw [herror] at hb
      cases hb
    · have hmem : f ∈ s.through e := hdays ▸ List.mem_append_right _ List.mem_cons_self
      have hrange := Date.mem_through.mp hmem
      have hvisited : ∀ day, day ∈ visited ↔ s ≤ day ∧ day < f := fun day =>
        Date.mem_of_through_eq_append hdays
      refine ⟨f, .eval failure, hrange, contains_date_eq_error_iff.mpr ⟨failure, hfailure, rfl⟩,
        fun day hfrom hbefore => hanswers day ((hvisited day).mpr ⟨hfrom, hbefore⟩), hstopped,
        hresult ▸ h.collects hvisited⟩

/-- The rule of Easter comes in behind the one that 1 January matches, and the answer for 31
December is kept. The walk ends at 2 January. -/
theorem range_around_the_new_year_of_2100 :
    let s : Date := ⟨2099, 12, 30, by decide⟩
    let e : Date := ⟨2100, 1, 5, by decide⟩
    let last : Query := .text " 5 jan 2100"
    let steps : List Step := [.contains (.text "2099-12-31"), .setAutoRefresh false,
      .addRules (.items [.text "Date == Easter", .text "day >= 30"])]
    ∃ c₀, create false true (.items [.text "day == 1"]) = .ok c₀ ∧ last.toDate = .ok e ∧
      let c := c₀.after steps
      (∃ d, s ≤ d ∧ d ≤ e ∧ ∃ error, (c.contains (.date d)).2 = .error error) ∧
      let result := c.matchingDates (.date s) last
      (∀ r, Walks e c s r ↔ r = result) ∧
      result.2.1 = [s, ⟨2100, 1, 1, by decide⟩] ∧
      ∃ f error, (s ≤ f ∧ f ≤ e) ∧ (c.contains (.date f)).2 = .error error ∧
        (∀ d, s ≤ d → d < f → ∃ b, (c.contains (.date d)).2 = .ok b) ∧
        result.2.2 = some error ∧ c.Collects (fun d => s ≤ d ∧ d < f) result.2.1 result.1 := by
  intro s e last steps
  let f : Date := ⟨2100, 1, 2, by decide⟩
  obtain ⟨c₀, hcreate, htest⟩ :
      ∃ c₀, create false true (.items [.text "day == 1"]) = .ok c₀ ∧
        (let c := c₀.after steps
        (!((c.contains (.date f)).2).isOk) && decide ((c.matchingDates (.date s) last).2.1 =
          [s, ⟨2100, 1, 1, by decide⟩])) = true :=
    exists_ok_of_any (by decide +kernel)
  simp only [Bool.and_eq_true, decide_eq_true_eq] at htest
  obtain ⟨hfailed, hfound⟩ := htest
  have hlast : last.toDate = .ok e := by rfl
  have hfails : ∃ d, s ≤ d ∧ d ≤ e ∧
      ∃ error, ((c₀.after steps).contains (.date d)).2 = .error error := by
    refine ⟨f, Date.dayNumber_le_iff.mp (by decide), Date.dayNumber_le_iff.mp (by decide), ?_⟩
    cases hanswer : ((c₀.after steps).contains (.date f)).2 with
    | ok b => simp [hanswer, Except.isOk, Except.toBool] at hfailed
    | error error => exact ⟨error, rfl⟩
  have hfirst : (Query.date s).toDate = .ok s := rfl
  have hrange := range_is_searched_up_to_the_first_failure hfirst hlast (c₀.after steps)
  exact ⟨c₀, hcreate, hlast, hfails, hrange.1, hfound, hrange.2.2 hfails⟩

end DateRules.Criteria
