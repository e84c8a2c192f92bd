import DateRules.Proofs.Criteria.Evaluation
import DateRules.Proofs.Outcome

/-!
What a refresh makes of kept answers as a whole. Fresh answers stay as they are, old ones turn
around with the negation, and an answer that is lost under some rules is lost under more rules too,
so that a refresh now and another one later keep what the later one alone would have kept.
-/
namespace DateRules

theorem anyMatches_append (d : Date) (rs ts : List Rule) :
    anyMatches d (rs ++ ts) =
      (anyMatches d rs >>= fun found => if found then .ok true else anyMatches d ts) := by
  induction rs with
  | nil => rfl
  | cons r rs ih =>
    rw [List.cons_append, anyMatches, anyMatches, ih]
    cases r.matches? d with
    | error e => rfl
    | ok b => cases b <;> rfl

/-- Rules put behind others are asked only where none of the others matches and none fails. -/
theorem anyMatches_eq_of_isPrefix {d : Date} {rs ss : List Rule} (h : rs <+: ss)
    (hdecided : anyMatches d rs ≠ .ok false) : anyMatches d ss = anyMatches d rs := by
  obtain ⟨ts, rfl⟩ := h
  rw [anyMatches_append]
  cases hrs : anyMatches d rs with
  | error e => rfl
  | ok m =>
    cases m with
    | true => rfl
    | false => exact absurd hrs hdecided

namespace Criteria

variable {rules more : List Rule} {negate : Bool} {d : Date}

/-- Rules that have no answer for a date get none when rules are put behind them. -/
theorem evaluate_eq_error_mono (hmore : rules <+: more) {e : EvalError}
    (h : evaluate rules negate d = .error e) : evaluate more negate d = .error e := by
  have hmatch : anyMatches d rules = .error e := map_eq_error_iff.mp h
  have hbehind := anyMatches_eq_of_isPrefix hmore (by rw [hmatch]; exact nofun)
  exact map_eq_error_iff.mpr (hbehind.trans hmatch)

@[simp] theorem Refresh.keep_cache (entry : Date × Bool) (r : Refresh) :
    (r.keep entry).cache = entry :: r.cache := rfl

@[simp] theorem Refresh.keep_failure (entry : Date × Bool) (r : Refresh) :
    (r.keep entry).failure = r.failure := rfl

@[simp] theorem Refresh.keep_evictions (entry : Date × Bool) (r : Refresh) :
    (r.keep entry).evictions = r.evictions := rfl

@[simp] theorem Refresh.evict_cache (e : Eviction) (r : Refresh) :
    (r.evict e).cache = r.cache := rfl

@[simp] theorem Refresh.evict_failure (e : Eviction) (r : Refresh) :
    (r.evict e).failure = r.failure := rfl

@[simp] theorem Refresh.evict_evictions (e : Eviction) (r : Refresh) :
    (r.evict e).evictions = e :: r.evictions := rfl

theorem recompute_cons_of_ok {v : Bool} (h : evaluate rules negate d = .ok v) (b : Bool)
    (rest : List (Date × Bool)) :
    recompute rules negate ((d, b) :: rest) = (recompute rules negate rest).keep (d, v) := by
  rw [recompute, h]

theorem recompute_cons_of_miss {year : Int}
    (h : evaluate rules negate d = .error (.easterOutOfTable year)) (b : Bool)
    (rest : List (Date × Bool)) :
    recompute rules negate ((d, b) :: rest) = (recompute rules negate rest).evict ⟨d, year⟩ := by
  rw [recompute, h]

theorem recompute_cons_of_fatal {e : EvalError} (h : evaluate rules negate d = .error e)
    (hfatal : ∀ year, e ≠ .easterOutOfTable year) (b : Bool) (rest : List (Date × Bool)) :
    recompute rules negate ((d, b) :: rest) = ⟨(d, b) :: rest, [], some e⟩ := by
  rw [recompute, h]
  cases e with
  | easterOutOfTable year => exact absurd rfl (hfatal year)
  | _ => rfl

theorem recompute_of_allFresh {cache : List (Date × Bool)} (h : AllFresh rules negate cache) :
    recompute rules negate cache = ⟨cache, [], none⟩ := by
  induction cache with
  | nil => rfl
  | cons entry rest ih =>
    obtain ⟨d, b⟩ := entry
    have hrest := ih fun d' b' hmem => h d' b' (List.mem_cons_of_mem _ hmem)
    rw [recompute_cons_of_ok (h d b List.mem_cons_self), hrest]
    rfl

theorem refresh_of_failure_eq_none {c : Criteria}
    (h : (recompute c.rules c.negate c.cache).failure = none) :
    c.refresh = ({ c with cache := (recompute c.rules c.negate c.cache).cache },
      (recompute c.rules c.negate c.cache).evictions, .ok ()) := by
  unfold refresh
  simp only [h]

/-- A kept date is answered or dropped, unless the refresh fails. -/
theorem recompute_date {cache : List (Date × Bool)}
    (h : (recompute rules negate cache).failure = none) {d : Date} {b : Bool}
    (hmem : (d, b) ∈ cache) :
    (∃ v, (d, v) ∈ (recompute rules negate cache).cache ∧ evaluate rules negate d = .ok v) ∨
      ∃ year, evaluate rules negate d = .error (.easterOutOfTable year) := by
  fun_induction recompute rules negate cache with
  | case1 => cases hmem
  | case2 d' b' rest v hv ih =>
    rcases List.mem_cons.mp hmem with heq | htail
    · cases heq
      exact .inl ⟨v, List.mem_cons_self, hv⟩
    · rcases ih h htail with ⟨v, hmem', heval⟩ | hmiss
      · exact .inl ⟨v, List.mem_cons_of_mem _ hmem', heval⟩
      · exact .inr hmiss
  | case3 d' b' rest year hyear ih =>
    rcases List.mem_cons.mp hmem with heq | htail
    · cases heq
      exact .inr ⟨year, hyear⟩
    · exact ih h htail
  | case4 d' b' rest e hne hfail => simp at h

/-- A refresh finds no dates that were not there. -/
theorem exists_mem_of_mem_recompute {cache : List (Date × Bool)} {d : Date} {v : Bool}
    (h : (d, v) ∈ (recompute rules negate cache).cache) : ∃ b, (d, b) ∈ cache := by
  fun_induction recompute rules negate cache with
  | case1 => cases h
  | case2 d' b' rest v' hv ih =>
    rcases List.mem_cons.mp h with heq | htail
    · cases heq
      exact ⟨b', List.mem_cons_self⟩
    · exact (ih htail).imp fun b hmem => List.mem_cons_of_mem _ hmem
  | case3 d' b' rest year hyear ih => exact (ih h).imp fun b hmem => List.mem_cons_of_mem _ hmem
  | case4 d' b' rest e hne hfail => exact ⟨v, h⟩

theorem recompute_append {cache : List (Date × Bool)}
    (h : (recompute rules negate cache).failure = none) (behind : List (Date × Bool)) :
    (recompute rules negate (cache ++ behind)).cache =
        (recompute rules negate cache).cache ++ (recompute rules negate behind).cache ∧
      (recompute rules negate (cache ++ behind)).failure =
        (recompute rules negate behind).failure := by
  fun_induction recompute rules negate cache with
  | case1 => exact ⟨rfl, rfl⟩
  | case2 d b rest v hv ih =>
    obtain ⟨hcache, hfailure⟩ := ih h
    rw [List.cons_append, recompute_cons_of_ok hv]
    exact ⟨congrArg ((d, v) :: ·) hcache, hfailure⟩
  | case3 d b rest year hyear ih =>
    rw [List.cons_append, recompute_cons_of_miss hyear]
    exact ih h
  | case4 d b rest e hne hfail => simp at h

/-- What ends a refresh early is the first date that fails. The answers before it are recomputed,
and the others are as they were. -/
theorem exists_fatal_of_failure {cache : List (Date × Bool)} {e : EvalError}
    (h : (recompute rules negate cache).failure = some e) :
    ∃ done d b rest, cache = done ++ (d, b) :: rest ∧ (recompute rules negate done).failure = none ∧
      evaluate rules negate d = .error e ∧
      (recompute rules negate cache).cache =
        (recompute rules negate done).cache ++ (d, b) :: rest := by
  fun_induction recompute rules negate cache with
  | case1 => simp at h
  | case2 d b rest v hv ih =>
    obtain ⟨done, d', b', behind, rfl, hdone, hfatal, hcache⟩ := ih h
    refine ⟨(d, b) :: done, d', b', behind, rfl, ?_, hfatal, ?_⟩
    · rw [recompute_cons_of_ok hv]
      exact hdone
    · rw [recompute_cons_of_ok hv]
      exact congrArg ((d, v) :: ·) hcache
  | case3 d b rest year hyear ih =>
    obtain ⟨done, d', b', behind, rfl, hdone, hfatal, hcache⟩ := ih h
    refine ⟨(d, b) :: done, d', b', behind, rfl, ?_, hfatal, ?_⟩
    · rw [recompute_cons_of_miss hyear]
      exact hdone
    · rw [recompute_cons_of_miss hyear]
      exact hcache
  | case4 d b rest e' hne hfail =>
    obtain rfl : e' = e := Option.some.inj h
    exact ⟨[], d, b, rest, rfl, rfl, hfail, rfl⟩

/-- Old answers turned around are recomputed to the new ones turned around. -/
theorem recompute_turned (rules : List Rule) (negate : Bool) (cache : List (Date × Bool)) :
    recompute rules (!negate) (cache.map fun (d, b) => (d, !b)) =
      { recompute rules negate cache with
        cache := (recompute rules negate cache).cache.map fun (d, b) => (d, !b) } := by
  fun_induction recompute rules negate cache with
  | case1 => rfl
  | case2 d b rest v hv ih =>
    rw [List.map_cons, recompute_cons_of_ok (evaluate_not_eq_ok hv), ih]
    rfl
  | case3 d b rest year hyear ih =>
    have hturned : evaluate rules (!negate) d = .error (.easterOutOfTable year) := by
      rw [evaluate_not, hyear]
      rfl
    rw [List.map_cons, recompute_cons_of_miss hturned, ih]
    rfl
  | case4 d b rest e hne hfail =>
    have hturned : evaluate rules (!negate) d = .error e := by
      rw [evaluate_not, hfail]
      rfl
    rw [List.map_cons, recompute_cons_of_fatal hturned hne]

/-- The first of two refreshes can be left out, if neither fails and rules were only put behind. -/
theorem recompute_skip (hmore : rules <+: more) {cache : List (Date × Bool)}
    (hfirst : (recompute rules negate cache).failure = none)
    (hsecond : (recompute more negate (recompute rules negate cache).cache).failure = none) :
    (recompute more negate cache).cache =
        (recompute more negate (recompute rules negate cache).cache).cache ∧
      (recompute more negate cache).failure = none := by
  fun_induction recompute rules negate cache with
  | case1 => exact ⟨rfl, rfl⟩
  | case2 d b rest v hv ih =>
    rw [Refresh.keep_cache] at hsecond ⊢
    cases heval : evaluate more negate d with
    | ok v' =>
      rw [recompute_cons_of_ok heval] at hsecond ⊢
      rw [recompute_cons_of_ok heval]
      obtain ⟨hcache, hfailure⟩ := ih hfirst hsecond
      exact ⟨congrArg ((d, v') :: ·) hcache, hfailure⟩
    | error e =>
      by_cases hmiss : ∃ year, e = .easterOutOfTable year
      · obtain ⟨year, rfl⟩ := hmiss
        rw [recompute_cons_of_miss heval] at hsecond ⊢
        rw [recompute_cons_of_miss heval]
        exact ih hfirst hsecond
      · rw [recompute_cons_of_fatal heval (not_exists.mp hmiss)] at hsecond
        cases hsecond
  | case3 d b rest year hyear ih =>
    rw [recompute_cons_of_miss (evaluate_eq_error_mono hmore hyear)]
    exact ih hfirst hsecond
  | case4 d b rest e hne hfail => simp at hfirst

end Criteria
end DateRules
