import DateRules.Criteria.Step

/-!
What criteria answer by their rules alone, and what a refresh makes of kept answers. A kept answer
is recomputed, dropped, or, once the refresh has failed, left as it was.
-/
namespace DateRules

theorem anyMatches_cons_eq_ok {d : Date} {r : Rule} {rs : List Rule} {m : Bool} :
    anyMatches d (r :: rs) = .ok m ↔
      (r.matches? d = .ok true ∧ m = true) ∨
        (r.matches? d = .ok false ∧ anyMatches d rs = .ok m) := by
  rw [anyMatches]
  cases hmatch : r.matches? d with
  | error e => simp [bind, Except.bind]
  | ok b =>
    cases b
    · simp [bind, Except.bind]
    · simp [bind, Except.bind, pure, Except.pure, eq_comm]

/-- Rules that have an answer have the expected one. -/
theorem anyMatches_true_iff {d : Date} {rs : List Rule} {m : Bool} (h : anyMatches d rs = .ok m) :
    m = true ↔ ∃ r ∈ rs, r.matches? d = .ok true := by
  induction rs with
  | nil =>
    cases h
    simp
  | cons r rs ih =>
    rcases anyMatches_cons_eq_ok.mp h with ⟨hhead, rfl⟩ | ⟨hhead, htail⟩
    · simp [hhead]
    · simp [hhead, ih htail]

namespace Criteria

theorem evaluate_eq_ok {rules : List Rule} {negate : Bool} {d : Date} {b : Bool} :
    evaluate rules negate d = .ok b ↔ ∃ m, anyMatches d rules = .ok m ∧ b = (m ^^ negate) := by
  unfold evaluate
  cases anyMatches d rules with
  | error e => simp [Functor.map, Except.map]
  | ok m => simp [Functor.map, Except.map, eq_comm]

/-- A change of negation turns answers around and leaves failures alone. -/
theorem evaluate_not (rules : List Rule) (negate : Bool) (d : Date) :
    evaluate rules (!negate) d = Bool.not <$> evaluate rules negate d := by
  unfold evaluate
  cases anyMatches d rules with
  | error e => rfl
  | ok m => simp [Functor.map, Except.map]

theorem evaluate_not_eq_ok {rules : List Rule} {negate : Bool} {d : Date} {b : Bool}
    (h : evaluate rules negate d = .ok b) : evaluate rules (!negate) d = .ok !b := by
  rw [evaluate_not, h]
  rfl

/-- Every kept answer is what the rules say now. -/
def AllFresh (rules : List Rule) (negate : Bool) (cache : List (Date × Bool)) : Prop :=
  ∀ d b, (d, b) ∈ cache → evaluate rules negate d = .ok b

theorem allFresh_iff {rules : List Rule} {negate : Bool} {cache : List (Date × Bool)} :
    AllFresh rules negate cache ↔
      ∀ entry ∈ cache, (evaluate rules negate entry.1).toOption = some entry.2 := by
  have hanswer : ∀ d b,
      (evaluate rules negate d).toOption = some b ↔ evaluate rules negate d = .ok b := by
    intro d b
    cases evaluate rules negate d <;> simp [Except.toOption]
  simp only [AllFresh, Prod.forall, hanswer]

instance (rules : List Rule) (negate : Bool) (cache : List (Date × Bool)) :
    Decidable (AllFresh rules negate cache) :=
  decidable_of_iff' _ allFresh_iff

theorem recompute_entry {rules : List Rule} {negate : Bool} {cache : List (Date × Bool)} {d : Date}
    {b : Bool} (h : (d, b) ∈ (recompute rules negate cache).cache) :
    evaluate rules negate d = .ok b ∨
      (d, b) ∈ cache ∧ (recompute rules negate cache).failure ≠ none := by
  fun_induction recompute rules negate cache with
  | case1 => simp at h
  | case2 d' b' rest v hv ih =>
    rcases List.mem_cons.mp h with heq | htail
    · cases heq
      exact .inl hv
    · exact (ih htail).imp_right fun hold => ⟨List.mem_cons_of_mem _ hold.1, hold.2⟩
  | case3 d' b' rest year hmiss ih =>
    exact (ih h).imp_right fun hold => ⟨List.mem_cons_of_mem _ hold.1, hold.2⟩
  | case4 d' b' rest e hne hfail => exact .inr ⟨h, by simp⟩

/-- A refresh that comes to its end leaves no old answer. -/
theorem allFresh_recompute {rules : List Rule} {negate : Bool} {cache : List (Date × Bool)}
    (h : (recompute rules negate cache).failure = none) :
    AllFresh rules negate (recompute rules negate cache).cache := by
  intro d b hentry
  exact (recompute_entry hentry).resolve_right fun hold => hold.2 h

/-- What ends a refresh early is the failure of a kept date, and no table miss. -/
theorem recompute_failure {rules : List Rule} {negate : Bool} {cache : List (Date × Bool)}
    {e : EvalError} (h : (recompute rules negate cache).failure = some e) :
    (∃ entry ∈ cache, evaluate rules negate entry.1 = .error e) ∧
      ∀ year, e ≠ .easterOutOfTable year := by
  fun_induction recompute rules negate cache with
  | case1 => simp at h
  | case2 d b rest v hv ih =>
    obtain ⟨⟨entry, hmem, hentry⟩, hmiss⟩ := ih h
    exact ⟨⟨entry, List.mem_cons_of_mem _ hmem, hentry⟩, hmiss⟩
  | case3 d b rest year hyear ih =>
    obtain ⟨⟨entry, hmem, hentry⟩, hmiss⟩ := ih h
    exact ⟨⟨entry, List.mem_cons_of_mem _ hmem, hentry⟩, hmiss⟩
  | case4 d b rest e' hne hfail =>
    cases h
    exact ⟨⟨(d, b), List.mem_cons_self, hfail⟩, fun year heq => hne year heq⟩

end Criteria
end DateRules
