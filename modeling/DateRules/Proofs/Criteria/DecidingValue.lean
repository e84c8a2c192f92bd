import DateRules.Proofs.Criteria.Lookup
import DateRules.Proofs.Repetition

/-!
Several values asked for one answer. They are looked up from the left, up to the first one that
settles the matter, and what is kept then is what looking these values up one by one would have
kept.
-/
namespace DateRules.Criteria

/-- A search for `wanted` among `qs` looks `seen` up and comes to the given answer. It ends at the
first value that has the wanted answer or fails; if there is none, it goes through all values. -/
inductive Settles (wanted : Bool) (c : Criteria) :
    (qs seen : List Query) → Except StepError Bool → Prop
  | through {qs : List Query} (passed : ∀ q ∈ qs, (c.contains q).2 = .ok !wanted) :
      Settles wanted c qs qs (.ok !wanted)
  | found {before : List Query} {q : Query} (behind : List Query)
      (passed : ∀ p ∈ before, (c.contains p).2 = .ok !wanted)
      (last : (c.contains q).2 = .ok wanted) :
      Settles wanted c (before ++ q :: behind) (before ++ [q]) (.ok wanted)
  | failed {before : List Query} {q : Query} {e : StepError} (behind : List Query)
      (passed : ∀ p ∈ before, (c.contains p).2 = .ok !wanted)
      (last : (c.contains q).2 = .error e) :
      Settles wanted c (before ++ q :: behind) (before ++ [q]) (.error e)

/-- The rules have an answer for the date, and none is kept. -/
def isUnkept (c : Criteria) (d : Date) : Bool :=
  (c.cache.lookup d).isNone && (anyMatches d c.rules).isOk

/-- `c'` is `c` with new answers behind the old ones: for each of `days` that is unkept in `c` one,
where it comes up first, and each what the rules say. -/
def Learns (c : Criteria) (days : List Date) (c' : Criteria) : Prop :=
  ∃ new, c' = { c with cache := c.cache ++ new } ∧
    KeepsFirsts (· = ·) (days.filter c.isUnkept) (new.map Prod.fst) ∧
    ∀ d b, (d, b) ∈ new → ∃ m, anyMatches d c.rules = .ok m ∧
      (m = true ↔ ∃ r ∈ c.rules, r.matches? d = .ok true) ∧ b = (m ^^ c.negate)

/-- The dates that the values stand for, as far as they stand for one. -/
def datesOf (qs : List Query) : List Date := qs.filterMap fun q => q.toDate.toOption

variable {c c' : Criteria} {wanted : Bool} {qs seen before : List Query} {q : Query} {d : Date}
  {days : List Date} {answer : Except StepError Bool}

theorem exists_settles (wanted : Bool) (c : Criteria) (qs : List Query) :
    ∃ seen answer, Settles wanted c qs seen answer := by
  induction qs with
  | nil => exact ⟨[], _, .through nofun⟩
  | cons q qs ih =>
    cases hq : (c.contains q).2 with
    | error e => exact ⟨[q], .error e, @Settles.failed wanted c [] q e qs nofun hq⟩
    | ok b =>
      by_cases hb : b = wanted
      · subst hb
        exact ⟨[q], .ok b, @Settles.found b c [] q qs nofun hq⟩
      · rw [Bool.eq_not_of_ne hb] at hq
        obtain ⟨seen, answer, h⟩ := ih
        refine ⟨q :: seen, answer, ?_⟩
        cases h with
        | through passed => exact .through (List.forall_mem_cons.mpr ⟨hq, passed⟩)
        | @found before last behind passed hlast =>
          have hpassed : ∀ p ∈ q :: before, (c.contains p).2 = .ok !wanted :=
            List.forall_mem_cons.mpr ⟨hq, passed⟩
          exact @Settles.found wanted c (q :: before) last behind hpassed hlast
        | @failed before last e behind passed hlast =>
          have hpassed : ∀ p ∈ q :: before, (c.contains p).2 = .ok !wanted :=
            List.forall_mem_cons.mpr ⟨hq, passed⟩
          exact @Settles.failed wanted c (q :: before) last e behind hpassed hlast

theorem Looked.contains_eq (h : Looked c c') (q : Query) :
    (c'.contains q).2 = (c.contains q).2 := by
  unfold contains
  cases q.toDate with
  | error e => rfl
  | ok d => exact congrArg (Except.mapError StepError.eval) (h.containsDate_eq d)

theorem looked_after_contains (c : Criteria) (qs : List Query) :
    Looked c (c.after (qs.map .contains)) := by
  refine after_keeps (P := Looked c) (fun s hs c' hlooked => ?_) (looked_refl c)
  obtain ⟨q, -, rfl⟩ := List.mem_map.mp hs
  exact hlooked.trans (looked_query c' rfl)

theorem after_contains_concat (c : Criteria) (qs : List Query) (q : Query) :
    c.after ((qs ++ [q]).map .contains) = ((c.after (qs.map .contains)).contains q).1 := by
  rw [List.map_append, after_append]
  rfl

theorem scan_cons_of_passed (h : (c.contains q).2 = .ok !wanted) (qs : List Query) :
    c.scan wanted (q :: qs) = (c.contains q).1.scan wanted qs := by
  rw [scan]
  generalize c.contains q = looked at h ⊢
  obtain ⟨c', result⟩ := looked
  cases h
  exact if_neg (by cases wanted <;> decide)

theorem scan_cons_of_found (h : (c.contains q).2 = .ok wanted) (qs : List Query) :
    c.scan wanted (q :: qs) = ((c.contains q).1, .ok wanted) := by
  rw [scan]
  generalize c.contains q = looked at h ⊢
  obtain ⟨c', result⟩ := looked
  cases h
  exact if_pos rfl

theorem scan_cons_of_failed {e : StepError} (h : (c.contains q).2 = .error e) (qs : List Query) :
    c.scan wanted (q :: qs) = ((c.contains q).1, .error e) := by
  rw [scan]
  generalize c.contains q = looked at h ⊢
  obtain ⟨c', result⟩ := looked
  cases h
  rfl

theorem scan_append_of_passed (h : ∀ p ∈ before, (c.contains p).2 = .ok !wanted) (qs : List Query) :
    c.scan wanted (before ++ qs) = (c.after (before.map .contains)).scan wanted qs := by
  induction before generalizing c with
  | nil => rfl
  | cons p before ih =>
    obtain ⟨hp, hbefore⟩ := List.forall_mem_cons.mp h
    rw [List.cons_append, scan_cons_of_passed hp]
    -- What is kept for `p` changes no later answer.
    exact ih fun p' hp' => ((looked_contains c p).contains_eq p').trans (hbefore p' hp')

theorem Settles.scan_eq (h : Settles wanted c qs seen answer) :
    c.scan wanted qs = (c.after (seen.map .contains), answer) := by
  cases h with
  | through passed =>
    have hall := scan_append_of_passed passed []
    rwa [List.append_nil] at hall
  | @found before q behind passed last =>
    rw [← (looked_after_contains c before).contains_eq q] at last
    rw [scan_append_of_passed passed, scan_cons_of_found last, after_contains_concat]
  | @failed before q e behind passed last =>
    rw [← (looked_after_contains c before).contains_eq q] at last
    rw [scan_append_of_passed passed, scan_cons_of_failed last, after_contains_concat]

theorem isUnkept_iff : c.isUnkept d = true ↔
    c.cache.lookup d = none ∧ ∃ m, anyMatches d c.rules = .ok m := by
  rw [isUnkept, Bool.and_eq_true, Option.isNone_iff_eq_none]
  refine and_congr_right fun _ => ?_
  cases anyMatches d c.rules with
  | error e => exact ⟨nofun, nofun⟩
  | ok m => exact ⟨fun _ => ⟨m, rfl⟩, fun _ => rfl⟩

theorem Looked.containsDate_of_not_isUnkept (hlooked : Looked c c') (h : c.isUnkept d = false) :
    (c'.containsDate d).1 = c' := by
  obtain ⟨new, -, rfl⟩ := hlooked
  let c' : Criteria := { c with cache := c.cache ++ new }
  change (c'.containsDate d).1 = c'
  cases hkept : c'.cache.lookup d with
  | some b => rw [containsDate_of_kept hkept]
  | none =>
    cases hanswer : evaluate c.rules c.negate d with
    | ok b =>
      obtain ⟨m, hm, -⟩ := evaluate_eq_ok.mp hanswer
      have hold := (Option.or_eq_none_iff.mp (List.lookup_append.symm.trans hkept)).1
      rw [isUnkept_iff.mpr ⟨hold, m, hm⟩] at h
      cases h
    | error e => rw [containsDate_of_error hkept hanswer]

theorem Learns.looked (h : c.Learns days c') : Looked c c' := by
  obtain ⟨new, hstate, -, hanswers⟩ := h
  refine ⟨new, fun d b hmem => ?_, hstate⟩
  obtain ⟨m, hm, -, hb⟩ := hanswers d b hmem
  exact evaluate_eq_ok.mpr ⟨m, hm, hb⟩

theorem Learns.containsDate (h : c.Learns days c') (d : Date) :
    c.Learns (days ++ [d]) (c'.containsDate d).1 := by
  cases hunkept : c.isUnkept d with
  | false =>
    rw [h.looked.containsDate_of_not_isUnkept hunkept]
    obtain ⟨new, hstate, hfirsts, hanswers⟩ := h
    refine ⟨new, hstate, ?_, hanswers⟩
    rwa [List.filter_append, List.filter_cons_of_neg (by simp [hunkept]), List.filter_nil,
      List.append_nil]
  | true =>
    obtain ⟨new, rfl, hfirsts, hanswers⟩ := h
    obtain ⟨hold, m, hm⟩ := isUnkept_iff.mp hunkept
    have hfilter : (days ++ [d]).filter c.isUnkept = days.filter c.isUnkept ++ [d] := by
      rw [List.filter_append, List.filter_cons_of_pos hunkept, List.filter_nil]
    let c' : Criteria := { c with cache := c.cache ++ new }
    change c.Learns (days ++ [d]) (c'.containsDate d).1
    have hlookup : c'.cache.lookup d = new.lookup d := by
      rw [List.lookup_append, hold]
      rfl
    cases hnew : new.lookup d with
    | some b =>
      rw [containsDate_of_kept (hlookup.trans hnew)]
      refine ⟨new, rfl, hfilter ▸ .again hfirsts ⟨d, ?_, rfl⟩, hanswers⟩
      exact hfirsts.mem_iff.mp (List.mem_map_of_mem (mem_of_lookup hnew))
    | none =>
      have hanswer := evaluate_eq_ok.mpr ⟨m, hm, Eq.refl (m ^^ c.negate)⟩
      rw [containsDate_of_ok (hlookup.trans hnew) hanswer]
      refine ⟨new ++ [(d, m ^^ c.negate)], by rw [← List.append_assoc], ?_, fun d' b hmem => ?_⟩
      · rw [hfilter, List.map_append]
        refine .first hfirsts fun day hday hsame => ?_
        obtain ⟨entry, hentry, hdate⟩ := List.mem_map.mp (hfirsts.mem_iff.mpr hday)
        obtain ⟨kept, hkept⟩ := exists_lookup_of_mem hentry
        rw [hdate, ← hsame, hnew] at hkept
        cases hkept
      · rcases List.mem_append.mp hmem with hmem | hmem
        · exact hanswers d' b hmem
        · cases List.mem_singleton.mp hmem
          exact ⟨m, hm, anyMatches_true_iff hm, rfl⟩

theorem datesOf_concat (qs : List Query) (q : Query) :
    datesOf (qs ++ [q]) = datesOf qs ++ q.toDate.toOption.toList := by
  rw [datesOf, List.filterMap_append, List.filterMap_cons, List.filterMap_nil]
  cases q.toDate with
  | error e => rfl
  | ok d => rfl

theorem learns_after_contains (c : Criteria) (qs : List Query) :
    c.Learns (datesOf qs) (c.after (qs.map .contains)) := by
  -- From the end, since what a value adds depends on the values before it.
  induction qs using List.reverseRecOn with
  | nil => exact ⟨[], by simp [after], .nil, nofun⟩
  | append_singleton qs q ih =>
    rw [after_contains_concat, datesOf_concat, contains]
    cases q.toDate with
    | error e => exact (List.append_nil (datesOf qs)).symm ▸ ih
    | ok d => exact ih.containsDate d

/-- The result of a search for `wanted`. The values up to the one that settles it are looked up,
which leaves what looking them up one by one leaves; on the way each has the answer that it has in
`c`. -/
def IsSearch (wanted : Bool) (c : Criteria) (qs : List Query)
    (result : Criteria × Except StepError Bool) : Prop :=
  ∃ seen, Settles wanted c qs seen result.2 ∧ result.1 = c.after (seen.map .contains) ∧
    c.Learns (datesOf seen) result.1 ∧
    ∀ before q, before ++ [q] <+: seen →
      ((c.after (before.map .contains)).contains q).2 = (c.contains q).2

theorem isSearch_scan (wanted : Bool) (c : Criteria) (qs : List Query) :
    IsSearch wanted c qs (c.scan wanted qs) := by
  obtain ⟨seen, answer, h⟩ := exists_settles wanted c qs
  rw [h.scan_eq]
  exact ⟨seen, h, rfl, learns_after_contains c seen,
    fun before q _ => (looked_after_contains c before).contains_eq q⟩

/-- Whether one of several values is in criteria is settled by the first that is or fails, and
whether all are by the first that is not or fails. No value behind it is looked up. -/
theorem batch_is_looked_up_to_the_deciding_value (c : Criteria) (qs : List Query) :
    IsSearch true c qs (c.containsAny qs) ∧ IsSearch false c qs (c.containsAll qs) :=
  ⟨isSearch_scan true c qs, isSearch_scan false c qs⟩

end DateRules.Criteria
