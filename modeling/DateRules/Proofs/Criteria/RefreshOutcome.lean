import DateRules.Proofs.Criteria.Refresh
import DateRules.Proofs.Criteria.Run
import DateRules.Proofs.TableMiss

/-!
What a refresh leaves behind, whether it comes to its end or not. It goes through the kept dates in
order: those before the first fatal one are answered anew or dropped, and the rest is not touched.
-/
namespace DateRules.Criteria

section
variable (c : Criteria)

def answer? (d : Date) : Option Bool :=
  match anyMatches d c.rules with
  | .ok found => some (found ^^ c.negate)
  | .error _ => none

/-- The rules fail for `d` because the year is not in the table. -/
def misses (d : Date) : Bool :=
  match anyMatches d c.rules with
  | .error (.easterOutOfTable _) => true
  | _ => false

/-- The rules fail for `d` in any other way, which a refresh does not survive. -/
def isFatal (d : Date) : Bool :=
  match anyMatches d c.rules with
  | .error (.easterOutOfTable _) => false
  | .error _ => true
  | .ok _ => false

/-- The dates that have an answer, each with the present one. -/
def answered (entries : List (Date × Bool)) : List (Date × Bool) :=
  entries.filterMap fun (d, _) => (c.answer? d).map (d, ·)

/-- One record for each date that is missed. -/
def missed (entries : List (Date × Bool)) : List Eviction :=
  ((entries.map Prod.fst).filter c.misses).map fun d => ⟨d, d.year⟩

end

variable {c : Criteria} {d : Date} {b : Bool} {entries rest : List (Date × Bool)}

theorem answered_missed_or_fatal (c : Criteria) (d : Date) :
    (∃ v, c.answer? d = some v ∧ c.misses d = false ∧ evaluate c.rules c.negate d = .ok v) ∨
      (c.answer? d = none ∧ c.misses d = true ∧
        evaluate c.rules c.negate d = .error (.easterOutOfTable d.year)) ∨
      c.isFatal d = true := by
  unfold answer? misses isFatal evaluate
  cases hmatch : anyMatches d c.rules with
  | ok found => exact .inl ⟨found ^^ c.negate, rfl, rfl, rfl⟩
  | error e =>
    cases e with
    | easterOutOfTable year =>
      obtain ⟨rfl, -⟩ := anyMatches_tellsYear hmatch year rfl
      exact .inr (.inl ⟨rfl, rfl, rfl⟩)
    | _ => exact .inr (.inr rfl)

theorem isFatal_iff : c.isFatal d = true ↔
    ∃ e, anyMatches d c.rules = .error e ∧ ∀ year, e ≠ .easterOutOfTable year := by
  unfold isFatal
  cases anyMatches d c.rules with
  | ok found => simp
  | error e => cases e <;> simp

theorem year_of_misses (h : c.misses d = true) : d.year < 1900 ∨ 2099 < d.year := by
  unfold misses at h
  split at h
  · rename_i year hmatch
    exact (anyMatches_tellsYear hmatch year rfl).2
  · cases h

/-- What is left of the refresh once it is done with `entries`. -/
theorem recompute_append_of_not_fatal (h : ∀ entry ∈ entries, c.isFatal entry.1 = false)
    (rest : List (Date × Bool)) :
    recompute c.rules c.negate (entries ++ rest) =
      ⟨c.answered entries ++ (recompute c.rules c.negate rest).cache,
        c.missed entries ++ (recompute c.rules c.negate rest).evictions,
        (recompute c.rules c.negate rest).failure⟩ := by
  induction entries with
  | nil => rfl
  | cons entry entries ih =>
    obtain ⟨d, b⟩ := entry
    obtain ⟨hd, hentries⟩ := List.forall_mem_cons.mp h
    rcases c.answered_missed_or_fatal d with ⟨v, hanswer, hnot, heval⟩ |
      ⟨hnone, hmiss, heval⟩ | hfatal
    · rw [List.cons_append, recompute_cons_of_ok heval, ih hentries]
      simp [Refresh.keep, answered, missed, hanswer, hnot]
    · rw [List.cons_append, recompute_cons_of_miss heval, ih hentries]
      simp [Refresh.evict, answered, missed, hnone, hmiss]
    · rw [hd] at hfatal
      cases hfatal

theorem refresh_of_not_fatal (h : ∀ entry ∈ c.cache, c.isFatal entry.1 = false) :
    c.refresh = ({ c with cache := c.answered c.cache }, c.missed c.cache, .ok ()) := by
  have hall := recompute_append_of_not_fatal h []
  rw [List.append_nil] at hall
  unfold refresh
  rw [hall]
  simp [recompute]

theorem refresh_of_fatal (hcache : c.cache = entries ++ (d, b) :: rest)
    (h : ∀ entry ∈ entries, c.isFatal entry.1 = false) {e : EvalError}
    (hmatch : anyMatches d c.rules = .error e) (he : ∀ year, e ≠ .easterOutOfTable year) :
    c.refresh =
      ({ c with cache := c.answered entries ++ (d, b) :: rest }, c.missed entries, .error e) := by
  have hfatal : evaluate c.rules c.negate d = .error e := map_eq_error_iff.mpr hmatch
  unfold refresh
  rw [hcache, recompute_append_of_not_fatal h, recompute_cons_of_fatal hfatal he]
  simp

/-- An answer says whether a rule matches, or, under negation, whether none does. -/
theorem answered_spec {entry : Date × Bool} (h : entry ∈ c.answered entries) :
    ∃ found, anyMatches entry.1 c.rules = .ok found ∧
      (found = true ↔ ∃ r ∈ c.rules, r.matches? entry.1 = .ok true) ∧
      entry.2 = (found ^^ c.negate) := by
  obtain ⟨⟨d, b⟩, -, hentry⟩ := List.mem_filterMap.mp h
  obtain ⟨v, hanswer, rfl⟩ := Option.map_eq_some_iff.mp hentry
  unfold answer? at hanswer
  split at hanswer
  · rename_i found hmatch
    cases hanswer
    exact ⟨found, hmatch, anyMatches_true_iff hmatch, rfl⟩
  · cases hanswer

theorem allFresh_answered (c : Criteria) (entries : List (Date × Bool)) :
    AllFresh c.rules c.negate (c.answered entries) := by
  intro d v hmem
  obtain ⟨found, hmatch, -, hv⟩ := answered_spec hmem
  exact evaluate_eq_ok.mpr ⟨found, hmatch, hv⟩

theorem year_of_missed {e : Eviction} (h : e ∈ c.missed entries) :
    e.date.year < 1900 ∨ 2099 < e.date.year := by
  obtain ⟨d, hd, rfl⟩ := List.mem_map.mp h
  exact year_of_misses (List.mem_filter.mp hd).2

theorem exists_first_fatal (h : ∃ entry ∈ c.cache, c.isFatal entry.1 = true) :
    ∃ done d b rest, c.cache = done ++ (d, b) :: rest ∧
      (∀ entry ∈ done, c.isFatal entry.1 = false) ∧ c.isFatal d = true := by
  obtain ⟨entry, hmem, hfatal⟩ := h
  cases hfound : c.cache.find? fun entry => c.isFatal entry.1 with
  | none => exact absurd hfatal (List.find?_eq_none.mp hfound entry hmem)
  | some entry =>
    obtain ⟨d, b⟩ := entry
    obtain ⟨hd, done, rest, hcache, hdone⟩ := List.find?_eq_some_iff_append.mp hfound
    exact ⟨done, d, b, rest, hcache, by simpa using hdone, hd⟩

/-- If no kept date is fatal, a refresh comes to its end: it keeps the dates that have an answer, in
their order and with the present answer, and records each of the others, of a year outside the
table. A second refresh has nothing left to do. Otherwise it fails like the first fatal date. What
comes before that date is refreshed in the same way, and the date and all behind it are as they
were. -/
theorem refresh_is_exact_down_to_the_first_fatal_date (c : Criteria) :
    ((∀ entry ∈ c.cache, c.isFatal entry.1 = false) →
      c.refresh = ({ c with cache := c.answered c.cache }, c.missed c.cache, .ok ()) ∧
      c.refresh.1.refresh = (c.refresh.1, [], .ok ())) ∧
    ((∃ entry ∈ c.cache, c.isFatal entry.1 = true) →
      ∃ done d b rest e, c.cache = done ++ (d, b) :: rest ∧
        (∀ entry ∈ done, c.isFatal entry.1 = false) ∧
        anyMatches d c.rules = .error e ∧ (∀ year, e ≠ .easterOutOfTable year) ∧
        c.refresh =
          ({ c with cache := c.answered done ++ (d, b) :: rest }, c.missed done, .error e)) ∧
    ∀ entries,
      (∀ entry ∈ c.answered entries, ∃ found,
        (found = true ↔ ∃ r ∈ c.rules, r.matches? entry.1 = .ok true) ∧
        entry.2 = (found ^^ c.negate)) ∧
      ∀ e ∈ c.missed entries, e.date.year < 1900 ∨ 2099 < e.date.year := by
  refine ⟨fun h => ?_, fun h => ?_, fun entries => ⟨fun entry hmem => ?_, fun e => year_of_missed⟩⟩
  · have hrefresh := refresh_of_not_fatal h
    refine ⟨hrefresh, ?_⟩
    rw [hrefresh]
    change ({ c with cache := _ }, _, _) = _
    rw [recompute_of_allFresh (c.allFresh_answered c.cache)]
  · obtain ⟨done, d, b, rest, hcache, hdone, hd⟩ := exists_first_fatal h
    obtain ⟨e, hmatch, he⟩ := isFatal_iff.mp hd
    exact ⟨done, d, b, rest, e, hcache, hdone, hmatch, he, refresh_of_fatal hcache hdone hmatch he⟩
  · obtain ⟨found, -, hfound, hentry⟩ := answered_spec hmem
    exact ⟨found, hfound, hentry⟩

/-- The table drops 1 January 2100, and 1 January 1 has no day before it. -/
theorem refresh_before_and_at_the_first_day :
    let new : Step := .addRules (.items [.text "Date - 1 == 2022-01-02", .text "Date == Easter"])
    let asked : List Step :=
      [.contains (.date ⟨2022, 1, 3, by decide⟩), .contains (.date ⟨2100, 1, 1, by decide⟩)]
    let last : Step := .contains (.date ⟨1, 1, 1, by decide⟩)
    ∃ c₀, create false false (.items [.text "day == 5"]) = .ok c₀ ∧
      let c := c₀.after (asked ++ [new])
      let c' := c₀.after (asked ++ [last, new])
      ((c.missed c.cache).length = 1 ∧ (∀ entry ∈ c.cache, c.isFatal entry.1 = false) ∧
        c.refresh = ({ c with cache := c.answered c.cache }, c.missed c.cache, .ok ()) ∧
        c.refresh.1.refresh = (c.refresh.1, [], .ok ())) ∧
      (∃ entry ∈ c'.cache, c'.isFatal entry.1 = true) ∧
        ∃ done d b rest e, c'.cache = done ++ (d, b) :: rest ∧
          (∀ entry ∈ done, c'.isFatal entry.1 = false) ∧
          anyMatches d c'.rules = .error e ∧ (∀ year, e ≠ .easterOutOfTable year) ∧
          c'.refresh = ({ c' with cache := c'.answered done ++ (d, b) :: rest },
            c'.missed done, .error e) := by
  intro new asked last
  obtain ⟨c₀, hcreate, htest⟩ :
      ∃ c₀, create false false (.items [.text "day == 5"]) = .ok c₀ ∧
        (let c := c₀.after (asked ++ [new])
        let c' := c₀.after (asked ++ [last, new])
        (c.missed c.cache).length == 1 && c.cache.all (fun entry => c.isFatal entry.1 == false) &&
          c'.cache.any fun entry => c'.isFatal entry.1) = true :=
    exists_ok_of_any (by decide +kernel)
  simp only [Bool.and_eq_true, List.all_eq_true, List.any_eq_true, beq_iff_eq] at htest
  obtain ⟨⟨hmissed, hunfatal⟩, hfatal⟩ := htest
  exact ⟨c₀, hcreate,
    ⟨hmissed, hunfatal, (refresh_is_exact_down_to_the_first_fatal_date _).1 hunfatal⟩, hfatal,
    (refresh_is_exact_down_to_the_first_fatal_date _).2.1 hfatal⟩

end DateRules.Criteria
