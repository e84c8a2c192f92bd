import DateRules.Proofs.Rule.Identity
import DateRules.Proofs.RuleSource

/-!
The store of rules as a function of what was handed in. Each addition drops the rules that equal one
that is stored, and the store that comes of it is the one that dropping repetitions from the whole
history leaves, because equality of rules is an equivalence.
-/
namespace DateRules

/-- The constraints of a source in the order of its clauses, or of the list that a compiled rule was
made from. -/
def RuleSource.Lists (source : RuleSource) (written : List Constraint) : Prop :=
  match source with
  | compiled r => r = Rule.ofConstraints written r.negate r.name
  | source => ∃ text, source.text? = some text ∧ Constraint.parseAll text = .ok written

def RuleBatch.initial (batch : RuleBatch) : List Rule :=
  if batch.isSet then batch.compile.toOption.getD [] else []

/-- The rules that a step hands in; none if one of its sources does not compile. -/
def Step.added (s : Step) : List Rule := s.newRules?.getD []

variable {source : RuleSource} {negate : Bool} {name : String} {r : Rule}

theorem RuleSource.exists_lists (h : source.compile negate name = .ok r)
    (hbuilt : source = .compiled r → ∃ written, r = Rule.ofConstraints written r.negate r.name) :
    ∃ written, source.Lists written ∧ r.constraints = written.eraseDups := by
  rcases compile_eq_ok h with rfl | ⟨text, negate', name', htext, hparse⟩
  · obtain ⟨written, hr⟩ := hbuilt rfl
    exact ⟨written, hr, congrArg Rule.constraints hr⟩
  · obtain ⟨written, hall, hr⟩ := bind_eq_ok_iff.mp hparse
    cases hr
    refine ⟨written, ?_, rfl⟩
    cases source with
    | compiled r' => cases htext
    | text s => exact ⟨text, htext, hall⟩
    | data v => exact ⟨text, htext, hall⟩

theorem Step.exists_given_of_added {s : Step} (h : r ∈ s.added) :
    ∃ source ∈ s.given, ∃ negate name, source.compile negate name = .ok r := by
  unfold added at h
  cases hnew : s.newRules? with
  | none =>
    rw [hnew] at h
    cases h
  | some new =>
    rw [hnew] at h
    exact Step.exists_given hnew h

namespace Criteria

variable {c : Criteria}

theorem rules_run_eq_eraseDups (h : Distinct c.rules) (s : Step) :
    (c.run s).state.rules = (c.rules ++ s.added).eraseDups := by
  rw [rules_run, Step.added]
  cases s.newRules? with
  | none => rw [Option.getD_none, List.append_nil, eraseDups_of_distinct h]
  | some new => rfl

theorem rules_after_eq_eraseDups (h : Distinct c.rules) (steps : List Step) :
    (c.after steps).rules = (c.rules ++ steps.flatMap Step.added).eraseDups := by
  induction steps generalizing c with
  | nil =>
    rw [List.flatMap_nil, List.append_nil, eraseDups_of_distinct h]
    rfl
  | cons s ss ih =>
    -- What this step drops, the rest of the history would drop as well.
    rw [after, ih (distinct_rules_run h s), rules_run_eq_eraseDups h s, eraseDups_eraseDups_append,
      List.flatMap_cons, List.append_assoc]

theorem rules_create {auto : Bool} {batch : RuleBatch} (h : create negate auto batch = .ok c) :
    c.rules = batch.initial.eraseDups := by
  obtain ⟨rules, rfl, hset, hunset⟩ := create_eq_ok h
  unfold RuleBatch.initial
  cases hisSet : batch.isSet with
  | true => rw [hset hisSet]; rfl
  | false => rw [hunset (by rw [hisSet]; rfl)]; rfl

theorem rules_of_history {auto : Bool} {batch : RuleBatch} (h : create negate auto batch = .ok c)
    (steps : List Step) :
    (c.after steps).rules = (batch.initial ++ steps.flatMap Step.added).eraseDups := by
  have hrules := rules_create h
  have hdistinct : Distinct c.rules := by
    rw [hrules]
    exact distinct_eraseDups _
  rw [rules_after_eq_eraseDups hdistinct, hrules, eraseDups_eraseDups_append]

theorem pairwise_not_isSame (h : Distinct c.rules) : c.rules.Pairwise fun r s => ¬r.IsSame s :=
  h.imp fun {r s} hne (hsame : r.IsSame s) =>
    Bool.eq_false_iff.mp hne (Rule.beq_iff.mpr hsame.symm)

theorem keepsFirsts_rules (history : List Rule) :
    KeepsFirsts Rule.IsSame history history.eraseDups := by
  simpa only [Rule.beq_iff] using keepsFirsts_eraseDups history

theorem keepsFirsts_constraints (written : List Constraint) :
    KeepsFirsts (fun a b => a.key = b.key) written written.eraseDups := by
  simpa only [Constraint.beq_iff_key] using keepsFirsts_eraseDups written

theorem exists_source {auto : Bool} {batch : RuleBatch} (h : create negate auto batch = .ok c)
    {steps : List Step} (hr : r ∈ (c.after steps).rules) :
    ∃ source ∈ batch.given ++ steps.flatMap Step.given,
      ∃ negate name, source.compile negate name = .ok r := by
  rw [rules_of_history h steps] at hr
  rcases List.mem_append.mp (mem_of_mem_eraseDups hr) with hinitial | hadded
  · obtain ⟨rules, -, hset, -⟩ := create_eq_ok h
    cases hisSet : batch.isSet with
    | false => simp [RuleBatch.initial, hisSet] at hinitial
    | true =>
      have hcompile := hset hisSet
      simp only [RuleBatch.initial, hisSet, if_true, hcompile, Except.toOption,
        Option.getD_some] at hinitial
      obtain ⟨source, hmem, hsource⟩ := RuleBatch.exists_given hcompile hinitial
      exact ⟨source, List.mem_append_left _ hmem, false, "", hsource⟩
  · obtain ⟨s, hs, hr⟩ := List.mem_flatMap.mp hadded
    obtain ⟨source, hmem, hsource⟩ := Step.exists_given_of_added hr
    exact ⟨source, List.mem_append_right _ (List.mem_flatMap.mpr ⟨s, hs, hmem⟩), hsource⟩

/-- The rules of `c` are those that were handed in, made from `sources`, with the first of each that
are equal. -/
structure StoresHistory (c : Criteria) (sources : List RuleSource) (handedIn : List Rule) :
    Prop where
  firsts : KeepsFirsts Rule.IsSame handedIn c.rules
  distinct : c.rules.Pairwise fun r s => ¬r.IsSame s
  grows (s : Step) : c.rules <+: (c.run s).state.rules
  unchanged (s : Step) : s.added = [] → (c.run s).state.rules = c.rules
  constraints : ∀ r ∈ c.rules, (r.constraints.Pairwise fun a b => a.key ≠ b.key) ∧
    ∃ source ∈ sources, ∃ negate name written,
      source.compile negate name = .ok r ∧ source.Lists written ∧
      KeepsFirsts (fun a b => a.key = b.key) written r.constraints

/-- After any run the store is the history of the rules that were handed in, those of failed
refreshes included, with the first of each that are equal. No step does more to it than to put new
rules behind, and one that adds none leaves it as it is. A stored rule holds of the constraints of
its source, in their order, the first of each that are equal. -/
theorem store_holds_the_first_of_equal_rules {auto : Bool} {batch : RuleBatch}
    (hcreate : create negate auto batch = .ok c) (steps : List Step)
    (hbuilt : ∀ r, .compiled r ∈ batch.given ++ steps.flatMap Step.given →
      ∃ written, r = Rule.ofConstraints written r.negate r.name) :
    (c.after steps).StoresHistory (batch.given ++ steps.flatMap Step.given)
      (batch.initial ++ steps.flatMap Step.added) := by
  have hrules := rules_of_history hcreate steps
  have hdistinct : Distinct (c.after steps).rules := by
    rw [hrules]
    exact distinct_eraseDups _
  refine ⟨?_, pairwise_not_isSame hdistinct, fun s => ?_, fun s hnone => ?_, fun r hr => ?_⟩
  · rw [hrules]
    exact keepsFirsts_rules _
  · rw [rules_run_eq_eraseDups hdistinct]
    exact prefix_eraseDups_append hdistinct s.added
  · rw [rules_run_eq_eraseDups hdistinct, hnone, List.append_nil, eraseDups_of_distinct hdistinct]
  · obtain ⟨source, hmem, negate, name, hcompile⟩ := exists_source hcreate hr
    obtain ⟨written, hlists, heq⟩ :=
      RuleSource.exists_lists hcompile fun hsource => hbuilt r (hsource ▸ hmem)
    refine ⟨?_, source, hmem, negate, name, written, hcompile, hlists, ?_⟩
    · rw [heq]
      refine (distinct_eraseDups written).imp fun hne hkey => ?_
      exact Bool.eq_false_iff.mp hne (Constraint.beq_iff_key.mpr hkey.symm)
    · rw [heq]
      exact keepsFirsts_constraints written

/-- Equal rules in another order of clauses, a source that does not compile, a rule that was
compiled before and repeats a constraint, and a refresh that leaves the calendar at the kept day. -/
theorem store_of_five_different_rules :
    let month (written : String) : Constraint :=
      ⟨⟨written, .quantity .month⟩, .eq, ⟨"3", .constant (.integer 3)⟩⟩
    let batch : RuleBatch := .items
      [.text "day == 1; month == 2", .text "MONTH == 2; day == 1; day == 1", .text "month == 2"]
    let steps : List Step := [.contains (.date ⟨1, 1, 1, by decide⟩),
      .addRule (.text "day = 2") false "",
      .addRules (.items [.text "Month==2",
        .compiled (.ofConstraints [month "month", month "MONTH"] false "march"),
        .text "Date - 1 == 2022-01-02"]),
      .setNegate true, .addRule (.text "date - 1 == 2022-01-02") false "",
      .addRule (.text "month == 2") true ""]
    ∃ c, create false true batch = .ok c ∧
      ((c.runAll steps).map fun r => r.answer.isOk) = [true, false, false, true, false, false] ∧
      (c.after steps).rules.length = 5 ∧
      (c.after steps).StoresHistory (batch.given ++ steps.flatMap Step.given)
        (batch.initial ++ steps.flatMap Step.added) := by
  intro month batch steps
  obtain ⟨c, hcreate, htest⟩ :
      ∃ c, create false true batch = .ok c ∧
        (((c.runAll steps).map fun r => r.answer.isOk) ==
            [true, false, false, true, false, false] &&
          (c.after steps).rules.length == 5) = true :=
    exists_ok_of_any (by decide +kernel)
  obtain ⟨hanswers, hlength⟩ := Bool.and_eq_true_iff.mp htest
  refine ⟨c, hcreate, eq_of_beq hanswers, eq_of_beq hlength,
    store_holds_the_first_of_equal_rules hcreate steps fun r hmem => ?_⟩
  obtain rfl : r = .ofConstraints [month "month", month "MONTH"] false "march" := by
    simpa [batch, steps, RuleBatch.given, RuleBatch.sources, Except.toOption, Step.given] using hmem
  exact ⟨_, rfl⟩

end Criteria
end DateRules
