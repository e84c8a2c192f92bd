import DateRules.Proofs.Criteria.History
import DateRules.Proofs.Criteria.Refresh
import DateRules.Proofs.Rule.Conjunction

/-!
Rules in another order, and rules that are there more than once. Which of two equal rules comes
first can decide whether a date has an answer at all, because the rules behind one that matches are
not asked. It never decides which answer that is. A rule that equals an earlier one need not be
kept: wherever all of the rules have an answer, so have the first of each that are equal.
-/
namespace DateRules

variable {d : Date} {rs ss : List Rule}

/-- The same rules in any order and number, each with its constraints in any order, number and
letter case. -/
structure SameRules (rs ss : List Rule) : Prop where
  left : ∀ r ∈ rs, ∃ s ∈ ss, r.IsSame s
  right : ∀ s ∈ ss, ∃ r ∈ rs, s.IsSame r

instance (rs ss : List Rule) : Decidable (SameRules rs ss) :=
  decidable_of_iff
    ((∀ r ∈ rs, ∃ s ∈ ss, (r == s) = true) ∧ ∀ s ∈ ss, ∃ r ∈ rs, (s == r) = true) <| by
    simp only [Rule.beq_iff]
    exact ⟨fun ⟨hleft, hright⟩ => ⟨hleft, hright⟩, fun ⟨hleft, hright⟩ => ⟨hleft, hright⟩⟩

theorem SameRules.symm (h : SameRules rs ss) : SameRules ss rs := ⟨h.right, h.left⟩

namespace Rule

variable {r s : Rule}

theorem IsSame.exists_constraint (h : r.IsSame s) (hr : r.IsCompiled) (hs : s.IsCompiled)
    {c : Constraint} (hc : c ∈ r.constraints) (d : Date) :
    ∃ c' ∈ s.constraints, c'.eval d = c.eval d := by
  obtain ⟨c', hc', hkey⟩ := (h.keys_iff c.key).mp ⟨c, hc, rfl⟩
  exact ⟨c', hc', (hs c' hc').eval_eq_of_beq (hr c hc) (Constraint.beq_iff_key.mpr hkey) d⟩

theorem IsSame.allHold (h : r.IsSame s) (hr : r.IsCompiled) (hs : s.IsCompiled)
    (hholds : allHold d s.constraints = .ok true) : allHold d r.constraints = .ok true := by
  rw [allHold_eq_ok_true_iff] at hholds ⊢
  intro c hc
  obtain ⟨c', hc', heval⟩ := h.exists_constraint hr hs hc d
  rw [← heval]
  exact hholds c' hc'

theorem matches_eq_ok_iff {m : Bool} :
    r.matches? d = .ok m ↔ ∃ b, allHold d r.constraints = .ok b ∧ m = (b ^^ r.negate) := by
  unfold matches?
  rw [bind_eq_ok_iff]
  exact exists_congr fun b => and_congr_right fun _ => ok_eq_ok_iff

theorem IsSame.matches_eq (h : r.IsSame s) (hr : r.IsCompiled) (hs : s.IsCompiled) {m m' : Bool}
    (hm : r.matches? d = .ok m) (hm' : s.matches? d = .ok m') : m = m' := by
  obtain ⟨b, hb, rfl⟩ := matches_eq_ok_iff.mp hm
  obtain ⟨b', hb', rfl⟩ := matches_eq_ok_iff.mp hm'
  have hleft : b' = true → b = true := by
    rintro rfl
    exact Except.ok.inj (hb.symm.trans (h.allHold hr hs hb'))
  have hright : b = true → b' = true := by
    rintro rfl
    exact Except.ok.inj (hb'.symm.trans (h.symm.allHold hs hr hb))
  rw [h.negate_eq, Bool.eq_iff_iff.mpr ⟨hright, hleft⟩]

theorem exists_eval_eq_error_of_matches {e : EvalError} (h : r.matches? d = .error e) :
    ∃ c ∈ r.constraints, c.eval d = .error e := by
  rcases bind_eq_error_iff.mp h with hconstraints | ⟨b, -, hdone⟩
  · exact allHold_eq_error hconstraints
  · cases hdone

end Rule

theorem anyMatches_eq_ok_false_iff :
    anyMatches d rs = .ok false ↔ ∀ r ∈ rs, r.matches? d = .ok false := by
  induction rs with
  | nil => simp [anyMatches]
  | cons r rs ih =>
    rw [anyMatches_cons_eq_ok, List.forall_mem_cons, ih]
    exact or_iff_right fun h => Bool.false_ne_true h.2

theorem exists_anyMatches_of_all_return
    (h : ∀ r ∈ rs, ∀ c ∈ r.constraints, ∃ b, c.eval d = .ok b) : ∃ m, anyMatches d rs = .ok m := by
  cases hm : anyMatches d rs with
  | ok m => exact ⟨m, rfl⟩
  | error e =>
    obtain ⟨r, hr, hmatches⟩ := anyMatches_eq_error hm
    obtain ⟨c, hc, herror⟩ := Rule.exists_eval_eq_error_of_matches hmatches
    obtain ⟨b, hb⟩ := h r hr c hc
    cases hb.symm.trans herror

section
variable (hrs : ∀ r ∈ rs, r.IsCompiled) (hss : ∀ s ∈ ss, s.IsCompiled)
include hrs hss

theorem SameRules.eq_true (h : SameRules rs ss) {m : Bool} (hrules : anyMatches d rs = .ok true)
    (hm : anyMatches d ss = .ok m) : m = true := by
  obtain ⟨r, hr, hmatches⟩ := (anyMatches_true_iff hrules).mp rfl
  obtain ⟨s, hs, hsame⟩ := h.left r hr
  cases m with
  | true => rfl
  | false =>
    have hnone := anyMatches_eq_ok_false_iff.mp hm s hs
    exact (hsame.matches_eq (hrs r hr) (hss s hs) hmatches hnone).symm

theorem SameRules.anyMatches_eq (h : SameRules rs ss) {m m' : Bool} (hm : anyMatches d rs = .ok m)
    (hm' : anyMatches d ss = .ok m') : m = m' := by
  refine Bool.eq_iff_iff.mpr ⟨?_, ?_⟩
  · rintro rfl
    exact h.eq_true hrs hss hm hm'
  · rintro rfl
    exact h.symm.eq_true hss hrs hm' hm

theorem SameRules.all_return (h : SameRules rs ss)
    (hreturn : ∀ r ∈ rs, ∀ c ∈ r.constraints, ∃ b, c.eval d = .ok b) :
    ∀ s ∈ ss, ∀ c ∈ s.constraints, ∃ b, c.eval d = .ok b := by
  intro s hs c hc
  obtain ⟨r, hr, hsame⟩ := h.right s hs
  obtain ⟨c', hc', heval⟩ := hsame.exists_constraint (hss s hs) (hrs r hr) hc d
  rw [← heval]
  exact hreturn r hr c' hc'

end

/-- A rule that equals an earlier one is reached only where that one did not match, and does not
match there either. -/
theorem anyMatches_eraseDups (hrs : ∀ r ∈ rs, r.IsCompiled) {m : Bool}
    (h : anyMatches d rs = .ok m) :
    anyMatches d rs.eraseDups = .ok m := by
  induction rs using List.reverseRecOn generalizing m with
  | nil => exact h
  | append_singleton rs r ih =>
    obtain ⟨hbefore, hr⟩ := List.forall_mem_append.mp hrs
    rw [anyMatches_append, bind_eq_ok_iff] at h
    obtain ⟨found, hfound, hlast⟩ := h
    have hkept := ih hbefore hfound
    rw [eraseDups_concat]
    split
    · rename_i hold
      cases found with
      | true =>
        cases hlast
        exact hkept
      | false =>
        obtain ⟨r', hr', hequal⟩ := List.any_eq_true.mp (List.contains_eq_any_beq.symm.trans hold)
        have hnot := anyMatches_eq_ok_false_iff.mp hfound r' hr'
        cases m with
        | false => exact hkept
        | true =>
          obtain ⟨_, hlast', hmatches⟩ := (anyMatches_true_iff hlast).mp rfl
          obtain rfl := List.mem_singleton.mp hlast'
          have hsame := Rule.beq_iff.mp hequal
          cases hsame.matches_eq (hr _ hlast') (hbefore r' hr') hmatches hnot
    · rw [anyMatches_append, hkept]
      exact hlast

namespace Criteria

theorem isCompiled_history {batch : RuleBatch} (hbatch : batch.IsCompiled) {steps : List Step}
    (hsteps : ∀ s ∈ steps, s.IsCompiled) :
    ∀ r ∈ batch.initial ++ steps.flatMap Step.added, r.IsCompiled := by
  refine List.forall_mem_append.mpr ⟨?_, fun r hr => ?_⟩
  · unfold RuleBatch.initial
    split
    · cases hcompile : batch.compile with
      | error e => exact nofun
      | ok rules => exact hbatch.compile hcompile
    · exact nofun
  · obtain ⟨s, hs, hadded⟩ := List.mem_flatMap.mp hr
    obtain ⟨source, hsource, negate, name, hcompile⟩ := Step.exists_given_of_added hadded
    exact ((hsteps s hs).given source hsource).compile hcompile

/-- Two lists of the same rules give one answer to a date wherever they both give one, and they both
do where no constraint fails. The rules that criteria keep give the answer of all rules that were
added, if these have one. -/
theorem order_and_repetition_change_no_answer :
    (∀ rs ss : List Rule, (∀ r ∈ rs, r.IsCompiled) → (∀ s ∈ ss, s.IsCompiled) → SameRules rs ss →
      ∀ (negate : Bool) (d : Date),
        (∀ b b', evaluate rs negate d = .ok b → evaluate ss negate d = .ok b' → b = b') ∧
        ((∀ r ∈ rs, ∀ c ∈ r.constraints, ∃ b, c.eval d = .ok b) →
          ∃ b, evaluate rs negate d = .ok b ∧ evaluate ss negate d = .ok b)) ∧
    ∀ (negate auto : Bool) (batch : RuleBatch) (c : Criteria) (steps : List Step),
      create negate auto batch = .ok c → batch.IsCompiled → (∀ s ∈ steps, s.IsCompiled) →
      ∀ (negate' : Bool) (d : Date) (b : Bool),
        evaluate (batch.initial ++ steps.flatMap Step.added) negate' d = .ok b →
        evaluate (c.after steps).rules negate' d = .ok b := by
  refine ⟨fun rs ss hrs hss hsame negate d => ⟨fun b b' hb hb' => ?_, fun hreturn => ?_⟩,
    fun negate auto batch c steps hcreate hbatch hsteps negate' d b hb => ?_⟩
  · obtain ⟨m, hm, rfl⟩ := evaluate_eq_ok.mp hb
    obtain ⟨m', hm', rfl⟩ := evaluate_eq_ok.mp hb'
    rw [hsame.anyMatches_eq hrs hss hm hm']
  · obtain ⟨m, hm⟩ := exists_anyMatches_of_all_return hreturn
    obtain ⟨m', hm'⟩ := exists_anyMatches_of_all_return (hsame.all_return hrs hss hreturn)
    obtain rfl := hsame.anyMatches_eq hrs hss hm hm'
    exact ⟨_, evaluate_eq_ok.mpr ⟨m, hm, rfl⟩, evaluate_eq_ok.mpr ⟨m, hm', rfl⟩⟩
  · obtain ⟨m, hm, rfl⟩ := evaluate_eq_ok.mp hb
    rw [rules_of_history hcreate steps]
    exact evaluate_eq_ok.mpr
      ⟨m, anyMatches_eraseDups (isCompiled_history hbatch hsteps) hm, rfl⟩

/-- The first list holds a rule twice, and the second one the two rules the other way round. -/
theorem answer_to_an_Easter_from_two_lists :
    let d : Date := ⟨2022, 4, 17, by decide⟩
    let batch : RuleBatch := .items
      [.text "day == 1; month == 2", .text "MONTH==2; Day == 1", .text "Date == Easter"]
    let batch' : RuleBatch := .items [.text "date==EASTER", .text "Month == 2;day==1;day == 1"]
    ∃ rs ss, batch.compile = .ok rs ∧ batch'.compile = .ok ss ∧ SameRules rs ss ∧
      ∃ b, evaluate rs true d = .ok b ∧ evaluate ss true d = .ok b := by
  intro d batch batch'
  obtain ⟨rs, hrs, htest⟩ : ∃ rs, batch.compile = .ok rs ∧
      (batch'.compile.toOption.any fun ss => decide (SameRules rs ss) &&
        rs.all fun r => r.constraints.all fun c => (c.eval d).toOption.any fun _ => true) = true :=
    exists_ok_of_any (by decide +kernel)
  obtain ⟨ss, hss, htest⟩ := exists_ok_of_any htest
  obtain ⟨hsame, hreturn⟩ := Bool.and_eq_true_iff.mp htest
  have hbatch : batch.IsCompiled := by simp [batch, RuleBatch.IsCompiled, RuleSource.IsCompiled]
  have hbatch' : batch'.IsCompiled := by simp [batch', RuleBatch.IsCompiled, RuleSource.IsCompiled]
  have hsame := of_decide_eq_true hsame
  refine ⟨rs, ss, hrs, hss, hsame, (order_and_repetition_change_no_answer.1 rs ss
    (hbatch.compile hrs) (hbatch'.compile hss) hsame true d).2 fun r hr c hc => ?_⟩
  obtain ⟨b, hb, -⟩ := exists_ok_of_any
    (List.all_eq_true.mp (List.all_eq_true.mp hreturn r hr) c hc)
  exact ⟨b, hb⟩

/-- On 1 January 2200 the order decides whether there is an answer. -/
example :
    let d : Date := ⟨2200, 1, 1, by decide⟩
    let answers (batch : RuleBatch) : Option Bool :=
      batch.compile.toOption.map fun rs => (evaluate rs false d).isOk
    answers (.items [.text "day == 1", .text "Date == Easter"]) = some true ∧
      answers (.items [.text "Date == Easter", .text "day == 1"]) = some false := by
  decide +kernel

end Criteria
end DateRules
