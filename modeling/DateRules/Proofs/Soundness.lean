import DateRules.Proofs.Constraint.Reading
import DateRules.Proofs.RuleSource

/-!
What has been compiled can fail on a date in two ways only: the Easter of its year is not in the
table, or a date moves out of the calendar. Operands, constraints, rules and criteria inherit this
in turn.
-/
namespace DateRules

/-- The failures that are left once a text has compiled. -/
def IsLookupFailure (d : Date) (error : EvalError) : Prop :=
  error = .easterOutOfTable d.year ∨ error = .outsideCalendar

def Constraint.IsCompiled (c : Constraint) : Prop := ∃ clause, Constraint.parse clause = .ok c

def Rule.IsCompiled (r : Rule) : Prop := ∀ c ∈ r.constraints, c.IsCompiled

/-- A rule that is handed in compiled was compiled from text. -/
def RuleSource.IsCompiled : RuleSource → Prop
  | .compiled r => r.IsCompiled
  | .text _ | .data _ => True

def RuleBatch.IsCompiled : RuleBatch → Prop
  | .items sources => ∀ source ∈ sources, source.IsCompiled
  | .value _ => True

def Step.IsCompiled : Step → Prop
  | .addRule source _ _ => source.IsCompiled
  | .addRules batch => batch.IsCompiled
  | _ => True

theorem Rule.isCompiled_of_parse {text name : String} {negate : Bool} {r : Rule}
    (h : Rule.parse text negate name = .ok r) : r.IsCompiled := by
  unfold parse at h
  obtain ⟨constraints, hconstraints, h⟩ := bind_eq_ok_iff.mp h
  cases h
  intro c hc
  obtain ⟨clause, -, hclause⟩ :=
    exists_mem_of_mapM_eq_ok hconstraints c (mem_of_mem_eraseDups hc)
  exact ⟨clause, hclause⟩

theorem RuleSource.IsCompiled.compile {source : RuleSource} (hsource : source.IsCompiled)
    {negate : Bool} {name : String} {r : Rule} (h : source.compile negate name = .ok r) :
    r.IsCompiled := by
  rcases compile_eq_ok h with rfl | ⟨text, negate', name', -, hparse⟩
  · exact hsource
  · exact Rule.isCompiled_of_parse hparse

theorem RuleBatch.IsCompiled.given {batch : RuleBatch} (hbatch : batch.IsCompiled) :
    ∀ source ∈ batch.given, source.IsCompiled := by
  cases batch with
  | items sources => exact hbatch
  | value v =>
    cases hitems : v.items? with
    | none => simp [RuleBatch.given, RuleBatch.sources, hitems, Except.toOption]
    | some vs =>
      simp [RuleBatch.given, RuleBatch.sources, hitems, Except.toOption, RuleSource.IsCompiled]

theorem RuleBatch.IsCompiled.compile {batch : RuleBatch} (hbatch : batch.IsCompiled)
    {rules : List Rule} (h : batch.compile = .ok rules) : ∀ r ∈ rules, r.IsCompiled := by
  intro r hr
  obtain ⟨source, hmem, hsource⟩ := RuleBatch.exists_given h hr
  exact (hbatch.given source hmem).compile hsource

theorem Step.IsCompiled.given {s : Step} (h : s.IsCompiled) :
    ∀ source ∈ s.given, source.IsCompiled := by
  cases s with
  | addRule source negate name => exact List.forall_mem_singleton.mpr h
  | addRules batch => exact RuleBatch.IsCompiled.given h
  | _ => exact nofun

/-- New rules of a step are compiled like those that were handed in. -/
theorem Step.IsCompiled.newRules {s : Step} (h : s.IsCompiled) {new : List Rule}
    (hnew : s.newRules? = some new) : ∀ r ∈ new, r.IsCompiled := by
  intro r hr
  obtain ⟨source, hmem, negate, name, hsource⟩ := Step.exists_given hnew hr
  exact (h.given source hmem).compile hsource

theorem Operand.eval_isLookupFailure {t : String} {o : Operand} (h : parse t = .ok o) {d : Date}
    {error : EvalError} (herror : o.eval d = .error error) : IsLookupFailure d error := by
  obtain ⟨f, hwritten, hmeans, -⟩ := parse_eq_ok_iff.mp h
  rcases (hwritten.eval_eq_error_iff hmeans).mp herror with ⟨-, heq⟩ | ⟨-, heq⟩
  · exact .inl heq
  · exact .inr heq

theorem Constraint.IsCompiled.eval_isLookupFailure {c : Constraint} (h : c.IsCompiled) {d : Date}
    {error : EvalError} (herror : c.eval d = .error error) : IsLookupFailure d error := by
  obtain ⟨clause, hclause⟩ := h
  obtain ⟨left, right, hreads⟩ := parse_eq_ok_iff.mp hclause
  rcases (eval_eq_error_iff hclause).mp herror with hleft | ⟨v, -, hright⟩
  · exact Operand.eval_isLookupFailure hreads.left_eq hleft
  · exact Operand.eval_isLookupFailure hreads.right_eq hright

theorem Rule.allHold_eq_error {d : Date} {cs : List Constraint} {error : EvalError}
    (h : allHold d cs = .error error) : ∃ c ∈ cs, c.eval d = .error error := by
  induction cs with
  | nil => cases h
  | cons c cs ih =>
    unfold allHold at h
    rcases bind_eq_error_iff.mp h with hhead | ⟨b, hb, htail⟩
    · exact ⟨c, List.mem_cons_self, hhead⟩
    · split at htail
      · obtain ⟨c', hmem, hc'⟩ := ih htail
        exact ⟨c', List.mem_cons_of_mem _ hmem, hc'⟩
      · cases htail

theorem Rule.IsCompiled.matches_isLookupFailure {r : Rule} (h : r.IsCompiled) {d : Date}
    {error : EvalError} (herror : r.matches? d = .error error) : IsLookupFailure d error := by
  unfold matches? at herror
  rcases bind_eq_error_iff.mp herror with hconstraints | ⟨b, -, hdone⟩
  · obtain ⟨c, hmem, hc⟩ := allHold_eq_error hconstraints
    exact (h c hmem).eval_isLookupFailure hc
  · cases hdone

theorem anyMatches_eq_error {d : Date} {rules : List Rule} {error : EvalError}
    (h : anyMatches d rules = .error error) : ∃ r ∈ rules, r.matches? d = .error error := by
  induction rules with
  | nil => cases h
  | cons r rules ih =>
    unfold anyMatches at h
    rcases bind_eq_error_iff.mp h with hhead | ⟨b, hb, htail⟩
    · exact ⟨r, List.mem_cons_self, hhead⟩
    · split at htail
      · cases htail
      · obtain ⟨r', hmem, hr'⟩ := ih htail
        exact ⟨r', List.mem_cons_of_mem _ hmem, hr'⟩

namespace Criteria

theorem evaluate_isLookupFailure {rules : List Rule} (h : ∀ r ∈ rules, r.IsCompiled)
    {negate : Bool} {d : Date} {error : EvalError}
    (herror : evaluate rules negate d = .error error) : IsLookupFailure d error := by
  obtain ⟨r, hmem, hr⟩ := anyMatches_eq_error (map_eq_error_iff.mp herror)
  exact (h r hmem).matches_isLookupFailure hr

/-- A refresh fails on a date that leaves the calendar, and in no other way. -/
theorem recompute_failure_eq_none {c : Criteria} (h : ∀ r ∈ c.rules, r.IsCompiled)
    (hended : c.refresh.2.2 ≠ .error .outsideCalendar) :
    (recompute c.rules c.negate c.cache).failure = none := by
  cases hfailure : (recompute c.rules c.negate c.cache).failure with
  | none => rfl
  | some e =>
    obtain ⟨⟨entry, -, heval⟩, hmiss⟩ := recompute_failure hfailure
    rcases evaluate_isLookupFailure h heval with htable | rfl
    · exact absurd htable (hmiss _)
    · refine absurd ?_ hended
      simp [refresh, hfailure]

theorem isCompiled_store {c : Criteria} {new : List Rule} (hrules : ∀ r ∈ c.rules, r.IsCompiled)
    (hnew : ∀ r ∈ new, r.IsCompiled) : ∀ r ∈ c.store new, r.IsCompiled := by
  intro r hr
  rcases List.mem_append.mp (mem_of_mem_eraseDups hr) with hold | hfresh
  · exact hrules r hold
  · exact hnew r hfresh

theorem isCompiled_run {c : Criteria} (h : ∀ r ∈ c.rules, r.IsCompiled) {s : Step}
    (hs : s.IsCompiled) : ∀ r ∈ (c.run s).state.rules, r.IsCompiled := by
  rw [rules_run]
  cases hnew : s.newRules? with
  | none => exact h
  | some new => exact isCompiled_store h (hs.newRules hnew)

theorem isCompiled_after {c : Criteria} (h : ∀ r ∈ c.rules, r.IsCompiled) {steps : List Step}
    (hsteps : ∀ s ∈ steps, s.IsCompiled) : ∀ r ∈ (c.after steps).rules, r.IsCompiled :=
  after_keeps (P := fun c => ∀ r ∈ c.rules, r.IsCompiled)
    (fun s hs _ hc => isCompiled_run hc (hsteps s hs)) h

theorem isCompiled_create {negate auto : Bool} {batch : RuleBatch} {c : Criteria}
    (h : create negate auto batch = .ok c) (hbatch : batch.IsCompiled) :
    ∀ r ∈ c.rules, r.IsCompiled := by
  obtain ⟨rules, rfl, hset, hunset⟩ := create_eq_ok h
  intro r hr
  cases hisSet : batch.isSet with
  | true => exact hbatch.compile (hset hisSet) r (mem_of_mem_eraseDups hr)
  | false =>
    rw [hunset (by simp [hisSet])] at hr
    simp at hr

end Criteria

/-- An operand that compiles has, on every date, the value that its form has by the calendar and by
exact arithmetic, and it is of the operand's category. It has none if the table lacks its Easter,
and if it leaves the calendar; constraints, rules and criteria fail in no other way. -/
theorem compiled_text_fails_at_lookups_only :
    (∀ (t : String) (o : Operand), Operand.parse t = .ok o →
      ∃ f : OperandForm, f.IsWritten (Text.trim t.toList) ∧ o.category = f.category ∧
        ∀ d : Date,
          (∀ v, o.eval d = .ok v ↔ f.HasValue d v) ∧
          (∀ v, f.HasValue d v → v.category = o.category) ∧
          ∀ error, o.eval d = .error error ↔
            f.MissesTable d ∧ error = .easterOutOfTable d.year ∨
              f.LeavesCalendar d ∧ error = .outsideCalendar) ∧
    (∀ (clause : String) (c : Constraint), Constraint.parse clause = .ok c →
      ∀ d error, c.eval d = .error error → IsLookupFailure d error) ∧
    (∀ (text name : String) (negate : Bool) (r : Rule), Rule.parse text negate name = .ok r →
      ∀ d error, r.matches? d = .error error → IsLookupFailure d error) ∧
    (∀ (negate auto : Bool) (batch : RuleBatch) (c : Criteria) (steps : List Step),
      Criteria.create negate auto batch = .ok c → batch.IsCompiled →
      (∀ s ∈ steps, s.IsCompiled) →
      ∀ d error, ((c.after steps).containsDate d).2 = .error error → IsLookupFailure d error) := by
  refine ⟨fun t o ho => ?_, fun clause c hc d error herror => ?_,
    fun text name negate r hr d error herror => ?_,
    fun negate auto batch c steps hcreate hbatch hsteps d error herror => ?_⟩
  · obtain ⟨f, hwritten, hmeans, -⟩ := Operand.parse_eq_ok_iff.mp ho
    refine ⟨f, hwritten, hmeans.category_eq, fun d => ⟨?_, ?_, ?_⟩⟩
    · exact fun v => hwritten.eval_eq_ok_iff hmeans
    · exact fun v hv => (hv.category hwritten).trans hmeans.category_eq.symm
    · exact fun error => hwritten.eval_eq_error_iff hmeans
  · exact Constraint.IsCompiled.eval_isLookupFailure ⟨clause, hc⟩ herror
  · exact (Rule.isCompiled_of_parse hr).matches_isLookupFailure herror
  · have hrules := Criteria.isCompiled_after (Criteria.isCompiled_create hcreate hbatch) hsteps
    exact Criteria.evaluate_isLookupFailure hrules (Criteria.evaluate_of_containsDate herror)

end DateRules
