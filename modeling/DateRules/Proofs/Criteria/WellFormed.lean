import DateRules.Proofs.Criteria.Run
import DateRules.Proofs.Soundness

/-! What holds of criteria in every state that is ever reached. -/
namespace DateRules.Criteria

/-- No rule is stored twice, and all of them were compiled from text. -/
structure WellFormed (c : Criteria) : Prop where
  distinct : Distinct c.rules
  compiled : ∀ r ∈ c.rules, r.IsCompiled

variable {c : Criteria}

theorem wellFormed_create {negate auto : Bool} {batch : RuleBatch}
    (h : create negate auto batch = .ok c) (hbatch : batch.IsCompiled) : c.WellFormed := by
  have hcompiled := isCompiled_create h hbatch
  obtain ⟨rules, rfl, -⟩ := create_eq_ok h
  exact ⟨distinct_eraseDups _, hcompiled⟩

theorem WellFormed.run (h : c.WellFormed) {s : Step} (hs : s.IsCompiled) :
    (c.run s).state.WellFormed :=
  ⟨distinct_rules_run h.distinct s, isCompiled_run h.compiled hs⟩

theorem WellFormed.after (h : c.WellFormed) {steps : List Step}
    (hsteps : ∀ s ∈ steps, s.IsCompiled) : (c.after steps).WellFormed :=
  after_keeps (P := WellFormed) (fun s hs _ hc => hc.run (hsteps s hs)) h

end DateRules.Criteria
