import DateRules.Proofs.Criteria.Run
import DateRules.Proofs.Outcome

/-!
Where rules come from. Whatever form a source has, it is a compiled rule or gives a rule text, and
each rule that a batch or a step adds comes from a source that was given to it.
-/
namespace DateRules

/-- The rule text of a source; a compiled rule has none. -/
def RuleSource.text? : RuleSource → Option String
  | text s | data (.text s) | data (.textWith _ s) => some s
  | compiled _ => none
  | data v => v.entries?.bind ruleText?

def RuleBatch.given (batch : RuleBatch) : List RuleSource := batch.sources.toOption.getD []

def Step.given : Step → List RuleSource
  | addRule source _ _ => [source]
  | addRules batch => batch.given
  | _ => []

variable {source : RuleSource} {batch : RuleBatch} {s : Step} {negate : Bool} {name : String}
  {r : Rule}

theorem compileMapping_eq_ok {entries : List (Data × Data)} (h : compileMapping entries = .ok r) :
    ∃ text negate name, ruleText? entries = some text ∧ Rule.parse text negate name = .ok r := by
  unfold compileMapping at h
  split at h
  · cases h
  · rename_i text htext
    obtain ⟨negate, -, h⟩ := bind_eq_ok_iff.mp h
    obtain ⟨name, -, h⟩ := bind_eq_ok_iff.mp h
    exact ⟨text, negate, name, htext, mapError_eq_ok_iff.mp h⟩

theorem RuleSource.eq_ok_of_alone {result : Except SourceError Rule}
    (h : source.alone negate name result = .ok r) : result = .ok r := by
  unfold alone at h
  split at h
  · cases h
  · exact h

theorem RuleSource.compile_eq_ok (h : source.compile negate name = .ok r) :
    source = .compiled r ∨
      ∃ text negate name, source.text? = some text ∧ Rule.parse text negate name = .ok r := by
  unfold RuleSource.compile at h
  split at h
  · exact .inr ⟨_, negate, name, rfl, mapError_eq_ok_iff.mp h⟩
  · exact .inr ⟨_, negate, name, rfl, mapError_eq_ok_iff.mp h⟩
  · exact .inr ⟨_, negate, name, rfl, mapError_eq_ok_iff.mp h⟩
  · cases eq_ok_of_alone h
    exact .inl rfl
  · rename_i v hs hwith
    have hresult := eq_ok_of_alone h
    split at hresult
    · rename_i entries hentries
      obtain ⟨text, negate', name', htext, hparse⟩ := compileMapping_eq_ok hresult
      refine .inr ⟨text, negate', name', ?_, hparse⟩
      cases v <;> simp_all [RuleSource.text?]
    · cases hresult

theorem RuleBatch.exists_given {rules : List Rule} (h : batch.compile = .ok rules)
    (hr : r ∈ rules) :
    ∃ source ∈ batch.given, source.compile false "" = .ok r := by
  obtain ⟨sources, hsources, hall⟩ := bind_eq_ok_iff.mp h
  obtain ⟨source, hmem, hsource⟩ := exists_mem_of_mapM_eq_ok hall r hr
  refine ⟨source, ?_, hsource⟩
  rw [given, hsources]
  exact hmem

theorem Step.exists_given {new : List Rule} (h : s.newRules? = some new) (hr : r ∈ new) :
    ∃ source ∈ s.given, ∃ negate name, source.compile negate name = .ok r := by
  cases s with
  | addRule source negate name =>
    cases hcompile : source.compile negate name with
    | error e => simp [newRules?, hcompile, Except.toOption] at h
    | ok r' =>
      simp only [newRules?, hcompile, Except.toOption, Option.map_some, Option.some.injEq] at h
      subst h
      obtain rfl := List.mem_singleton.mp hr
      exact ⟨source, List.mem_singleton_self source, negate, name, hcompile⟩
  | addRules batch =>
    cases hcompile : batch.compile with
    | error e => simp [newRules?, hcompile, Except.toOption] at h
    | ok rules =>
      simp only [newRules?, hcompile, Except.toOption, Option.some.injEq] at h
      subst h
      obtain ⟨source, hmem, hsource⟩ := RuleBatch.exists_given hcompile hr
      exact ⟨source, hmem, false, "", hsource⟩
  | _ => cases h

end DateRules
