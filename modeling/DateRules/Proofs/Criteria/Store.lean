import DateRules.Criteria.Step
import DateRules.Proofs.Repetition

/-!
The store of rules. New rules come after the old ones, and only those that equal none before them,
so each store begins with the one before it.
-/
namespace DateRules

namespace Criteria

/-- The store after rules come in. -/
abbrev store (c : Criteria) (new : List Rule) : List Rule := (c.rules ++ new).eraseDups

theorem insert_of_autoRefresh {c : Criteria} (h : c.autoRefresh = true) (new : List Rule) :
    c.insert new = ({ c with rules := c.store new } : Criteria).refresh := by
  unfold insert
  exact if_pos h

theorem insert_of_not_autoRefresh {c : Criteria} (h : c.autoRefresh = false) (new : List Rule) :
    c.insert new = ({ c with rules := c.store new }, [], .ok ()) := by
  unfold insert
  exact if_neg (by simp [h])

/-- Rules that are stored stay in front. -/
theorem rules_isPrefix_store {c : Criteria} (h : Distinct c.rules) (new : List Rule) :
    c.rules <+: c.store new :=
  prefix_eraseDups_append h new

@[simp] theorem insert_rules (c : Criteria) (new : List Rule) :
    (c.insert new).1.rules = c.store new := by
  cases h : c.autoRefresh with
  | true => rw [insert_of_autoRefresh h]; rfl
  | false => rw [insert_of_not_autoRefresh h]

end Criteria
end DateRules
