import DateRules.Rule

/-!
When rules are the same: under one name and with one negation they hold the same constraints, as far
as letter case goes, in any order and number. This is an equivalence.
-/
namespace DateRules

theorem Constraint.beq_iff_key {a b : Constraint} : (a == b) = true ↔ a.key = b.key := by
  change (a.key == b.key) = true ↔ _
  exact beq_iff_eq

instance : EquivBEq Constraint where
  rfl := Constraint.beq_iff_key.mpr rfl
  symm h := Constraint.beq_iff_key.mpr (Constraint.beq_iff_key.mp h).symm
  trans h h' :=
    Constraint.beq_iff_key.mpr ((Constraint.beq_iff_key.mp h).trans (Constraint.beq_iff_key.mp h'))

/-- The same name, the same negation, and the same set of case-folded constraint texts. -/
structure Rule.IsSame (r s : Rule) : Prop where
  name_eq : r.name = s.name
  negate_eq : r.negate = s.negate
  keys_iff : ∀ key, (∃ c ∈ r.constraints, c.key = key) ↔ ∃ c ∈ s.constraints, c.key = key

theorem contains_iff_exists_key {cs : List Constraint} {c : Constraint} :
    cs.contains c = true ↔ ∃ c' ∈ cs, c'.key = c.key := by
  simp only [List.contains_eq_any_beq, List.any_eq_true, Constraint.beq_iff_key,
    eq_comm (a := c.key)]

theorem sameElements_iff {as bs : List Constraint} : sameElements as bs = true ↔
    ∀ key, (∃ c ∈ as, c.key = key) ↔ ∃ c ∈ bs, c.key = key := by
  simp only [sameElements, Bool.and_eq_true, List.all_eq_true, contains_iff_exists_key]
  constructor
  · rintro ⟨hleft, hright⟩ key
    constructor
    · rintro ⟨c, hc, rfl⟩
      exact hleft c hc
    · rintro ⟨c, hc, rfl⟩
      exact hright c hc
  · intro h
    exact ⟨fun c hc => (h c.key).mp ⟨c, hc, rfl⟩, fun c hc => (h c.key).mpr ⟨c, hc, rfl⟩⟩

namespace Rule

theorem beq_iff {r s : Rule} : (r == s) = true ↔ r.IsSame s := by
  change (r.name == s.name && r.negate == s.negate &&
    sameElements r.constraints s.constraints) = true ↔ _
  rw [Bool.and_eq_true, Bool.and_eq_true, beq_iff_eq, beq_iff_eq, sameElements_iff]
  exact ⟨fun ⟨⟨hname, hnegate⟩, hkeys⟩ => ⟨hname, hnegate, hkeys⟩,
    fun ⟨hname, hnegate, hkeys⟩ => ⟨⟨hname, hnegate⟩, hkeys⟩⟩

variable {r s t : Rule}

theorem IsSame.refl (r : Rule) : r.IsSame r := ⟨rfl, rfl, fun _ => Iff.rfl⟩

theorem IsSame.symm (h : r.IsSame s) : s.IsSame r :=
  ⟨h.name_eq.symm, h.negate_eq.symm, fun key => (h.keys_iff key).symm⟩

theorem IsSame.trans (h : r.IsSame s) (h' : s.IsSame t) : r.IsSame t :=
  ⟨h.name_eq.trans h'.name_eq, h.negate_eq.trans h'.negate_eq,
    fun key => (h.keys_iff key).trans (h'.keys_iff key)⟩

instance : EquivBEq Rule where
  rfl := beq_iff.mpr (.refl _)
  symm h := beq_iff.mpr (beq_iff.mp h).symm
  trans h h' := beq_iff.mpr ((beq_iff.mp h).trans (beq_iff.mp h'))

end Rule
end DateRules
