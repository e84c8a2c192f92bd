/-! Sets of characters as ascending ranges of code points. -/
namespace DateRules.Text

/-- Inclusive ranges. -/
abbrev CharacterRanges := List (Nat × Nat)

def CharacterRanges.contains (rs : CharacterRanges) (c : Char) : Bool :=
  rs.any fun r => r.1 ≤ c.toNat && c.toNat ≤ r.2

end DateRules.Text
