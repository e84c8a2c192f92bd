import DateRules.Text.Numeral

/-! How a numeral is spelled: an optional sign and digits, and in one way only. -/
namespace DateRules.Text

def AreDigits (cs : List Char) : Prop := cs ≠ [] ∧ ∀ c ∈ cs, isDecimal c = true

namespace Numeral

/-- The signs of a negative number, and of another. -/
def signs : Bool → List (List Char)
  | true => [['-']]
  | false => [[], ['+']]

def IsSpelled (n : Numeral) (cs : List Char) : Prop :=
  AreDigits n.digits ∧ ∃ sign ∈ signs n.negative, cs = sign ++ n.digits

theorem mem_signs {negative : Bool} {sign : List Char} (h : sign ∈ signs negative) :
    sign = [] ∧ negative = false ∨ sign = ['+'] ∧ negative = false ∨
      sign = ['-'] ∧ negative = true := by
  cases negative with
  | true => exact .inr (.inr ⟨List.mem_singleton.mp h, rfl⟩)
  | false =>
    rcases List.mem_cons.mp h with h | h
    · exact .inl ⟨h, rfl⟩
    · exact .inr (.inl ⟨List.mem_singleton.mp h, rfl⟩)

/-- Only the first character can be other than a digit. -/
theorem IsSpelled.tail {n : Numeral} {cs : List Char} (h : n.IsSpelled cs) :
    ∀ c ∈ cs.tail, isDecimal c = true := by
  obtain ⟨hdigits, sign, hsign, rfl⟩ := h
  rcases mem_signs hsign with ⟨rfl, -⟩ | ⟨rfl, -⟩ | ⟨rfl, -⟩
  · exact fun c hc => hdigits.2 c (List.mem_of_mem_tail hc)
  · exact hdigits.2
  · exact hdigits.2

theorem IsSpelled.head {n : Numeral} {cs : List Char} (h : n.IsSpelled cs) :
    ∀ c ∈ cs.head?, isDecimal c = true ∨ c = '+' ∨ c = '-' := by
  obtain ⟨hdigits, sign, hsign, rfl⟩ := h
  intro c hc
  rcases mem_signs hsign with ⟨rfl, -⟩ | ⟨rfl, -⟩ | ⟨rfl, -⟩
  · exact .inl (hdigits.2 c (List.mem_of_mem_head? hc))
  · exact .inr (.inl (Option.some.inj hc).symm)
  · exact .inr (.inr (Option.some.inj hc).symm)

theorem unsigned?_eq_some_iff {negative : Bool} {digits : List Char} {n : Numeral} :
    unsigned? negative digits = some n ↔ AreDigits digits ∧ n = ⟨negative, digits⟩ := by
  unfold unsigned? AreDigits
  simp only [Bool.and_eq_true, Bool.not_eq_true', List.isEmpty_eq_false_iff, List.all_eq_true]
  split
  · rename_i h
    rw [Option.some_inj]
    exact ⟨fun heq => ⟨h, heq.symm⟩, fun heq => heq.2.symm⟩
  · rename_i h
    exact ⟨nofun, fun heq => absurd heq.1 h⟩

theorem ofChars?_eq_some_iff {cs : List Char} {n : Numeral} :
    ofChars? cs = some n ↔ n.IsSpelled cs := by
  constructor
  · intro h
    unfold ofChars? at h
    split at h <;> obtain ⟨hdigits, rfl⟩ := unsigned?_eq_some_iff.mp h
    · exact ⟨hdigits, ['-'], List.mem_singleton_self _, rfl⟩
    · exact ⟨hdigits, ['+'], by simp [signs], rfl⟩
    · exact ⟨hdigits, [], by simp [signs], rfl⟩
  · obtain ⟨negative, digits⟩ := n
    rintro ⟨hdigits, sign, hsign, rfl⟩
    have hunsigned := unsigned?_eq_some_iff.mpr ⟨hdigits, Eq.refl (Numeral.mk negative digits)⟩
    rcases mem_signs hsign with ⟨rfl, rfl⟩ | ⟨rfl, rfl⟩ | ⟨rfl, rfl⟩
    · -- A digit comes first, so the text does not begin with a sign.
      have hminus : '-' ∉ digits := fun hmem => absurd (hdigits.2 _ hmem) (by decide)
      have hplus : '+' ∉ digits := fun hmem => absurd (hdigits.2 _ hmem) (by decide)
      change ofChars? digits = _
      unfold ofChars?
      split
      · exact absurd List.mem_cons_self hminus
      · exact absurd List.mem_cons_self hplus
      · exact hunsigned
    · exact hunsigned
    · exact hunsigned

end Numeral
end DateRules.Text
