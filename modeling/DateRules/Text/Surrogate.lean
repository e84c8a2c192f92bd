/-!
Surrogates: code points that are no characters, although a text may name them by their codes. A text
with surrogates is kept as a string in which characters that are not used otherwise stand for them.
-/
namespace DateRules.Text

def firstSurrogate : Nat := 0xD800

def surrogateCount : Nat := 0x800

/-- A block of unassigned characters that stand for the surrogates, in their order. -/
structure StandIns where
  block : Fin 320
deriving DecidableEq, Repr

namespace StandIns

/-- The first code of the block. The blocks fill the planes 4 to 13. -/
def first (m : StandIns) : Nat := 0x40000 + surrogateCount * m.block.val

def character (m : StandIns) (code : Nat) : Char := Char.ofNat (m.first + (code - firstSurrogate))

def surrogate? (m : StandIns) (c : Char) : Option Nat :=
  if m.first ≤ c.toNat ∧ c.toNat < m.first + surrogateCount then
    some (firstSurrogate + (c.toNat - m.first))
  else none

@[simp] theorem surrogate?_character (m : StandIns) {code : Nat} (least : firstSurrogate ≤ code)
    (most : code < firstSurrogate + surrogateCount) :
    m.surrogate? (m.character code) = some code := by
  have inBlock := m.block.isLt
  have valid : (m.first + (code - firstSurrogate)).isValidChar := by
    simp only [first, firstSurrogate, surrogateCount, Nat.isValidChar] at *; omega
  have number : (m.character code).toNat = m.first + (code - firstSurrogate) := by
    rw [character, Char.ofNat, dif_pos valid]
    rfl
  simp only [surrogate?, number, firstSurrogate, surrogateCount] at *
  rw [if_pos (by omega)]
  congr 1
  omega

def isUnused (m : StandIns) (codes : List Nat) : Bool :=
  codes.all fun n => n < m.first || m.first + surrogateCount ≤ n

/-- The first block that the codes leave free. -/
def apartFrom (codes : List Nat) : StandIns :=
  (((List.finRange 320).map StandIns.mk).find? (·.isUnused codes)).getD ⟨0⟩

def occurIn (m : StandIns) (cs : List Char) : Bool := cs.any fun c => (m.surrogate? c).isSome

end StandIns
end DateRules.Text
