import DateRules.Number.Binary64

/-!
How alike two texts are: the share of their characters that a longest common subsequence covers,
in hundredths.
-/
namespace DateRules.Text

/-- One row of the table of longest common subsequences. `below` holds the lengths for the next
suffix of the other text against every suffix of `b`; the result holds them with `x` in front. -/
def commonRow (x : Char) : (b : List Char) → (below : List Nat) → List Nat
  | y :: b, n :: below =>
    let right := commonRow x b below
    (if x = y then below.headD 0 + 1 else max n (right.headD 0)) :: right
  | _, _ => [0]

def commonRows : (a b : List Char) → List Nat
  | [], b => List.replicate (b.length + 1) 0
  | x :: a, b => commonRow x b (commonRows a b)

def commonLength (a b : List Char) : Nat := (commonRows a b).headD 0

structure Similarity where
  common : Nat
  total : Nat
deriving DecidableEq, Repr

namespace Similarity

/-- Two empty texts are wholly alike. -/
def between (a b : List Char) : Similarity :=
  if a.isEmpty && b.isEmpty then ⟨1, 1⟩ else ⟨2 * commonLength a b, a.length + b.length⟩

def isBelow (s t : Similarity) : Bool := s.common * t.total < t.common * s.total

/-- The share in hundredths as binary arithmetic gives it: what is not covered is taken from one. -/
def score (s : Similarity) : Binary64 :=
  (Binary64.ofInt 100).mul <|
    (Binary64.ofInt 1).add (Binary64.ofRatio false (s.total - s.common) s.total).neg

end Similarity

inductive Threshold where
  | whole (hundredths : Int)
  | real (hundredths : Binary64)
deriving DecidableEq, Repr

/-- A share of exactly so many hundredths is accepted only if its score is not rounded below
them. -/
def Threshold.acceptsEqual (hundredths : Int) : Bool :=
  (Binary64.ofInt hundredths).le (Similarity.score ⟨hundredths.toNat, 100⟩)

/-- Whether a share is accepted. Rounding can matter only to a share that is exactly a whole
threshold: shares that differ are further apart than it reaches. -/
def Similarity.reaches (s : Similarity) : Threshold → Bool
  | .whole n =>
    n * s.total < 100 * s.common || (n * s.total == 100 * s.common && Threshold.acceptsEqual n)
  | .real x => x.le s.score

end DateRules.Text
