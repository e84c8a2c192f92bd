/-!
Case mappings as data: most letters move by the same distance as their neighbours, so a mapping is a
list of runs and a few characters that become several.
-/
namespace DateRules.Text

/-- The characters `first`, `first + step`, …, `last` are moved by `shift`. -/
structure CaseRun where
  first : Nat
  last : Nat
  step : Nat
  shift : Int
deriving Repr

def CaseRun.contains (r : CaseRun) (n : Nat) : Bool :=
  r.first ≤ n && n ≤ r.last && (n - r.first) % r.step == 0

/-- A mapping of characters, in ascending order; what neither list names stays as it is. -/
structure CaseMapping where
  runs : List CaseRun
  expansions : List (Nat × List Nat)

namespace CaseMapping

def expansion? (m : CaseMapping) (n : Nat) : Option (List Nat) :=
  (m.expansions.takeWhile fun e => e.1 ≤ n).lookup n

def run? (m : CaseMapping) (n : Nat) : Option CaseRun :=
  (m.runs.takeWhile fun r => r.first ≤ n).find? (·.contains n)

def apply (m : CaseMapping) (c : Char) : List Char :=
  match m.expansion? c.toNat, m.run? c.toNat with
  | some ns, _ => ns.map Char.ofNat
  | none, some r => [Char.ofNat (c.toNat + r.shift).toNat]
  | none, none => [c]

end CaseMapping

end DateRules.Text
