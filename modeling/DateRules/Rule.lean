import DateRules.Constraint.Parser

/-!
A rule matches a date when all of its constraints hold, or, if negated, when one does not.
Constraints are evaluated in the order of the rule text up to the first that fails, so an earlier
one can guard a later one.
-/
namespace DateRules

structure Rule where
  constraints : List Constraint
  negate : Bool
  name : String
deriving Repr

/-- The same elements, in any order and number. -/
def sameElements [BEq α] (as bs : List α) : Bool := as.all bs.contains && bs.all as.contains

namespace Rule

/-- Repeated constraints count once. -/
def ofConstraints (constraints : List Constraint) (negate : Bool) (name : String) : Rule :=
  ⟨constraints.eraseDups, negate, name⟩

def parse (text : String) (negate : Bool) (name : String) : Except CompileError Rule := do
  return ofConstraints (← Constraint.parseAll text) negate name

instance : BEq Rule where
  beq r s := r.name == s.name && r.negate == s.negate && sameElements r.constraints s.constraints

/-- Whether all constraints hold on `d`; the first that fails or has no value decides. -/
def allHold (d : Date) : List Constraint → Except EvalError Bool
  | [] => .ok true
  | c :: cs => do if ← c.eval d then allHold d cs else return false

def matches? (r : Rule) (d : Date) : Except EvalError Bool := do
  return (← allHold d r.constraints) ^^ r.negate

def text (r : Rule) : String := ";".intercalate (r.constraints.map Constraint.text)

/-- The rule as it is shown, with its name and a mark for negation. -/
def label (r : Rule) : String :=
  (if r.name.isEmpty then "" else r.name ++ ": ") ++ (if r.negate then "not " else "") ++
    "[" ++ r.text ++ "]"

end Rule

/-- Whether any of the rules matches `d`; the first that matches or has no answer decides. -/
def anyMatches (d : Date) : List Rule → Except EvalError Bool
  | [] => .ok false
  | r :: rs => do if ← r.matches? d then return true else anyMatches d rs

end DateRules
