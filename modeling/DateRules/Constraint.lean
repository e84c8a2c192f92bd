import DateRules.Operand

/-!
A single comparison of two operands. Constraints are the same when their canonical texts agree
without regard to letter case.
-/
namespace DateRules

structure Constraint where
  left : Operand
  op : Comparison
  right : Operand
deriving Repr

namespace Constraint

/-- Canonical text: no blanks around the operator. -/
def text (c : Constraint) : String := c.left.text ++ c.op.symbol ++ c.right.text

/-- What constraints are compared by. -/
def key (c : Constraint) : String := String.ofList (Text.caseFold c.text.toList)

/-- Whether the comparison holds on `d`; the left operand is evaluated first. -/
def eval (c : Constraint) (d : Date) : Except EvalError Bool := do
  let left ← c.left.eval d
  let right ← c.right.eval d
  c.op.holds <$> left.order right

instance : BEq Constraint := ⟨fun a b => a.key == b.key⟩

end Constraint
end DateRules
