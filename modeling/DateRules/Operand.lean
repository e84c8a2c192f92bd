import DateRules.Value

/-!
One side of a comparison: a constant, a named quantity, or a quantity changed by a number. An
operand keeps the text it was written as.
-/
namespace DateRules

inductive Expression where
  | constant (v : Value)
  | quantity (q : Quantity)
  | changed (q : Quantity) (c : Change)
deriving DecidableEq, Repr

namespace Expression

def category : Expression → Category
  | constant v => v.category
  | quantity q => q.category
  | changed _ c => c.category

/-- The value on the queried date. -/
def eval (e : Expression) (d : Date) : Except EvalError Value :=
  match e with
  | constant v => .ok v
  | quantity q => q.on d
  | changed q c => do c.apply (← q.on d)

end Expression

structure Operand where
  /-- As written, without the blanks around it. -/
  text : String
  expression : Expression
deriving DecidableEq, Repr

def Operand.category (o : Operand) : Category := o.expression.category

def Operand.eval (o : Operand) (d : Date) : Except EvalError Value := o.expression.eval d

end DateRules
