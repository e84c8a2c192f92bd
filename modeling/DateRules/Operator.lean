import DateRules.Vocabulary

/-! The operators of rule text, and which of them each category admits. -/
namespace DateRules

inductive Comparison where
  | eq | ne | lt | le | gt | ge
deriving DecidableEq, Repr

namespace Comparison

def all : List Comparison := [eq, ne, lt, le, gt, ge]

def symbol : Comparison → String
  | eq => "==" | ne => "!=" | lt => "<" | le => "<=" | gt => ">" | ge => ">="

def ofSymbol? (cs : List Char) : Option Comparison := all.find? fun op => op.symbol.toList == cs

def isOrdering : Comparison → Bool
  | eq | ne => false
  | lt | le | gt | ge => true

/-- Whether two values in the given order satisfy the comparison. -/
def holds : Comparison → Ordering → Bool
  | eq, o => o == .eq
  | ne, o => o != .eq
  | lt, o => o == .lt
  | le, o => o != .gt
  | gt, o => o == .gt
  | ge, o => o != .lt

/-- Days of the week are equal or not; dates and integers are ordered too. -/
def isDefinedFor (op : Comparison) (c : Category) : Bool := c != .weekday || !op.isOrdering

end Comparison

inductive Arithmetic where
  | add | subtract | multiply | divide | modulo | power
deriving DecidableEq, Repr

namespace Arithmetic

def all : List Arithmetic := [add, subtract, multiply, divide, modulo, power]

def symbol : Arithmetic → String
  | add => "+" | subtract => "-" | multiply => "*" | divide => "/" | modulo => "%" | power => "**"

def ofSymbol? (cs : List Char) : Option Arithmetic := all.find? fun op => op.symbol.toList == cs

end Arithmetic

inductive OperatorFault where
  | weekdayArithmetic
  | zeroDivisor (op : Arithmetic)
  | dateArithmetic (op : Arithmetic)
  | weekdayOrdering (op : Comparison)
deriving DecidableEq, Repr

def OperatorFault.message : OperatorFault → String
  | weekdayArithmetic => "Cannot do arithmetic on a day of week."
  | zeroDivisor op => s!"Right-hand side of '{op.symbol}' must not be zero."
  | dateArithmetic op => s!"Operator '{op.symbol}' is not supported for {Category.date.name} " ++
      "operands; use '+' or '-' with a number of days."
  | weekdayOrdering op => s!"Operator '{op.symbol}' is not supported for " ++
      s!"{Category.weekday.name} operands; use '==' or '!='."

def Comparison.checkFor (op : Comparison) (c : Category) : Except OperatorFault Unit :=
  if op.isDefinedFor c then .ok () else .error (.weekdayOrdering op)

/-- What an operator and the number on its right do to a value. -/
inductive Change where
  /-- A date moves by whole days, back for a negative number. -/
  | move (days : Int)
  /-- An integer is combined with the number. -/
  | combine (op : Arithmetic) (right : Int)
deriving DecidableEq, Repr

/-- The category of the values that a change takes and gives. -/
def Change.category : Change → Category
  | move _ => .date
  | combine .. => .integer

/-- Dates are moved by sums and differences alone; integers admit every operator, division by zero
apart. -/
def Arithmetic.change (op : Arithmetic) (c : Category) (right : Int) :
    Except OperatorFault Change :=
  if c = .weekday then .error .weekdayArithmetic
  else if (op = .divide ∨ op = .modulo) ∧ right = 0 then .error (.zeroDivisor op)
  else match c, op with
    | .date, .add => .ok (.move right)
    | .date, .subtract => .ok (.move (-right))
    | .date, op => .error (.dateArithmetic op)
    | _, op => .ok (.combine op right)

end DateRules
