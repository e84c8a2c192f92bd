import DateRules.Calendar.Easter
import DateRules.Calendar.Iso
import DateRules.Number.Shortest
import DateRules.Operator

/-! The values that operands take on a date, and the ways in which finding one can fail. -/
namespace DateRules

inductive Value where
  | date (d : Date)
  | weekday (w : Weekday)
  | integer (z : Int)
deriving DecidableEq, Repr

inductive EvalError where
  | easterOutOfTable (year : Int)
  | outsideCalendar
  | divisionByZero
  | numberTooLarge
  | notWhole
  | wrongCategory (found expected : Category)
deriving DecidableEq, Repr

def Category.article : Category → String
  | .integer => "an"
  | .date | .weekday => "a"

def EvalError.message? : EvalError → Option String
  | easterOutOfTable year => some <|
      s!"Couldn't get Easter for year {year}; table covers {Easter.firstYear}-{Easter.lastYear}."
  | wrongCategory found expected => some
      s!"{found.name} value is not {expected.article} {expected.name}"
  | _ => none

namespace Value

def category : Value → Category
  | date _ => .date
  | weekday _ => .weekday
  | integer _ => .integer

def asDate : Value → Except EvalError Date
  | date d => .ok d
  | v => .error (.wrongCategory v.category .date)

def asInteger : Value → Except EvalError Int
  | integer z => .ok z
  | v => .error (.wrongCategory v.category .integer)

def asWeekday : Value → Except EvalError Weekday
  | weekday w => .ok w
  | v => .error (.wrongCategory v.category .weekday)

def order : Value → Value → Except EvalError Ordering
  | date a, date b => .ok (compare a b)
  | integer a, integer b => .ok (compare a b)
  | weekday a, weekday b => .ok (compare a.index b.index)
  | a, b => .error (.wrongCategory b.category a.category)

end Value

def easterSunday (year : Int) : Except EvalError Date :=
  match Easter.sunday? year with
  | some d => .ok d
  | none => .error (.easterOutOfTable year)

def Date.addDays (d : Date) (days : Int) : Except EvalError Date :=
  match d.addDays? days with
  | some e => .ok e
  | none => .error .outsideCalendar

/-- Results of arithmetic: a negative power of an integer is a real number. -/
inductive Number where
  | integer (z : Int)
  | real (x : Binary64)
deriving DecidableEq, Repr

/-- A power with a natural exponent. Of an exponent of zero, one or minus one only the parity
counts. -/
def naturalPower (base : Int) (exponent : Nat) : Int :=
  if base.natAbs ≤ 1 ∧ 2 < exponent then base.pow (2 - exponent % 2) else base.pow exponent

/-- A power with a negative exponent, of binary numbers. -/
def negativePower (base exponent : Int) : Except EvalError Number :=
  match Binary64.ofInt base, Binary64.ofInt exponent with
  | .infinite _, _ | _, .infinite _ => .error .numberTooLarge
  | b, n => if b.isZero then .error .divisionByZero else .ok (.real (b.pow n))

/-- Quotients round down, and a remainder has the sign of the divisor. -/
def Arithmetic.onInteger (op : Arithmetic) (left right : Int) : Except EvalError Number :=
  match op with
  | .add => .ok (.integer (left + right))
  | .subtract => .ok (.integer (left - right))
  | .multiply => .ok (.integer (left * right))
  | .divide => if right = 0 then .error .divisionByZero else .ok (.integer (left.fdiv right))
  | .modulo => if right = 0 then .error .divisionByZero else .ok (.integer (left.fmod right))
  | .power =>
    if 0 ≤ right then .ok (.integer (naturalPower left right.toNat)) else negativePower left right

def Number.whole : Number → Except EvalError Int
  | integer z => .ok z
  | real _ => .error .notWhole

/-- Change a value of the category that the change is for. -/
def Change.apply (c : Change) (v : Value) : Except EvalError Value :=
  match c with
  | move days => do
    let d ← v.asDate
    .date <$> d.addDays days
  | combine op right => do
    let z ← v.asInteger
    .integer <$> (← op.onInteger z right).whole

/-- What a name stands for on the date `d`. -/
def Quantity.on (q : Quantity) (d : Date) : Except EvalError Value :=
  match q with
  | date => .ok (.date d)
  | day => .ok (.integer d.day)
  | month => .ok (.integer d.month)
  | year => .ok (.integer d.year)
  | weekday => .ok (.weekday d.weekday)
  | dayNumber => .ok (.integer d.dayNumber)
  | dayOfYear => .ok (.integer d.dayOfYear)
  | easter => .date <$> easterSunday d.year
  | endOfMonth => .ok (.date d.endOfMonth)

end DateRules
