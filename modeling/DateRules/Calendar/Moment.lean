import DateRules.Calendar.DayCount
import DateRules.Calendar.Iso

/-!
A time of day on a date, to the microsecond, with or without its offset from universal time.
-/
namespace DateRules

structure Moment where
  date : Date
  hour : Nat
  minute : Nat
  second : Nat
  microsecond : Nat
  /-- Minutes ahead of universal time. -/
  offset : Option Int
deriving DecidableEq, Repr

namespace Moment

/-- A moment with parts in range; an offset is less than a day. -/
def ofParts? (date : Date) (hour minute second microsecond : Nat) (offset : Option Int) :
    Option Moment :=
  if hour < 24 ∧ minute < 60 ∧ second < 60 ∧ offset.all fun o => o.natAbs < 1440 then
    some ⟨date, hour, minute, second, microsecond, offset⟩
  else none

/-- Microseconds since the start of 1 January 1, in universal time if the offset is known. -/
def microseconds (t : Moment) : Int :=
  let minutes : Int := 60 * (24 * t.date.dayNumber + t.hour) + t.minute - t.offset.getD 0
  1000000 * (60 * minutes + t.second) + t.microsecond

/-- The same instant. Moments with and without an offset are never the same. -/
def isSame (s t : Moment) : Bool :=
  s.offset.isSome == t.offset.isSome && s.microseconds == t.microseconds

def twoDigits (n : Nat) : String := String.ofList [lastDigit (n / 10), lastDigit n]

/-- Six decimals of a second; a whole second has none. -/
def fractionText (microsecond : Nat) : String :=
  if microsecond = 0 then ""
  else String.ofList ('.' :: [100000, 10000, 1000, 100, 10, 1].map fun n =>
    lastDigit (microsecond / n))

def offsetText (offset : Int) : String :=
  (if offset < 0 then "-" else "+") ++ twoDigits (offset.natAbs / 60) ++ ":" ++
    twoDigits (offset.natAbs % 60)

def text (separator : String) (t : Moment) : String :=
  t.date.iso ++ separator ++ twoDigits t.hour ++ ":" ++ twoDigits t.minute ++ ":" ++
    twoDigits t.second ++ fractionText t.microsecond ++ (t.offset.map offsetText).getD ""

end Moment
end DateRules
