import DateRules.Calendar.Date
import DateRules.Text.Digit

/-!
Dates written `YYYY-MM-DD`. The form admits the decimal digits of every script; a date is denoted
only by ASCII digits that name a day of the calendar.
-/
namespace DateRules

def lastDigit (n : Nat) : Char := Char.ofNat ('0'.toNat + n % 10)

/-- Four decimal digits, two and two, separated by dashes. -/
def hasIsoForm : List Char → Bool
  | [a, b, c, d, '-', e, f, '-', g, h] => [a, b, c, d, e, f, g, h].all Text.isDecimal
  | _ => false

def asciiNumber? (cs : List Char) : Option Nat :=
  if cs.all Char.isDigit then some (cs.foldl (fun n c => 10 * n + (c.toNat - '0'.toNat)) 0)
  else none

namespace Date

/-- Four digits of the year, two of the month and two of the day. -/
def isoChars (d : Date) : List Char := [
  lastDigit (d.year / 1000), lastDigit (d.year / 100), lastDigit (d.year / 10), lastDigit d.year,
  '-', lastDigit (d.month / 10), lastDigit d.month, '-', lastDigit (d.day / 10), lastDigit d.day]

def iso (d : Date) : String := String.ofList d.isoChars

/-- The date of an exact `YYYY-MM-DD` text. -/
def ofIso? : List Char → Option Date
  | [a, b, c, d, '-', e, f, '-', g, h] => do
    ofParts? (← asciiNumber? [a, b, c, d]) (← asciiNumber? [e, f]) (← asciiNumber? [g, h])
  | _ => none

end Date

/-- A text in the form of a date: the date, or that no such day exists. -/
inductive IsoReading where
  | otherForm
  | noSuchDay
  | date (d : Date)
deriving DecidableEq, Repr

def IsoReading.ofChars (cs : List Char) : IsoReading :=
  if hasIsoForm cs then
    match Date.ofIso? cs with
    | some d => .date d
    | none => .noSuchDay
  else .otherForm

end DateRules
