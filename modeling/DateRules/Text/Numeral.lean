import DateRules.Text.Blank
import DateRules.Text.Digit

/-!
Whole numbers in decimal: an optional sign and at least one digit, of any script. A numeral of more
than 4300 digits is recognised but has no value.
-/
namespace DateRules.Text

structure Numeral where
  negative : Bool
  digits : List Char
deriving DecidableEq, Repr

namespace Numeral

def maxDigits : Nat := 4300

/-- The number that digits write, most significant first. -/
def magnitude (digits : List Char) : Nat :=
  digits.foldl (fun n c => 10 * n + (decimalValue? c).getD 0) 0

def unsigned? (negative : Bool) (digits : List Char) : Option Numeral :=
  if !digits.isEmpty && digits.all isDecimal then some ⟨negative, digits⟩ else none

def ofChars? : List Char → Option Numeral
  | '-' :: digits => unsigned? true digits
  | '+' :: digits => unsigned? false digits
  | digits => unsigned? false digits

def value? (n : Numeral) : Option Int :=
  if n.digits.length ≤ maxDigits then
    some (if n.negative then -(magnitude n.digits : Int) else magnitude n.digits)
  else none

/-- Blanks around an entered number; the separators U+001C to U+001F are none here. -/
def isEntryBlank (c : Char) : Bool := isBlank c && !(0x1C ≤ c.toNat && c.toNat ≤ 0x1F)

/-- Digits in groups that single underscores separate. -/
def ungroup? (cs : List Char) : Option (List Char) :=
  let groups := cs.splitOn '_'
  if groups.all fun g => !g.isEmpty && g.all isDecimal then some groups.flatten else none

/-- A number as it is entered: blanks may stand around it, and underscores between its digits. -/
def ofEntry? (cs : List Char) : Option Numeral :=
  let cs := ((cs.dropWhile isEntryBlank).reverse.dropWhile isEntryBlank).reverse
  match cs with
  | '-' :: digits => (ungroup? digits).map (⟨true, ·⟩)
  | '+' :: digits => (ungroup? digits).map (⟨false, ·⟩)
  | digits => (ungroup? digits).map (⟨false, ·⟩)

end Numeral
end DateRules.Text
