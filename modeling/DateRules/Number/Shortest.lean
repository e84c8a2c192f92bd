import DateRules.Number.Binary64

/-!
The shortest decimal text of a binary number: the fewest digits that no other number is nearer to,
and of those the nearest.
-/
namespace DateRules

structure Decimal where
  digits : Nat
  exponent : Int
deriving DecidableEq, Repr

def leadingPower (num den : Nat) : Int :=
  if den ≤ num then ((Nat.toDigits 10 (num / den)).length : Int) - 1
  else
    let places := (Nat.toDigits 10 (den / num)).length
    if den ≤ num * Nat.pow 10 (places - 1) then 1 - (places : Int) else -(places : Int)

/-- The numbers between `low` and `high`, all over one denominator, around `value`; the ends belong
to it if `closed`. -/
structure RoundingInterval where
  low : Nat
  value : Nat
  high : Nat
  den : Nat
  closed : Bool
deriving Repr

namespace RoundingInterval

/-- What rounds to `mantissa * 2 ^ exponent`: half a unit up, and down half a unit or, below a power
of two, a quarter. -/
def of (mantissa : Nat) (exponent : Int) : RoundingInterval :=
  let down :=
    if mantissa = Binary64.leastFullMantissa ∧ Binary64.minExponent < exponent then 1 else 2
  let scale := Nat.pow 2 exponent.toNat
  { low := (4 * mantissa - down) * scale
    value := 4 * mantissa * scale
    high := (4 * mantissa + 2) * scale
    den := 4 * Nat.pow 2 (-exponent).toNat
    closed := mantissa % 2 == 0 }

def contains (i : RoundingInterval) (n d : Nat) : Bool :=
  let x := n * i.den
  (i.low * d < x && x < i.high * d) || (i.closed && (x == i.low * d || x == i.high * d))

/-- The better of the two neighbours of the value with that many digits, if one is inside. -/
def onGrid? (i : RoundingInterval) (digitCount : Nat) : Option Decimal :=
  let unit := leadingPower i.value i.den + 1 - digitCount
  let up := Nat.pow 10 unit.toNat
  let down := Nat.pow 10 (-unit).toNat
  let below := i.value * down / (i.den * up)
  let above := below + 1
  match i.contains (below * up) down, i.contains (above * up) down with
  | false, false => none
  | true, false => some ⟨below, unit⟩
  | false, true => some ⟨above, unit⟩
  | true, true => some ⟨roundHalfEven (i.value * down) (i.den * up), unit⟩

end RoundingInterval

def Decimal.strip : (fuel : Nat) → Decimal → Decimal
  | 0, d => d
  | fuel + 1, d =>
    if d.digits % 10 = 0 ∧ d.digits ≠ 0 then strip fuel ⟨d.digits / 10, d.exponent + 1⟩ else d

/-- Seventeen digits always suffice. -/
def shortestDecimal (mantissa : Nat) (exponent : Int) : Decimal :=
  let i := RoundingInterval.of mantissa exponent
  let found := (List.range 17).findSome? fun k => i.onGrid? (k + 1)
  (found.getD ⟨mantissa, exponent⟩).strip 20

/-- Positional from `10 ^ -4` to below `10 ^ 16`, with at least one decimal; else one digit before
the point and a signed exponent of at least two digits. -/
def Decimal.text (d : Decimal) : String :=
  let ds := Nat.toDigits 10 d.digits
  let power := d.exponent + ds.length - 1
  if power < -4 ∨ 16 ≤ power then
    let tail := if ds.length = 1 then [] else '.' :: ds.drop 1
    let size := Nat.toDigits 10 power.natAbs
    String.ofList (ds.take 1 ++ tail ++ ['e', if power < 0 then '-' else '+'] ++
      List.replicate (2 - size.length) '0' ++ size)
  else if power < 0 then
    String.ofList ('0' :: '.' :: List.replicate (power.natAbs - 1) '0' ++ ds)
  else
    let whole := power.toNat + 1
    let decimals := if ds.length ≤ whole then ['0'] else ds.drop whole
    String.ofList (ds.take whole ++ List.replicate (whole - ds.length) '0' ++ '.' :: decimals)

def Binary64.text : Binary64 → String
  | nan => "nan"
  | infinite negative => if negative then "-inf" else "inf"
  | finite negative mantissa exponent =>
    (if negative then "-" else "") ++
      (if mantissa = 0 then "0.0" else (shortestDecimal mantissa exponent).text)

end DateRules
