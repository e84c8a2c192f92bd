/-!
Real numbers with 53 binary digits, held exactly as a mantissa and a power of two. `ofRatio` rounds
a quotient to the nearest of them, a tie to the even mantissa.
-/
namespace DateRules

/-- A finite number is `mantissa * 2 ^ exponent`, with `mantissa < 2 ^ 53` and `-1074 ≤ exponent`;
the mantissa is below `2 ^ 52` only for the least exponent. -/
inductive Binary64 where
  | finite (negative : Bool) (mantissa : Nat) (exponent : Int)
  | infinite (negative : Bool)
  | nan
deriving DecidableEq, Repr

/-- The nearest whole number to `num / den`, a tie to the even one. -/
def roundHalfEven (num den : Nat) : Nat :=
  let q := num / den
  let twice := 2 * (num % den)
  if twice < den || (twice == den && q % 2 == 0) then q else q + 1

namespace Binary64

def leastFullMantissa : Nat := 0x10000000000000

def minExponent : Int := -1074
def maxExponent : Int := 971

/-- `num / den` as a quotient of whole numbers in units of `2 ^ exponent`. -/
def inUnits (num den : Nat) (exponent : Int) : Nat × Nat :=
  (num * Nat.pow 2 (-exponent).toNat, den * Nat.pow 2 exponent.toNat)

/-- The exponent at which `num / den` has 53 binary digits, or the least one. -/
def exponentOf (num den : Nat) : Int :=
  let guess : Int := (num.log2 : Int) - den.log2 - 52
  let (n, d) := inUnits num den guess
  max minExponent (if n < leastFullMantissa * d then guess - 1 else guess)

def ofRatio (negative : Bool) (num den : Nat) : Binary64 :=
  if num = 0 then finite negative 0 minExponent else
  let exponent := exponentOf num den
  let (n, d) := inUnits num den exponent
  let mantissa := roundHalfEven n d
  let (mantissa, exponent) :=
    if mantissa = 2 * leastFullMantissa then (leastFullMantissa, exponent + 1)
    else (mantissa, exponent)
  if maxExponent < exponent then infinite negative else finite negative mantissa exponent

def ofInt (z : Int) : Binary64 := ofRatio (z < 0) z.natAbs 1

/-- `digits * 10 ^ exponent`. Beyond 400 places on either side nothing is left to round. -/
def ofDecimal (negative : Bool) (digits : Nat) (exponent : Int) : Binary64 :=
  let places := exponent + (Nat.toDigits 10 digits).length
  if digits = 0 || places < -400 then finite negative 0 minExponent
  else if 400 < places then infinite negative
  else ofRatio negative (digits * Nat.pow 10 exponent.toNat) (Nat.pow 10 (-exponent).toNat)

def ratio (mantissa : Nat) (exponent : Int) : Nat × Nat :=
  (mantissa * Nat.pow 2 exponent.toNat, Nat.pow 2 (-exponent).toNat)

/-- The whole part of a finite number, toward zero. -/
def truncate? : Binary64 → Option Int
  | finite negative mantissa exponent =>
    let (n, d) := ratio mantissa exponent
    some (if negative then -((n / d : Nat) : Int) else (n / d : Nat))
  | _ => none

def integer? (x : Binary64) : Option Int :=
  x.truncate?.filter fun z => x == ofInt z || z == 0 && x == finite true 0 minExponent

def isZero (x : Binary64) : Bool := x.integer? == some 0

def neg : Binary64 → Binary64
  | finite negative mantissa exponent => finite (!negative) mantissa exponent
  | infinite negative => infinite (!negative)
  | nan => nan

/-- A finite number in units of `2 ^ exponent`, if its own exponent is not less. -/
def units (negative : Bool) (mantissa : Nat) (own exponent : Int) : Int :=
  let n := mantissa * Nat.pow 2 (own - exponent).toNat
  if negative then -(n : Int) else n

/-- The sum, rounded. A sum of zero is negative only if both numbers are. -/
def add : Binary64 → Binary64 → Binary64
  | nan, _ | _, nan => nan
  | infinite a, infinite b => if a = b then infinite a else nan
  | infinite a, finite .. | finite .., infinite a => infinite a
  | finite a m e, finite b n f =>
    let low := min e f
    let sum := units a m e low + units b n f low
    let (num, den) := ratio sum.natAbs low
    ofRatio (if sum = 0 then a && b else sum < 0) num den

def mul : Binary64 → Binary64 → Binary64
  | nan, _ | _, nan => nan
  | infinite a, infinite b => infinite (a != b)
  | infinite a, finite b n _ | finite b n _, infinite a => if n = 0 then nan else infinite (a != b)
  | finite a m e, finite b n f =>
    let (num, den) := ratio (m * n) (e + f)
    ofRatio (a != b) num den

/-- At most; nothing is at most or at least what is no number. -/
def le : Binary64 → Binary64 → Bool
  | nan, _ | _, nan => false
  | infinite a, infinite b => a || !b
  | infinite a, finite .. => a
  | finite .., infinite b => !b
  | finite a m e, finite b n f => units a m e (min e f) ≤ units b n f (min e f)

/-- In the layout of 64 bits: sign, 11 bits of the exponent and 52 of the mantissa. -/
def toFloat (x : Binary64) : Float :=
  let bits (negative : Bool) (exponent mantissa : Nat) : Float :=
    .ofBits (.ofNat ((2048 * negative.toNat + exponent) * leastFullMantissa + mantissa))
  match x with
  | nan => bits false 2047 1
  | infinite negative => bits negative 2047 0
  | finite negative mantissa exponent =>
    if mantissa < leastFullMantissa then bits negative 0 mantissa
    else bits negative (exponent - minExponent + 1).toNat (mantissa - leastFullMantissa)

def ofFloat (x : Float) : Binary64 :=
  let bits := x.toBits.toNat
  let mantissa := bits % leastFullMantissa
  let exponent := bits / leastFullMantissa % 2048
  let negative := 2048 ≤ bits / leastFullMantissa
  if exponent = 2047 then (if mantissa = 0 then infinite negative else nan)
  else if exponent = 0 then finite negative mantissa minExponent
  else finite negative (leastFullMantissa + mantissa) (exponent - 1 + minExponent)

/-- The power that floating-point arithmetic gives. It need not be the nearest number to the exact
power. -/
def pow (x y : Binary64) : Binary64 := ofFloat (x.toFloat.pow y.toFloat)

end Binary64
end DateRules
