import DateRules.Data

/-!
The order in which a set lists its members. Numbers are listed by their places in a table: each has
the place of its residue, or, if that is taken, the first free one of a fixed sequence of places.
Other members are listed in the order of their entries.
-/
namespace DateRules.SetOrder

/-- Numbers count by their residues modulo the prime `2 ^ 61 - 1`. -/
def modulus : Nat := 0x1FFFFFFFFFFFFFFF

def residue? : Data → Option Int
  | .bool b => some b.toNat
  | .integer z => some (z.tmod modulus)
  | .real (.finite negative mantissa exponent) =>
    let n := mantissa * Nat.pow 2 (exponent.emod 61).toNat % modulus
    some (if negative then -n else n)
  | .real (.infinite negative) => some (if negative then -314159 else 314159)
  | _ => none

/-- A residue in 64 bits; that of minus one is minus two. -/
def code? (v : Data) : Option Nat :=
  (residue? v).map fun r => ((if r = -1 then -2 else r).emod 0x10000000000000000).toNat

/-- The number of places: a power of two, more than twice the number of members but for the least
sets. -/
def tableSize (members : Nat) : Nat :=
  if members ≤ 4 then 8 else Nat.pow 2 ((2 * members).log2 + 1)

/-- The first free place from `start` on. Next to a place that is not among the last, nine more are
tried; the start after them depends on the code, of which five bits are dropped each time. -/
def freePlace (table : Array (Option Data)) : (fuel : Nat) → (code start : Nat) → Nat
  | 0, _, start => start
  | fuel + 1, code, start =>
    let tried := if start + 9 < table.size then 10 else 1
    match (List.range' start tried).find? fun i => (table.getD i none).isNone with
    | some i => i
    | none => freePlace table fuel (code / 32) ((5 * start + 1 + code / 32) % table.size)

/-- Thirteen steps use up the code, and further ones go through all places. -/
def place (table : Array (Option Data)) (member : Data × Nat) : Array (Option Data) :=
  let (v, code) := member
  table.set! (freePlace table (table.size + 13) code (code % table.size)) (some v)

def listed (members : List Data) : List Data :=
  match members.mapM code? with
  | none => members
  | some codes =>
    let table := (members.zip codes).foldl place (Array.replicate (tableSize members.length) none)
    table.toList.filterMap id

end DateRules.SetOrder
