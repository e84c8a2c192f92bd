/-!
Bytes written by characters of six bits each. Characters outside the alphabet are skipped, and
padding ends the text.
-/
namespace DateRules.Text

def sixBits? (c : Char) : Option Nat :=
  if 'A' ≤ c ∧ c ≤ 'Z' then some (c.toNat - 'A'.toNat)
  else if 'a' ≤ c ∧ c ≤ 'z' then some (c.toNat - 'a'.toNat + 26)
  else if '0' ≤ c ∧ c ≤ '9' then some (c.toNat - '0'.toNat + 52)
  else if c = '+' then some 62
  else if c = '/' then some 63
  else none

/-- The bytes of the rest of a text. `pending` holds the characters since the last whole group of
four, latest first, and `padding` counts the padding since then. -/
def bytesFrom (pending : List Nat) (padding : Nat) : List Char → Option (List UInt8)
  | [] => if pending.isEmpty then some [] else none
  | c :: cs =>
    if c = '=' then
      if 2 ≤ pending.length ∧ 4 ≤ pending.length + padding + 1 then some []
      else bytesFrom pending (if 2 ≤ pending.length then padding + 1 else padding) cs
    else match sixBits? c, pending with
      | none, _ => bytesFrom pending padding cs
      | some b, [] => bytesFrom [b] 0 cs
      | some b, [a] => (bytesFrom [b, a] 0 cs).map ((a * 4 + b / 16).toUInt8 :: ·)
      | some b, [z, a] => (bytesFrom [b, z, a] 0 cs).map ((z % 16 * 16 + b / 4).toUInt8 :: ·)
      | some b, z :: _ => (bytesFrom [] 0 cs).map ((z % 4 * 64 + b).toUInt8 :: ·)

def bytesOfBase64? (cs : List Char) : Option (List UInt8) := bytesFrom [] 0 cs

end DateRules.Text
