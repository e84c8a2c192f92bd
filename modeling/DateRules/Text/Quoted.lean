import DateRules.Text.Printable
import DateRules.Text.Surrogate

/-!
Texts in quotes, as messages show them: single quotes, or double ones around a text that holds a
single quote and no double one.
-/
namespace DateRules.Text

def hexPadded (width n : Nat) : List Char :=
  let digits := Nat.toDigits 16 n
  List.replicate (width - digits.length) '0' ++ digits

/-- The shortest of the three escapes that has room for the code point. -/
def escapeCode (n : Nat) : List Char :=
  if n < 0x100 then '\\' :: 'x' :: hexPadded 2 n
  else if n < 0x10000 then '\\' :: 'u' :: hexPadded 4 n
  else '\\' :: 'U' :: hexPadded 8 n

/-- A character with its code point between marks; those outside the class `plain` are escaped. -/
def quoteChar (plain : Char → Bool) (code : Char → Nat) (mark c : Char) : List Char :=
  if c = mark || c = '\\' then ['\\', c]
  else if c = '\n' then ['\\', 'n']
  else if c = '\r' then ['\\', 'r']
  else if c = '\t' then ['\\', 't']
  else if plain c then [c]
  else escapeCode (code c)

def quoteWith (plain : Char → Bool) (code : Char → Nat) (cs : List Char) : String :=
  let mark := if cs.contains '\'' && !cs.contains '"' then '"' else '\''
  String.ofList (mark :: cs.flatMap (quoteChar plain code mark) ++ [mark])

def quote (s : String) : String := quoteWith isPrintable Char.toNat s.toList

def quoteMeant (m : StandIns) (s : String) : String :=
  quoteWith isPrintable (fun c => (m.surrogate? c).getD c.toNat) s.toList

/-- Bytes as the characters with their codes; only those of ASCII stand for themselves. -/
def quoteBytes (bytes : List UInt8) : String :=
  "b" ++ quoteWith (fun c => isPrintable c && c.toNat < 0x80) Char.toNat
    (bytes.map fun b => Char.ofNat b.toNat)

end DateRules.Text
