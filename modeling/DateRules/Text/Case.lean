import DateRules.Text.CasedLetters
import DateRules.Text.CaseFold
import DateRules.Text.Lowercase
import DateRules.Text.Uppercase

/-!
Full case mappings of texts. A character may become several, and a capital sigma becomes `ς` at the
end of a word and `σ` elsewhere.
-/
namespace DateRules.Text

/-- Whether the nearest character that case rules do not skip is a letter with case. -/
def nextIsCased (cs : List Char) : Bool :=
  match cs.find? fun c => !caseIgnorable.contains c with
  | some c => casedLetters.contains c
  | none => false

/-- The lower case of a sigma between `before`, nearest first, and `after`. -/
def lowerSigma (before after : List Char) : Char :=
  if nextIsCased before && !nextIsCased after then 'ς' else 'σ'

def lowerFrom (before : List Char) : List Char → List Char
  | [] => []
  | c :: after =>
    (if c = 'Σ' then [lowerSigma before after] else lowercaseMapping.apply c) ++
      lowerFrom (c :: before) after

def lower (cs : List Char) : List Char := lowerFrom [] cs

def upper (cs : List Char) : List Char := cs.flatMap uppercaseMapping.apply

/-- Bytes have case where they stand for letters of ASCII. -/
def upperBytes (bs : List UInt8) : List UInt8 :=
  bs.map fun b => if 0x61 ≤ b ∧ b ≤ 0x7A then b - 0x20 else b

/-- Texts that differ in case alone have the same folding. -/
def caseFold (cs : List Char) : List Char := cs.flatMap caseFoldMapping.apply

end DateRules.Text
