import DateRules.Data
import DateRules.Text.Base64
import DateRules.Text.Case
import DateRules.Yaml.PlainForm

/-!
The values of scalars by their type. A text that a tag puts into a type may be any text.
-/
namespace DateRules.Yaml

def noValue : Fault := .scalar .noValue

/-- Whether a minus sign stands in front, and what follows the sign. -/
def splitSign (cs : List Char) : Bool × List Char := (cs.head? == some '-', dropSign cs)

def trimEntry (cs : List Char) : List Char :=
  let drop (cs : List Char) := cs.dropWhile Text.Numeral.isEntryBlank
  (drop (drop cs).reverse).reverse

/-- The value of a digit of any script, or of a letter as a digit. -/
def digitValue? (c : Char) : Option Nat := (Text.decimalValue? c).or (hexValue? c)

/-- The letter after a zero with which numbers of a base may begin. -/
def baseLetters : List (Nat × List Char) := [(2, ['b', 'B']), (8, ['o', 'O']), (16, ['x', 'X'])]

/-- A whole number of a base: blanks, a sign and a mark of the base may stand before its digits. -/
def wholeNumber? (base : Nat) (cs : List Char) : Option Int := do
  let (negative, ds) := splitSign (trimEntry cs)
  let ds := match ds with
    | '0' :: x :: more => if ((baseLetters.lookup base).getD []).contains x then more else ds
    | ds => ds
  if ds.isEmpty || (base == 10 && Text.Numeral.maxDigits < ds.length) then none
  let n ← ds.foldlM (fun n c => ((digitValue? c).filter (· < base)).map (base * n + ·)) 0
  return if negative then -(n : Int) else n

def unsignedInteger? (cs : List Char) : Option Int :=
  match cs with
  | '0' :: 'b' :: ds => wholeNumber? 2 ds
  | '0' :: 'x' :: ds => wholeNumber? 16 ds
  | '0' :: _ => wholeNumber? 8 cs
  | _ => (cs.splitOn ':').foldlM (fun n g => (wholeNumber? 10 g).map (60 * n + ·)) 0

/-- Underscores are left out first. -/
def integerValue (cs : List Char) : Except Fault Data :=
  let cs := cs.filter (· != '_')
  let (negative, ds) := splitSign cs
  if ds.isEmpty then .error (.scalar .emptyNumber)
  else match unsignedInteger? ds with
    | some n => .ok (.integer (if negative then -n else n))
    | none => .error noValue

def asciiDigits (cs : List Char) : List Char :=
  cs.map fun c => ((Text.decimalValue? c).map Nat.digitChar).getD c

def exponentValue? (cs : List Char) : Option Int :=
  let (negative, ds) := splitSign cs
  if ds.isEmpty || !ds.all Char.isDigit then none
  else some (if negative then -(Text.Numeral.magnitude ds : Int) else Text.Numeral.magnitude ds)

def unsignedReal? (negative : Bool) (cs : List Char) : Option Binary64 := do
  let (whole, rest) := cs.span Char.isDigit
  let (places, rest) := match rest with
    | '.' :: rest => rest.span Char.isDigit
    | rest => ([], rest)
  let exponent ← match rest with
    | [] => some 0
    | 'e' :: rest => exponentValue? rest
    | _ => none
  if whole.isEmpty && places.isEmpty then none
  else some <|
    .ofDecimal negative (Text.Numeral.magnitude (whole ++ places)) (exponent - places.length)

/-- A real number as it is entered: in decimal, infinite or none. -/
def realNumber? (cs : List Char) : Option Binary64 :=
  let (negative, ds) := splitSign (asciiDigits (trimEntry cs))
  if ["inf", "infinity"].contains (String.ofList ds) then some (.infinite negative)
  else if ds == "nan".toList then some .nan
  else unsignedReal? negative ds

/-- The number that groups of base 60 write, the last one first. Each step is rounded. -/
def sixtieths (sum : Binary64) (base : Nat) : List Binary64 → Except Fault Binary64
  | [] => .ok sum
  | x :: xs =>
    match Binary64.ofInt base with
    | .infinite _ => .error (.scalar .tooLarge)
    | b => sixtieths (sum.add (x.mul b)) (60 * base) xs

/-- The sign of a real number and what follows it; underscores and case do not count. -/
def splitReal (cs : List Char) : Bool × List Char :=
  splitSign (Text.lower (cs.filter (· != '_')))

def isNoNumberMark (cs : List Char) : Bool := (splitReal cs).2 == ".nan".toList

def realValue (cs : List Char) : Except Fault Data := do
  let (negative, ds) := splitReal cs
  let signed (x : Binary64) : Data := .real (if negative then x.neg else x)
  if cs.all (· == '_') then throw (.scalar .emptyNumber)
  if ds == ".inf".toList then return signed (.infinite false)
  if isNoNumberMark cs then return .real .nan
  if ds.contains ':' then
    match (ds.splitOn ':').mapM realNumber? with
    | some xs => return signed (← sixtieths (.ofInt 0) 1 xs.reverse)
    | none => throw noValue
  match realNumber? ds with
  | some x => return signed x
  | none => throw noValue

/-- Six digits of a second's fraction; further ones are dropped. -/
def microseconds (fraction : List Char) : Nat :=
  Text.Numeral.magnitude ((fraction ++ List.replicate 6 '0').take 6)

def Timestamp.offset (t : Timestamp) : Option Int :=
  t.zone.map fun (negative, hours, minutes) =>
    let n := 60 * Text.Numeral.magnitude hours + Text.Numeral.magnitude minutes
    if negative then -(n : Int) else n

def Timestamp.value? (t : Timestamp) : Option Data := do
  let d ← Date.ofParts? (Text.Numeral.magnitude t.year) (Text.Numeral.magnitude t.month)
    (Text.Numeral.magnitude t.day)
  match t.time with
  | none => return .date d
  | some (hour, minute, second, fraction) =>
    .moment <$> Moment.ofParts? d (Text.Numeral.magnitude hour) (Text.Numeral.magnitude minute)
      (Text.Numeral.magnitude second) (microseconds fraction) t.offset

def timestampValue (cs : List Char) : Except Fault Data :=
  match Timestamp.ofChars? (dropLastBreak cs) with
  | some t => (t.value?.map .ok).getD (.error noValue)
  | none => .error (.scalar .notADate)

def truthValue (cs : List Char) : Except Fault Data :=
  let word := String.ofList (Text.lower cs)
  if ["yes", "true", "on"].contains word then .ok (.bool true)
  else if ["no", "false", "off"].contains word then .ok (.bool false)
  else .error (.scalar .notATruthValue)

def bytesValue (cs : List Char) : Except Fault Data :=
  match if cs.all fun c => c.toNat < 0x80 then Text.bytesOfBase64? cs else none with
  | some bs => .ok (.bytes bs)
  | none => .error .invalid

def scalarTypes (m : Text.StandIns) : List (String × (List Char → Except Fault Data)) := [
  ("null", fun _ => .ok .null),
  ("bool", truthValue),
  ("int", integerValue),
  ("float", realValue),
  ("binary", bytesValue),
  ("timestamp", timestampValue),
  ("str", fun cs => .ok (.ofString m (String.ofList cs)))]

end DateRules.Yaml
