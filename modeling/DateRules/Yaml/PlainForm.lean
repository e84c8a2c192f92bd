import DateRules.Yaml.Tag

/-!
The standard type that an untagged plain text has by its form (YAML 1.1): a truth value, a real
number, an integer, null, a timestamp, one of two marks, or else a text.
-/
namespace DateRules.Yaml

def nullTexts : List String := ["", "~", "null", "Null", "NULL"]

def truthTexts : List String := [
  "yes", "Yes", "YES", "no", "No", "NO", "true", "True", "TRUE", "false", "False", "FALSE",
  "on", "On", "ON", "off", "Off", "OFF"]

/-- The mark of a mapping's entries that are merged into another. -/
def mergeMark : String := "<<"

/-- The mark of the value that a mapping has by default. -/
def valueMark : String := "="

def dropSign : List Char → List Char
  | '-' :: cs | '+' :: cs => cs
  | cs => cs

def isDigitOf (base : Nat) (c : Char) : Bool :=
  c == '_' || (hexValue? c).any (· < base)

def isDigitGroup (cs : List Char) : Bool := cs.head?.any Char.isDigit && cs.all (isDigitOf 10)

/-- A group after a colon: a digit, or two that write less than 60. -/
def isSixtieth : List Char → Bool
  | [a] => a.isDigit
  | [a, b] => '0' ≤ a && a ≤ '5' && b.isDigit
  | _ => false

/-- Binary, octal after a zero, decimal, hexadecimal, or in groups of base 60. -/
def isIntegerForm (cs : List Char) : Bool :=
  match dropSign cs with
  | ['0'] => true
  | '0' :: 'b' :: ds => !ds.isEmpty && ds.all (isDigitOf 2)
  | '0' :: 'x' :: ds => !ds.isEmpty && ds.all (isDigitOf 16)
  | '0' :: ds => ds.all (isDigitOf 8)
  | ds =>
    match ds.splitOn ':' with
    | first :: more => isDigitGroup first && more.all isSixtieth
    | [] => false

def isExponent : List Char → Bool
  | [] => true
  | e :: sign :: ds =>
    (e == 'e' || e == 'E') && (sign == '+' || sign == '-') && !ds.isEmpty && ds.all Char.isDigit
  | _ => false

/-- Digits around a point and an exponent; the digits before the point may be in groups of base 60
if there is no exponent. Without a sign, there need not be digits before the point. -/
def isDecimalForm (cs : List Char) : Bool :=
  let unsigned := dropSign cs
  let (whole, rest) := unsigned.span (· != '.')
  let (places, exponent) := (rest.drop 1).span (isDigitOf 10)
  rest.head? == some '.' &&
    if whole.isEmpty then unsigned.length == cs.length && isDigitGroup places && isExponent exponent
    else match whole.splitOn ':' with
      | [ds] => isDigitGroup ds && isExponent exponent
      | first :: more => isDigitGroup first && more.all isSixtieth && exponent.isEmpty
      | [] => false

def isRealForm (cs : List Char) : Bool :=
  isDecimalForm cs ||
    [".inf", ".Inf", ".INF"].contains (String.ofList (dropSign cs)) ||
    [".nan", ".NaN", ".NAN"].contains (String.ofList cs)

/-- The digits of a date, and those of a time with the offset of its zone. -/
structure Timestamp where
  year : List Char
  month : List Char
  day : List Char
  time : Option (List Char × List Char × List Char × List Char)
  /-- The sign and the digits of an offset; `Z` is the offset zero. -/
  zone : Option (Bool × List Char × List Char)
deriving Repr

/-- Between `least` and `most` ASCII digits, as many as there are. -/
def digits? (least most : Nat) (cs : List Char) : Option (List Char × List Char) :=
  let ds := (cs.takeWhile Char.isDigit).take most
  if least ≤ ds.length then some (ds, cs.drop ds.length) else none

def after? (x : Char) : List Char → Option (List Char)
  | c :: cs => if c = x then some cs else none
  | [] => none

def zone? (cs : List Char) : Option (Option (Bool × List Char × List Char)) :=
  match cs.dropWhile isSpace with
  | [] => if cs.isEmpty then some none else none
  | ['Z'] => some (some (false, ['0'], []))
  | sign :: rest => do
    if sign != '+' && sign != '-' then none
    let (hours, rest) ← digits? 1 2 rest
    match rest with
    | [] => return some (sign == '-', hours, [])
    | ':' :: rest =>
      let (minutes, rest) ← digits? 2 2 rest
      if rest.isEmpty then return some (sign == '-', hours, minutes) else none
    | _ => none

def Timestamp.ofChars? (cs : List Char) : Option Timestamp := do
  let (year, cs) ← digits? 4 4 cs
  let (month, cs) ← digits? 1 2 (← after? '-' cs)
  let (day, cs) ← digits? 1 2 (← after? '-' cs)
  if cs.isEmpty then return ⟨year, month, day, none, none⟩
  let cs ← match cs with
    | 'T' :: cs | 't' :: cs => some cs
    | ' ' :: cs | '\t' :: cs => some (cs.dropWhile isSpace)
    | _ => none
  let (hour, cs) ← digits? 1 2 cs
  let (minute, cs) ← digits? 2 2 (← after? ':' cs)
  let (second, cs) ← digits? 2 2 (← after? ':' cs)
  let (fraction, cs) := match cs with
    | '.' :: cs => cs.span Char.isDigit
    | cs => ([], cs)
  return ⟨year, month, day, some (hour, minute, second, fraction), ← zone? cs⟩

/-- A date alone has two digits for the month and the day. -/
def isTimestampForm (cs : List Char) : Bool :=
  match Timestamp.ofChars? cs with
  | some t => t.time.isSome || (t.month.length == 2 && t.day.length == 2)
  | none => false

/-- A break at the very end does not count. -/
def dropLastBreak (cs : List Char) : List Char :=
  if cs.getLast? == some '\n' && cs != ['\n'] then cs.dropLast else cs

def plainForm (text : String) : String :=
  let cs := dropLastBreak text.toList
  let text := String.ofList cs
  if truthTexts.contains text then "bool"
  else if isRealForm cs then "float"
  else if isIntegerForm cs then "int"
  else if nullTexts.contains text then "null"
  else if isTimestampForm cs then "timestamp"
  else if text == mergeMark then "merge"
  else if text == valueMark then "value"
  else if ["!", "&", "*"].contains text then "yaml"
  else "str"

end DateRules.Yaml
