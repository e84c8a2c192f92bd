import DateRules.Text.Blank
import DateRules.Text.Numeral
import DateRules.Text.WordCharacter

/-!
Dates as genealogical records write them. Besides a plain date there are periods, ranges,
approximations, interpreted dates and phrases; a text that has no other form is a phrase.

Matching is by lists of successes: a date may end at several places, and the ways are listed in
order of preference.
-/
namespace DateRules.Gedcom

/-- The capital letter that `c` is taken for. Besides the ASCII letters these are the long s, the
Kelvin sign, and the i without and the I with a dot. -/
def letter? (c : Char) : Option Char :=
  if c.isUpper then some c
  else if c.isLower then some c.toUpper
  else if c = 'ſ' then some 'S'
  else if c.toNat = 0x212A then some 'K'
  else if c = 'ı' || c = 'İ' then some 'I'
  else none

/-- What follows `word`, whose letters may be of either case. -/
def afterWord? : (word cs : List Char) → Option (List Char)
  | [], cs => some cs
  | w :: word, c :: cs => if letter? c = some w || c = w then afterWord? word cs else none
  | _ :: _, [] => none

def afterBlanks? (cs : List Char) : Option (List Char) :=
  if Text.isBlank (cs.headD 'x') then some (cs.dropWhile Text.isBlank) else none

/-- One or more characters of a class, as many as there are, and what follows them. -/
def span1? (inClass : Char → Bool) (cs : List Char) : Option (List Char × List Char) :=
  match cs.span inClass with
  | ([], _) => none
  | found => some found

/-- A date of some calendar. The digits are as written. -/
structure WrittenDate where
  calendar : Option (List Char)
  day : Option (List Char)
  month : Option (List Char)
  year : List Char
  /-- The second year of a dual dating. -/
  dual : Option (List Char)
  beforeChrist : Bool
deriving DecidableEq, Repr

/-- `@#D`, the name of a calendar, `@` and blanks. -/
def calendarEscape? (cs : List Char) : Option (List Char × List Char) := do
  let rest ← afterWord? ['@', '#', 'D'] cs
  let (name, rest) ← span1? (fun c => Text.isWordCharacter c || c == ' ') rest
  let rest ← afterWord? ['@'] rest
  return (name, ← afterBlanks? rest)

def month? (cs : List Char) : Option (List Char × List Char) := do
  let (name, rest) ← span1? (fun c => (letter? c).isSome) cs
  if name.length = 3 || name.length = 4 then return (name, ← afterBlanks? rest) else none

def year? (calendar day month : Option (List Char)) (cs : List Char) :
    Option (WrittenDate × List Char) := do
  let (year, rest) ← span1? Text.isDecimal cs
  let (dual, rest) := match rest with
    | '/' :: more => match span1? Text.isDecimal more with
      | some (dual, more) => (some dual, more)
      | none => (none, rest)
    | _ => (none, rest)
  match afterWord? ['B', '.', 'C', '.'] (rest.dropWhile Text.isBlank) with
  | some rest => return (⟨calendar, day, month, year, dual, true⟩, rest)
  | none => return (⟨calendar, day, month, year, dual, false⟩, rest)

/-- The dates that `cs` begins with: with a day and a month, with a month, with a year alone. -/
def dates (cs : List Char) : List (WrittenDate × List Char) :=
  let (calendar, cs) := match calendarEscape? cs with
    | some (name, rest) => (some name, rest)
    | none => (none, cs)
  let full : Option (WrittenDate × List Char) := do
    let (day, rest) ← span1? Text.isDecimal cs
    let (month, rest) ← month? (← afterBlanks? rest)
    year? calendar (some day) (some month) rest
  let monthOnly : Option (WrittenDate × List Char) := do
    let (month, rest) ← month? cs
    year? calendar none (some month) rest
  full.toList ++ monthOnly.toList ++ (year? calendar none none cs).toList

inductive Part where
  | word (w : List Char)
  | date
  /-- A remark in parentheses, on one line. -/
  | phrase
deriving DecidableEq, Repr

def isPhrase (cs : List Char) : Bool :=
  cs.length ≥ 2 && cs.head? == some '(' && cs.getLast? == some ')' && !cs.contains '\n'

def beforeNext (parts : List Part) (rest : List Char) : Option (List Char) :=
  if parts.isEmpty then some rest else afterBlanks? rest

/-- The dates of each way in which the whole text has the form. -/
def ways : List Part → List Char → List (List WrittenDate)
  | [], cs => if cs.isEmpty then [[]] else []
  | .word w :: parts, cs =>
    match (afterWord? w cs).bind (beforeNext parts) with
    | some rest => ways parts rest
    | none => []
  | .date :: parts, cs =>
    (dates cs).flatMap fun (d, rest) => match beforeNext parts rest with
      | some rest => (ways parts rest).map (d :: ·)
      | none => []
  | .phrase :: _, cs => if isPhrase cs then [[]] else []

/-- The forms other than a plain date, in the order in which they are tried. -/
def qualifiedForms : List (List Part) := [
  [.word "FROM".toList, .date, .word "TO".toList, .date],
  [.word "FROM".toList, .date],
  [.word "TO".toList, .date],
  [.word "BET".toList, .date, .word "AND".toList, .date],
  [.word "BEF".toList, .date],
  [.word "AFT".toList, .date],
  [.word "ABT".toList, .date],
  [.word "CAL".toList, .date],
  [.word "EST".toList, .date],
  [.word "INT".toList, .date, .phrase],
  [.phrase]]

inductive DateValue where
  | plain (d : WrittenDate)
  | qualified (ds : List WrittenDate)
  | phrase
deriving DecidableEq, Repr

def DateValue.dates : DateValue → List WrittenDate
  | plain d => [d]
  | qualified ds => ds
  | phrase => []

def DateValue.ofChars (cs : List Char) : DateValue :=
  let cs := Text.trim cs
  match qualifiedForms.findSome? fun form => (ways form cs).head? with
  | some ds => .qualified ds
  | none =>
    match ways [.date] cs with
    | [d] :: _ => .plain d
    | _ => .phrase

def calendarNames : List (List Char) :=
  ["GREGORIAN".toList, "JULIAN".toList, "HEBREW".toList, "FRENCH R".toList]

/-- The calendar is a known one, only Gregorian years are dual, and no numeral is too long. -/
def WrittenDate.isAcceptable (d : WrittenDate) : Bool :=
  (match d.calendar with
    | none => true
    | some name => calendarNames.contains name && (name == "GREGORIAN".toList || d.dual.isNone)) &&
  (d.day.toList ++ [d.year] ++ d.dual.toList).all (·.length ≤ Text.Numeral.maxDigits)

end DateRules.Gedcom
