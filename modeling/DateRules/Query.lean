import DateRules.Data
import DateRules.Gedcom
import DateRules.Text.Case

/-!
The values that a date can be asked for as: a date, a text, or an object with a year, a month and a
day.
-/
namespace DateRules

/-- Why a value is no date. The last four have no wording of their own. -/
inductive QueryError where
  | notADate (text : String)
  | noDayPrecision (label : String)
  | unsupportedType (label : String)
  | badValue
  | tooLarge
  | notANumber
  | monthNotAText
deriving DecidableEq, Repr

def QueryError.message? : QueryError → Option String
  | notADate text => some s!"Cannot interpret '{text}' as a calendar date"
  | noDayPrecision label => some s!"Date '{label}' does not have day precision"
  | unsupportedType label => some s!"Unsupported date type: {label}"
  | badValue | tooLarge | notANumber | monthNotAText => none

def enteredInteger (cs : List Char) : Except QueryError Int :=
  match (Text.Numeral.ofEntry? cs).bind Text.Numeral.value? with
  | some z => .ok z
  | none => .error .badValue

/-- A value taken for a whole number. Parts of a unit are dropped, and bytes stand for ASCII. -/
def Data.toInteger : Data → Except QueryError Int
  | integer z => .ok z
  | bool b => .ok b.toNat
  | real x =>
    match x, x.truncate? with
    | _, some z => .ok z
    | .nan, none => .error .badValue
    | _, none => .error .tooLarge
  | text s | textWith _ s => enteredInteger s.toList
  | bytes bs =>
    if bs.all (· < 128) then enteredInteger (bs.map fun b => Char.ofNat b.toNat)
    else .error .badValue
  | _ => .error .notANumber

def monthAbbreviations : List (List Char) :=
  ["JAN".toList, "FEB".toList, "MAR".toList, "APR".toList, "MAY".toList, "JUN".toList,
    "JUL".toList, "AUG".toList, "SEP".toList, "OCT".toList, "NOV".toList, "DEC".toList]

/-- The number of the month whose name begins with the first three letters. -/
def monthOfName? (name : List Char) : Option Nat :=
  (monthAbbreviations.idxOf? ((Text.upper name).take 3)).map (· + 1)

/-- Whole numbers of a date are held in 32 bits. -/
def fitsWord (z : Int) : Bool := -2147483648 ≤ z && z ≤ 2147483647

def Date.ofIntegers (year month day : Int) : Except QueryError Date :=
  if !(fitsWord year && fitsWord month && fitsWord day) then .error .tooLarge
  else if year < 0 ∨ month < 0 ∨ day < 0 then .error .badValue
  else match Date.ofParts? year.toNat month.toNat day.toNat with
    | some d => .ok d
    | none => .error .badValue

/-- The year, month and day that an object gives; null is a part that is not known. -/
structure DateParts where
  year : Data
  month : Data
  day : Data

/-- A month by name or by number; zero and unknown names are no month. -/
def monthNumber? : Data → Except QueryError (Option Int)
  | .text name | .textWith _ name => .ok ((monthOfName? name.toList).map Int.ofNat)
  | m => do
    let z ← m.toInteger
    return if z = 0 then none else some z

def DateParts.date? (p : DateParts) : Except QueryError (Option Date) :=
  match p.year, p.month, p.day with
  | .null, _, _ | _, .null, _ | _, _, .null => .ok none
  | year, month, day => do
    match ← monthNumber? month with
    | none => return none
    | some m =>
      let y ← year.toInteger
      let d ← day.toInteger
      some <$> Date.ofIntegers y m d

/-- The date that a genealogical text gives, or nothing if it is not a plain date to the day. -/
def Gedcom.DateValue.date? (v : DateValue) : Except QueryError (Option Date) :=
  if !v.dates.all WrittenDate.isAcceptable then .error .badValue else
  match v with
  | plain d =>
    let numeral (digits : Option (List Char)) : Data :=
      match digits with
      | some ds => .integer (Text.Numeral.magnitude ds)
      | none => .null
    let month := match d.month with
      | some m => Data.text (String.ofList (Text.upper m))
      | none => .null
    DateParts.date? ⟨numeral (some d.year), month, numeral d.day⟩
  | qualified _ | phrase => .ok none

inductive CalendarSystem where
  | gregorian | julian | hebrew | french
deriving DecidableEq, Repr

structure CalendarDate where
  system : CalendarSystem
  year : Data
  month : Data
  day : Data
  beforeChrist : Bool

namespace CalendarDate

def parts? (c : CalendarDate) : Except QueryError DateParts :=
  match c.month with
  | .null => .ok ⟨c.year, .null, c.day⟩
  | .text name => .ok ⟨c.year, .text (String.ofList (Text.upper name.toList)), c.day⟩
  | .textWith m name => .ok ⟨c.year, .textWith m (String.ofList (Text.upper name.toList)), c.day⟩
  | .bytes bs => .ok ⟨c.year, .bytes (Text.upperBytes bs), c.day⟩
  | _ => .error .monthNotAText

/-- The day and the month, if they are known, and the year, after the escape of any calendar but the
Gregorian. -/
def label? (c : CalendarDate) (p : DateParts) : Option String := do
  let escape := match c.system with
    | .gregorian => []
    | .julian => ["@#DJULIAN@"]
    | .hebrew => ["@#DHEBREW@"]
    | .french => ["@#DFRENCH R@"]
  let known (v : Data) : Option (List String) :=
    match v with
    | .null => some []
    | v => v.name?.map ([·])
  let year := (← p.year.name?) ++ if c.beforeChrist then " B.C." else ""
  return " ".intercalate (escape ++ (← known p.day) ++ (← known p.month) ++ [year])

end CalendarDate

inductive Query where
  | date (d : Date)
  | text (s : String)
  | calendarDate (c : CalendarDate)
  | object (label typeLabel : String) (year month day : Option Data)
  | value (v : Data)

def dateOfText (s : String) : Except QueryError Date :=
  match IsoReading.ofChars (Text.trim s.toList) with
  | .date d => .ok d
  | .noSuchDay => .error .badValue
  | .otherForm => do
    match ← (Gedcom.DateValue.ofChars s.toList).date? with
    | some d => return d
    | none => throw (.notADate s)

/-- The date of an object whose text is `label`, if it can be written. -/
def dateOfParts (label : Option String) (p : DateParts) : Except QueryError Date := do
  match ← p.date? with
  | some d => return d
  | none => throw ((label.map .noDayPrecision).getD .badValue)

def Query.toDate : Query → Except QueryError Date
  | date d => .ok d
  | text s => dateOfText s
  | calendarDate c => do
    let p ← c.parts?
    dateOfParts (c.label? p) p
  | object label typeLabel year month day =>
    if year.isSome && (month.isSome || day.isSome) then
      dateOfParts label ⟨year.getD .null, month.getD .null, day.getD .null⟩
    else .error (.unsupportedType typeLabel)
  | value (.date d) => .ok d
  | value (.moment t) => .ok t.date
  | value (.text s) | value (.textWith _ s) => dateOfText s
  | value v => .error (.unsupportedType v.typeLabel)

end DateRules
