import DateRules.Calendar.Moment
import DateRules.Number.Shortest
import DateRules.Text.Numeral
import DateRules.Text.Quoted

/-!
Values of configuration files: scalars, lists, sets, pairs, and mappings in the order of their
entries. A list or a mapping may contain itself.
-/
namespace DateRules

inductive Data where
  | null
  | bool (b : Bool)
  | integer (z : Int)
  | real (x : Binary64)
  | text (s : String)
  /-- A text with surrogates, for which the characters of `m` stand. -/
  | textWith (m : Text.StandIns) (s : String)
  | date (d : Date)
  | moment (t : Moment)
  | bytes (bs : List UInt8)
  | list (items : List Data)
  | set (members : List Data)
  | pair (first second : Data)
  | mapping (entries : List (Data × Data))
  /-- A list or a mapping that contains itself: inside it, `again name` stands for the whole. -/
  | loop (name : Nat) (v : Data)
  | again (name : Nat)
deriving Repr

namespace Data

instance : Inhabited Data := ⟨null⟩

def typeName : Data → String
  | null | again _ => "NoneType"
  | bool _ => "bool"
  | integer _ => "int"
  | real _ => "float"
  | text _ | textWith .. => "str"
  | date _ => "date"
  | moment _ => "datetime"
  | bytes _ => "bytes"
  | list _ => "list"
  | set _ => "set"
  | pair .. => "tuple"
  | mapping _ => "dict"
  | loop _ v => v.typeName

/-- A type as messages show it, with the package of the types of dates. -/
def typeLabel (v : Data) : String :=
  let package := match v with
    | date _ | moment _ => "datetime."
    | _ => ""
  s!"<class '{package}{v.typeName}'>"

/-- Null, false, zero and everything empty count as no value. -/
def isSet : Data → Bool
  | null | again _ => false
  | bool b => b
  | integer z => z != 0
  | real x => !x.isZero
  | text s | textWith _ s => !s.isEmpty
  | date _ | moment _ | pair .. => true
  | bytes bs => !bs.isEmpty
  | list items => !items.isEmpty
  | set members => !members.isEmpty
  | mapping entries => !entries.isEmpty
  | loop _ v => v.isSet

mutual

/-- Put `whole` where `name` stands for it. -/
def substitute (name : Nat) (whole : Data) : Data → Data
  | list items => list (substituteAll name whole items)
  | pair first second => pair (substitute name whole first) (substitute name whole second)
  | mapping entries => mapping (substituteEntries name whole entries)
  | loop other v => if other = name then loop other v else loop other (substitute name whole v)
  | again other => if other = name then whole else again other
  | v => v

def substituteAll (name : Nat) (whole : Data) : List Data → List Data
  | [] => []
  | v :: vs => substitute name whole v :: substituteAll name whole vs

def substituteEntries (name : Nat) (whole : Data) : List (Data × Data) → List (Data × Data)
  | [] => []
  | (k, v) :: es => (k, substitute name whole v) :: substituteEntries name whole es

end

/-- The value with its parts in full. -/
def opened : Data → Data
  | loop name v => substitute name (loop name v) v
  | v => v

def list? (v : Data) : Option (List Data) :=
  match v.opened with
  | list items => some items
  | _ => none

def entries? (v : Data) : Option (List (Data × Data)) :=
  match v.opened with
  | mapping entries => some entries
  | _ => none

def ofString (m : Text.StandIns) (s : String) : Data :=
  if m.occurIn s.toList then textWith m s else text s

def text? : Data → Option String
  | text s | textWith _ s => some s
  | _ => none

/-- What a value yields when its items are asked for: the characters of a text, the numbers of
bytes, the keys of a mapping, and what any other collection holds. -/
def items? (v : Data) : Option (List Data) :=
  match v.opened with
  | list items | set items => some items
  | pair first second => some [first, second]
  | text s => some (s.toList.map fun c => text (String.singleton c))
  | textWith m s => some (s.toList.map fun c => ofString m (String.singleton c))
  | bytes bs => some (bs.map fun b => integer b.toNat)
  | mapping entries => some (entries.map Prod.fst)
  | _ => none

/-- The number that a scalar counts as when keys are compared. -/
def keyNumber? : Data → Option Int
  | bool b => some b.toNat
  | integer z => some z
  | real x => x.integer?
  | _ => none

/-- Keys of a mapping are the same if they are equal, numbers and truth values by value. -/
def sameKey (a b : Data) : Bool :=
  match a.keyNumber?, b.keyNumber? with
  | some x, some y => x == y
  | none, none =>
    match a, b with
    | null, null => true
    | real x, real y => x == y
    | text s, text t | textWith _ s, textWith _ t => s == t
    | date d, date e => d == e
    | moment s, moment t => s.isSame t
    | bytes s, bytes t => s == t
    | _, _ => false
  | _, _ => false

def get? (entries : List (Data × Data)) (key : String) : Option Data :=
  (entries.find? fun e => e.1.sameKey (.text key)).map Prod.snd

/-- An integer in decimal; one of too many digits is not written. -/
def integerText? (z : Int) : Option String :=
  if z.natAbs < Nat.pow 10 Text.Numeral.maxDigits then some (toString z) else none

def truthText (b : Bool) : String := if b then "True" else "False"

/-- A moment as the call that makes it; zeros at its end are left out. -/
def momentText (t : Moment) : String :=
  let times := [t.hour, t.minute] ++
    (if t.second = 0 ∧ t.microsecond = 0 then [] else [t.second]) ++
    (if t.microsecond = 0 then [] else [t.microsecond])
  let numbers := ", ".intercalate (([t.date.year, t.date.month, t.date.day] ++ times).map toString)
  let zone := match t.offset with
    | none => ""
    | some 0 => ", tzinfo=datetime.timezone.utc"
    | some minutes =>
      let days := if minutes < 0 then "days=-1, " else ""
      s!", tzinfo=datetime.timezone(datetime.timedelta({days}seconds={minutes % 1440 * 60}))"
  s!"datetime.datetime({numbers}{zone})"

/-- What stands in a collection for the collection itself. -/
def ellipsis : Data → String
  | mapping _ => "\x7b...\x7d"
  | _ => "[...]"

mutual

/-- A value inside the collections `around`, of each its name and what stands for it. -/
def quotedIn? (around : List (Nat × String)) : Data → Option String
  | null => some "None"
  | bool b => some (truthText b)
  | integer z => integerText? z
  | real x => some x.text
  | text s => some (Text.quote s)
  | textWith m s => some (Text.quoteMeant m s)
  | date d => some s!"datetime.date({d.year}, {d.month}, {d.day})"
  | moment t => some (momentText t)
  | bytes bs => some (Text.quoteBytes bs)
  | list items => do return "[" ++ ", ".intercalate (← quotedAll? around items) ++ "]"
  | set [] => some "set()"
  | set members => do
    return "\x7b" ++ ", ".intercalate (← quotedAll? around members) ++ "\x7d"
  | pair first second => do
    return "(" ++ (← quotedIn? around first) ++ ", " ++ (← quotedIn? around second) ++ ")"
  | mapping entries => do
    return "\x7b" ++ ", ".intercalate (← quotedEntries? around entries) ++ "\x7d"
  | loop name v =>
    match around.lookup name with
    | some dots => some dots
    | none => quotedIn? ((name, v.ellipsis) :: around) v
  | again name => around.lookup name

def quotedAll? (around : List (Nat × String)) : List Data → Option (List String)
  | [] => some []
  | v :: vs => do
    let s ← quotedIn? around v
    return s :: (← quotedAll? around vs)

def quotedEntries? (around : List (Nat × String)) : List (Data × Data) → Option (List String)
  | [] => some []
  | (k, v) :: es => do
    let s := (← quotedIn? around k) ++ ": " ++ (← quotedIn? around v)
    return s :: (← quotedEntries? around es)

end

/-- A value as a message shows it, with texts in quotes, if its integers can be written. -/
def quoted? (v : Data) : Option String := v.quotedIn? []

/-- A value as a name: texts and dates without quotes. -/
def name? : Data → Option String
  | text s | textWith _ s => some s
  | date d => some d.iso
  | moment t => some (t.text " ")
  | v => v.quoted?

end Data
end DateRules
