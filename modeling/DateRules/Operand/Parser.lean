import DateRules.Operand
import DateRules.Text.Cut
import DateRules.Text.Numeral

/-!
Reading an operand. The forms are tried in order: a date, an integer, a name, and a date or a name
followed by an operator and a whole number.
-/
namespace DateRules

/-- Why a text is no operand; `text` is the whole operand without the blanks around it. -/
inductive OperandFault where
  | empty (text : String)
  | noSuchDay (literal : String)
  | malformed (text : String)
  | weekdayArithmetic (text : String)
  | offsetNotWhole (offset text : String)
  | shiftedOutsideCalendar (text : String)
  | integerOnLeft (left text : String)
  | unknownName (term text : String)
  | operator (fault : OperatorFault) (text : String)
  | numeralTooLong
deriving DecidableEq, Repr

def OperandFault.operand? : OperandFault → Option String
  | empty text | noSuchDay text | malformed text | weekdayArithmetic text | offsetNotWhole _ text
  | shiftedOutsideCalendar text | integerOnLeft _ text | unknownName _ text
  | operator _ text => some text
  | numeralTooLong => none

def suggestionHint (term : String) : String :=
  match suggestName? term.toList suggestionThreshold with
  | some name => s!" Did you mean '{name}'?"
  | none => ""

def OperandFault.message : OperandFault → String
  | empty _ => "Empty operand."
  | noSuchDay literal => s!"Invalid date literal '{literal}'."
  | malformed text => s!"Invalid expression in comparison: '{text}'. " ++
      "Expected a single value or 'value op number'."
  | weekdayArithmetic text => s!"Cannot do arithmetic on a day of week in '{text}'."
  | offsetNotWhole offset text => s!"Right-hand side of arithmetic operation ('{offset}') " ++
      s!"must be a whole number in '{text}'."
  | shiftedOutsideCalendar text => s!"Date arithmetic out of range in '{text}'."
  | integerOnLeft left text => s!"Left-hand side of arithmetic operation ('{left}') " ++
      s!"must be a date literal or token in '{text}'."
  | unknownName term text =>
      s!"Unrecognised operand '{term}' in '{text}'." ++ suggestionHint term
  | operator fault text => fault.message ++ s!" (in '{text}')"
  | numeralTooLong => "The numeral has too many digits."

def isArithmeticChar (c : Char) : Bool := ['+', '-', '*', '/', '%'].contains c

/-- A date at the start, if a blank, an operator or the end of the text follows it. -/
def leadingDate (cs : List Char) : List Char × List Char :=
  let (head, rest) := cs.splitAt 10
  let ends := match rest with
    | [] => true
    | c :: _ => Text.isBlank c || isArithmeticChar c
  if hasIsoForm head && ends then (head, rest) else ([], cs)

/-- The whole run of operator characters must be an operator. -/
def wholeArithmetic? (run : List Char) : Option (Arithmetic × List Char) :=
  (Arithmetic.ofSymbol? run).map fun op => (op, [])

/-- The pieces between the operators that stand alone. The dashes of a leading date are none. -/
def cutArithmetic (cs : List Char) : Text.Cut Arithmetic :=
  let (head, rest) := leadingDate cs
  (Text.cutAt isArithmeticChar wholeArithmetic? rest).prepend head

/-- Pieces and operators in turn, without the blanks around them. -/
def arithmeticTerms (cs : List Char) : List (List Char) :=
  let cut := cutArithmetic cs
  Text.trim cut.first ::
    cut.rest.flatMap fun (op, piece) => [op.symbol.toList, Text.trim piece]

namespace Operand

def namesWeekday (cs : List Char) : Bool :=
  (Weekday.ofName? cs).isSome || Quantity.ofName? cs == some .weekday

def numeralValue (n : Text.Numeral) : Except OperandFault Int :=
  match n.value? with
  | some z => .ok z
  | none => .error .numeralTooLong

def ofName (term : List Char) : Except OperandFault Expression :=
  match Quantity.ofName? term, Weekday.ofName? term with
  | some q, _ => .ok (.quantity q)
  | none, some w => .ok (.constant (.weekday w))
  | none, none => .error (.unknownName (String.ofList term) (String.ofList term))

/-- A date changed by a number, computed at once. -/
def changedDate (text : String) (d : Date) (op : Arithmetic) (right : Int) :
    Except OperandFault Expression := do
  let change ← (op.change .date right).mapError (.operator · text)
  match change.apply (.date d) with
  | .ok v => .ok (.constant v)
  | .error _ => .error (.shiftedOutsideCalendar text)

def changedName (text : String) (left : List Char) (op : Arithmetic) (right : Int) :
    Except OperandFault Expression :=
  match Quantity.ofName? left with
  | some q => .changed q <$> (op.change q.category right).mapError (.operator · text)
  | none => .error <|
    if (Text.Numeral.ofChars? left).isSome then .integerOnLeft (String.ofList left) text
    else .unknownName (String.ofList left) text

def ofArithmetic (text : String) (left : List Char) (op : Arithmetic) (right : List Char) :
    Except OperandFault Expression :=
  if namesWeekday left || namesWeekday right then .error (.weekdayArithmetic text) else
  match Text.Numeral.ofChars? right with
  | none => .error (.offsetNotWhole (String.ofList right) text)
  | some n => do
    let offset ← numeralValue n
    match IsoReading.ofChars left with
    | .noSuchDay => .error (.noSuchDay (String.ofList left))
    | .date d => changedDate text d op offset
    | .otherForm => changedName text left op offset

/-- A name, or two terms around one operator. -/
def ofTerms (trimmed : List Char) : Except OperandFault Expression :=
  match cutArithmetic trimmed with
  | ⟨_, []⟩ => ofName trimmed
  | ⟨left, [(op, right)]⟩ =>
    let left := Text.trim left
    let right := Text.trim right
    if left.isEmpty || right.isEmpty then .error (.malformed (String.ofList trimmed))
    else ofArithmetic (String.ofList trimmed) left op right
  | _ => .error (.malformed (String.ofList trimmed))

def readExpression (trimmed : List Char) : Except OperandFault Expression :=
  match IsoReading.ofChars trimmed, Text.Numeral.ofChars? trimmed with
  | .noSuchDay, _ => .error (.noSuchDay (String.ofList trimmed))
  | .date d, _ => .ok (.constant (.date d))
  | .otherForm, some n => (.constant ∘ .integer) <$> numeralValue n
  | .otherForm, none => ofTerms trimmed

def ofChars (cs : List Char) : Except OperandFault Operand := do
  let trimmed := Text.trim cs
  if trimmed.isEmpty then throw (.empty (String.ofList cs))
  let expression ← readExpression trimmed
  return ⟨String.ofList trimmed, expression⟩

def parse (text : String) : Except OperandFault Operand := ofChars text.toList

end Operand
end DateRules
