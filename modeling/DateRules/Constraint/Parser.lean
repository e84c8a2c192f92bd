import DateRules.Constraint
import DateRules.Operand.Parser

/-!
Reading constraints. A clause is one comparison; clauses are separated by semicolons and the first
one that does not compile is reported.
-/
namespace DateRules

inductive ClauseFault where
  | operatorCount
  | operand (fault : OperandFault)
  | mismatch (left right : Operand)
  | operator (fault : OperatorFault)
deriving DecidableEq, Repr

/-- A clause, as it was given, and what is wrong with it. -/
structure CompileError where
  clause : String
  fault : ClauseFault
deriving DecidableEq, Repr

inductive ErrorKind where
  | grammar | categoryMismatch | unsupportedOperator | arithmeticType
deriving DecidableEq, Repr

def OperatorFault.kind : OperatorFault → ErrorKind
  | weekdayArithmetic | zeroDivisor _ => .arithmeticType
  | dateArithmetic _ | weekdayOrdering _ => .unsupportedOperator

/-- A numeral that is too long is no error of the grammar. -/
def OperandFault.kind? : OperandFault → Option ErrorKind
  | numeralTooLong => none
  | weekdayArithmetic _ | offsetNotWhole .. => some .arithmeticType
  | operator fault _ => some fault.kind
  | _ => some .grammar

def ClauseFault.kind? : ClauseFault → Option ErrorKind
  | operatorCount => some .grammar
  | operand fault => fault.kind?
  | mismatch .. => some .categoryMismatch
  | operator fault => some fault.kind

namespace CompileError

def kind? (e : CompileError) : Option ErrorKind := e.fault.kind?

def operand? (e : CompileError) : Option String :=
  match e.fault with
  | .operand fault => fault.operand?
  | _ => none

def message (e : CompileError) : String :=
  match e.fault with
  | .operatorCount =>
    let clause := String.ofList (Text.trim e.clause.toList)
    s!"Invalid rule definition in '{clause}': expected exactly one comparison operator."
  | .operand fault => fault.message
  | .mismatch left right =>
    s!"Incompatible operands in rule - \"{left.text}\" ({left.category.name}) " ++
      s!"is not comparable with \"{right.text}\" ({right.category.name})."
  | .operator fault => fault.message

end CompileError

def isComparisonChar (c : Char) : Bool := ['<', '>', '=', '!'].contains c

/-- The operator at the start of a run: its first character and what follows up to an exclamation
mark. -/
def leadingComparison? (run : List Char) : Option (Comparison × List Char) :=
  let symbol := run.take 1 ++ (run.drop 1).takeWhile (· != '!')
  let left := (run.drop 1).dropWhile (· != '!')
  (Comparison.ofSymbol? symbol).map fun op => (op, left)

def cutComparison (clause : List Char) : Text.Cut Comparison :=
  Text.cutAt isComparisonChar leadingComparison? clause

namespace Constraint

def ofSides (left : List Char) (op : Comparison) (right : List Char) :
    Except ClauseFault Constraint := do
  let left ← (Operand.ofChars (Text.trim left)).mapError .operand
  let right ← (Operand.ofChars (Text.trim right)).mapError .operand
  if left.category ≠ right.category then throw (.mismatch left right)
  (op.checkFor left.category).mapError .operator
  return ⟨left, op, right⟩

def ofChars (clause : List Char) : Except ClauseFault Constraint :=
  match cutComparison clause with
  | ⟨left, [(op, right)]⟩ => ofSides left op right
  | _ => .error .operatorCount

def parse (clause : String) : Except CompileError Constraint :=
  (ofChars clause.toList).mapError (⟨clause, ·⟩)

end Constraint

/-- The clauses of a rule text, without the blanks around them; empty ones are dropped. -/
def clauses (text : String) : List String :=
  ((text.toList.splitOn ';').map Text.trim).filter (!·.isEmpty) |>.map String.ofList

def Constraint.parseAll (text : String) : Except CompileError (List Constraint) :=
  (clauses text).mapM Constraint.parse

end DateRules
