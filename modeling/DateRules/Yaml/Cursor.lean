import DateRules.Text.Surrogate

/-!
A place in a YAML text: what follows it, and its line and column. Lines end at a line feed, a next
line, or a line or paragraph separator.
-/
namespace DateRules.Yaml

/-- Why a scalar that the grammar admits has no value. -/
inductive ScalarError where
  | noValue
  | tooLarge
  | notATruthValue
  | notADate
  /-- What is marked as a date is no text. -/
  | notAText
  /-- A text that is marked as a number holds nothing. -/
  | emptyNumber
deriving DecidableEq, Repr

inductive Fault where
  /-- It does not follow the grammar, or a tag does not fit. -/
  | invalid
  | scalar (e : ScalarError)
  /-- Collections are nested too deep, or a default value is its own. -/
  | tooDeep
deriving DecidableEq, Repr

def isBreak (c : Char) : Bool :=
  c == '\n' || c.toNat == 0x85 || c.toNat == 0x2028 || c.toNat == 0x2029

def isSpace (c : Char) : Bool := c == ' ' || c == '\t'

def isAllowed (c : Char) : Bool :=
  let n := c.toNat
  n == 0x09 || n == 0x0A || n == 0x0D || (0x20 ≤ n && n ≤ 0x7E) || n == 0x85 ||
    (0xA0 ≤ n && n ≤ 0xFFFD) || 0x10000 ≤ n

def byteOrderMark : Char := '\uFEFF'

/-- One line feed for every carriage return, with or without a line feed after it. -/
def unifyBreaks : List Char → List Char
  | '\r' :: '\n' :: cs => '\n' :: unifyBreaks cs
  | '\r' :: cs => '\n' :: unifyBreaks cs
  | c :: cs => c :: unifyBreaks cs
  | [] => []

structure Cursor where
  standIns : Text.StandIns
  rest : List Char
  /-- How many characters the whole text has. -/
  size : Nat
  line : Nat
  column : Nat
  index : Nat
deriving Repr

namespace Cursor

def start (m : Text.StandIns) (cs : List Char) : Cursor := ⟨m, cs, cs.length, 0, 0, 0⟩

/-- Past one character. A byte order mark takes no column. -/
def next (c : Cursor) : Cursor :=
  match c.rest with
  | [] => c
  | x :: rest =>
    if isBreak x then { c with rest, line := c.line + 1, column := 0, index := c.index + 1 }
    else
      let column := if x = byteOrderMark then c.column else c.column + 1
      { c with rest, column, index := c.index + 1 }

def skip : (n : Nat) → Cursor → Cursor
  | 0, c => c
  | n + 1, c => skip n c.next

def left (c : Cursor) : Nat := c.size - c.index

def peek (c : Cursor) : Option Char := c.rest.head?

def peekAt (n : Nat) (c : Cursor) : Option Char := c.rest[n]?

def sees (c : Cursor) (p : Char → Bool) : Bool := c.rest.head?.any p

def atEnd (c : Cursor) : Bool := c.rest.isEmpty

/-- Whether a blank, a break or the end stands `n` characters ahead. -/
def endsAt (n : Nat) (c : Cursor) : Bool := (c.peekAt n).all fun x => isSpace x || isBreak x

def takeWhile (p : Char → Bool) (c : Cursor) : List Char × Cursor :=
  let taken := c.rest.takeWhile p
  (taken, c.skip taken.length)

def dropWhile (p : Char → Bool) (c : Cursor) : Cursor := (c.takeWhile p).2

/-- The break here, as it is kept in scalars, and what follows. -/
def break? (c : Cursor) : Option (Char × Cursor) :=
  match c.rest with
  | x :: _ => if isBreak x then some (if x.toNat = 0x85 then '\n' else x, c.next) else none
  | [] => none

/-- `---` or `...` and then a blank, a break or the end. -/
def atMarker (c : Cursor) : Bool :=
  (c.rest.take 3 == ['-', '-', '-'] || c.rest.take 3 == ['.', '.', '.']) && c.endsAt 3

end Cursor
end DateRules.Yaml
