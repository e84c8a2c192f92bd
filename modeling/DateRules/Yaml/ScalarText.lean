import DateRules.Yaml.Cursor

/-!
The texts of scalars: plain, in quotes, and as blocks of lines. A single break inside a plain or
quoted scalar counts as a space, and further ones are kept.
-/
namespace DateRules.Yaml

def joinBreaks (first : Char) (further : List Char) : List Char :=
  (if first ≠ '\n' then [first] else if further.isEmpty then [' '] else []) ++ further

def plainPiece (inFlow : Bool) : List Char → List Char
  | [] => []
  | c :: cs =>
    let endsKey := cs.head?.all fun x =>
      isSpace x || isBreak x || (inFlow && [',', '[', ']', '{', '}'].contains x)
    if isSpace c || isBreak c || (c == ':' && endsKey) ||
      (inFlow && [',', '?', '[', ']', '{', '}'].contains c) then []
    else c :: plainPiece inFlow cs

/-- The breaks after a line's end, without the spaces between them; nothing before a document
marker. -/
def plainBreaks : (fuel : Nat) → Cursor → Option (List Char) × Cursor
  | 0, c => (some [], c)
  | fuel + 1, c =>
    if c.sees (· == ' ') then plainBreaks fuel c.next
    else match c.break? with
      | none => (some [], c)
      | some (b, c) =>
        if c.atMarker then (none, c) else
        let (further, c) := plainBreaks fuel c
        (further.map (b :: ·), c)

/-- What stands between two pieces of a plain scalar, and whether a line ended there. -/
def plainGap (c : Cursor) : List Char × Bool × Cursor :=
  let (spaces, c) := c.takeWhile (· == ' ')
  match c.break? with
  | none => (spaces, false, c)
  | some (first, c) =>
    if c.atMarker then ([], true, c) else
    match plainBreaks c.left c with
    | (some further, c) => (joinBreaks first further, true, c)
    | (none, c) => ([], true, c)

/-- A plain scalar; its further lines are indented by at least `indent`. The flag tells whether it
ended at the end of a line. -/
def plainFrom (inFlow : Bool) (indent : Int) :
    (fuel : Nat) → (newLine : Bool) → Cursor → List Char × Bool × Cursor
  | 0, newLine, c => ([], newLine, c)
  | fuel + 1, newLine, c =>
    let piece := plainPiece inFlow c.rest
    if c.sees (· == '#') || piece.isEmpty then ([], newLine, c) else
    let (gap, newLine, c) := plainGap (c.skip piece.length)
    if gap.isEmpty || (!inFlow && (c.column : Int) < indent) then (piece, newLine, c) else
    let (further, newLine, c) := plainFrom inFlow indent fuel newLine c
    (if further.isEmpty then piece else piece ++ gap ++ further, newLine, c)

def plainScalar (inFlow : Bool) (indent : Int) (c : Cursor) : List Char × Bool × Cursor :=
  plainFrom inFlow indent (c.left + 1) false c

def escapes : List (Char × Char) := [
  ('0', '\x00'), ('a', '\x07'), ('b', '\x08'), ('t', '\t'), ('\t', '\t'), ('n', '\n'),
  ('v', '\x0B'), ('f', '\x0C'), ('r', '\r'), ('e', '\x1B'), (' ', ' '), ('"', '"'), ('\\', '\\'),
  ('/', '/'), ('N', '\u0085'), ('_', '\u00A0'), ('L', '\u2028'), ('P', '\u2029')]

def hexEscapes : List (Char × Nat) := [('x', 2), ('u', 4), ('U', 8)]

def hexValue? (c : Char) : Option Nat :=
  if c.isDigit then some (c.toNat - '0'.toNat)
  else if 'a' ≤ c ∧ c ≤ 'f' then some (c.toNat - 'a'.toNat + 10)
  else if 'A' ≤ c ∧ c ≤ 'F' then some (c.toNat - 'A'.toNat + 10)
  else none

def hexNumber? (cs : List Char) : Option Nat :=
  cs.foldlM (fun n c => (hexValue? c).map (16 * n + ·)) 0

/-- Breaks inside quotes and the blanks around them. A document marker there is an error. -/
def quotedBreaks : (fuel : Nat) → Cursor → Except Fault (List Char × Cursor)
  | 0, c => .ok ([], c)
  | fuel + 1, c => do
    if c.atMarker then throw .invalid
    match (c.dropWhile isSpace).break? with
    | some (b, c) =>
      let (further, c) ← quotedBreaks fuel c
      return (b :: further, c)
    | none => return ([], c.dropWhile isSpace)

/-- The codes of all characters that a text can give: those in it, and those that eight hexadecimal
digits write. -/
def namedCodes : List Char → List Nat
  | [] => []
  | c :: cs => (hexNumber? (cs.take 8)).toList ++ c.toNat :: namedCodes cs

/-- Characters to stand for the surrogates that a text names, none of which it can give. -/
def standInsFor (cs : List Char) : Text.StandIns := .apartFrom (namedCodes cs)

def characterOf (m : Text.StandIns) (code : Nat) : Except Fault Char :=
  if code < 0x110000 then .ok (if code.isValidChar then Char.ofNat code else m.character code)
  else .error (.scalar (if code < 0x80000000 then .noValue else .tooLarge))

/-- The text of an escape; the cursor stands after the backslash. -/
def escaped (c : Cursor) : Except Fault (List Char × Cursor) :=
  match c.peek with
  | none => .error .invalid
  | some x =>
    match escapes.lookup x, hexEscapes.lookup x, c.break? with
    | some y, _, _ => .ok ([y], c.next)
    | none, some width, _ =>
      let digits := c.next.rest.take width
      match if digits.length = width then hexNumber? digits else none with
      | none => .error .invalid
      | some n => do return ([← characterOf c.standIns n], c.next.skip width)
    | none, none, some (_, c) => quotedBreaks (c.left + 1) c
    | none, none, none => .error .invalid

/-- What a quote or a backslash inside quotes gives, unless the scalar ends here. -/
def quotedMark? (double : Bool) (c : Cursor) : Except Fault (Option (List Char × Cursor)) :=
  match double, c.peek, c.peekAt 1 with
  | false, some '\'', some '\'' => .ok (some (['\''], c.skip 2))
  | true, some '\'', _ => .ok (some (['\''], c.next))
  | false, some '"', _ => .ok (some (['"'], c.next))
  | false, some '\\', _ => .ok (some (['\\'], c.next))
  | true, some '\\', _ => some <$> escaped c.next
  | _, _, _ => .ok none

def quotedWord (double : Bool) : (fuel : Nat) → Cursor → Except Fault (List Char × Cursor)
  | 0, c => .ok ([], c)
  | fuel + 1, c => do
    let (piece, c) := c.takeWhile fun x =>
      !(x == '\'' || x == '"' || x == '\\' || isSpace x || isBreak x)
    match ← quotedMark? double c with
    | none => return (piece, c)
    | some (mark, c) =>
      let (further, c) ← quotedWord double fuel c
      return (piece ++ mark ++ further, c)

/-- Blanks inside quotes; those at a break are dropped. -/
def quotedGap (c : Cursor) : Except Fault (List Char × Cursor) := do
  let (spaces, c) := c.takeWhile isSpace
  if c.atEnd then throw .invalid
  match c.break? with
  | none => return (spaces, c)
  | some (first, c) =>
    let (further, c) ← quotedBreaks (c.left + 1) c
    return (joinBreaks first further, c)

def quotedFrom (double : Bool) : (fuel : Nat) → Cursor → Except Fault (List Char × Cursor)
  | 0, _ => .error .invalid
  | fuel + 1, c => do
    let (word, c) ← quotedWord double (c.left + 1) c
    if c.sees (· == if double then '"' else '\'') then return (word, c.next)
    let (gap, c) ← quotedGap c
    let (further, c) ← quotedFrom double fuel c
    return (word ++ gap ++ further, c)

/-- A scalar in single or double quotes; the cursor stands on the first quote. -/
def quotedScalar (double : Bool) (c : Cursor) : Except Fault (List Char × Cursor) :=
  quotedFrom double (c.left + 1) c.next

inductive Chomping where
  | strip | clip | keep
deriving DecidableEq, Repr

def chomping? (c : Cursor) : Option Chomping × Cursor :=
  match c.peek with
  | some '+' => (some .keep, c.next)
  | some '-' => (some .strip, c.next)
  | _ => (none, c)

/-- A digit that gives the indentation; zero is none. -/
def increment? (c : Cursor) : Except Fault (Option Nat × Cursor) :=
  match c.peek with
  | some x =>
    if x = '0' then .error .invalid
    else if x.isDigit then .ok (some (x.toNat - '0'.toNat), c.next)
    else .ok (none, c)
  | none => .ok (none, c)

def ignoredLine (c : Cursor) : Except Fault Cursor :=
  let c := c.dropWhile (· == ' ')
  let c := if c.sees (· == '#') then c.dropWhile (!isBreak ·) else c
  match c.break? with
  | some (_, c) => .ok c
  | none => if c.atEnd then .ok c else .error .invalid

/-- The indicators after `|` or `>`, in either order. -/
def blockHeader (c : Cursor) : Except Fault (Chomping × Option Nat × Cursor) := do
  let (before, c) := chomping? c
  let (increment, c) ← increment? c
  let (after, c) := if before.isNone && increment.isSome then chomping? c else (none, c)
  if !(c.atEnd || c.sees fun x => x == ' ' || isBreak x) then throw .invalid
  return ((before.or after).getD .clip, increment, ← ignoredLine c)

/-- The breaks before the first line, and the greatest indentation up to it. -/
def blockIndentation : (fuel : Nat) → (widest : Nat) → Cursor → List Char × Nat × Cursor
  | 0, widest, c => ([], widest, c)
  | fuel + 1, widest, c =>
    match c.break? with
    | some (b, c) =>
      let (further, widest, c) := blockIndentation fuel widest c
      (b :: further, widest, c)
    | none =>
      if c.sees (· == ' ') then blockIndentation fuel (max widest c.next.column) c.next
      else ([], widest, c)

def indentTo (indent : Nat) (c : Cursor) : Cursor :=
  c.skip (min (c.rest.takeWhile (· == ' ')).length (indent - c.column))

/-- Empty lines, and the indentation of the line after them. -/
def blockBreaks (indent : Nat) : (fuel : Nat) → Cursor → List Char × Cursor
  | 0, c => ([], c)
  | fuel + 1, c =>
    let c := indentTo indent c
    match c.break? with
    | some (b, c) =>
      let (further, c) := blockBreaks indent fuel c
      (b :: further, c)
    | none => ([], c)

/-- What stands in a block before a line, after the break of the line before and further breaks. A
folded block joins two lines that do not begin with a blank. -/
def betweenLines (joined : Bool) (lastBreak breaks : List Char) : List Char :=
  if joined && lastBreak == ['\n'] then (if breaks.isEmpty then [' '] else breaks)
  else lastBreak ++ breaks

/-- The lines of a block: their text, the last line's break and the breaks after it. -/
def blockLines (folded : Bool) (indent : Nat) :
    (fuel : Nat) → Cursor → List Char × List Char × List Char × Cursor
  | 0, c => ([], [], [], c)
  | fuel + 1, c =>
    let joins := folded && !c.sees isSpace
    let (line, c) := c.takeWhile (!isBreak ·)
    let (lastBreak, c) := match c.break? with
      | some (b, c) => ([b], c)
      | none => ([], c)
    let (breaks, c) := blockBreaks indent (c.left + 1) c
    if c.column ≠ indent ∨ c.atEnd then (line, lastBreak, breaks, c) else
    let between := betweenLines (joins && !c.sees isSpace) lastBreak breaks
    let (further, lastBreak, breaks, c) := blockLines folded indent fuel c
    (line ++ between ++ further, lastBreak, breaks, c)

/-- A block scalar; the cursor stands on its indicator, and the block around it is indented by
`outer`. -/
def blockScalar (folded : Bool) (outer : Int) (c : Cursor) : Except Fault (List Char × Cursor) := do
  let (chomping, increment, c) ← blockHeader c.next
  let least := max 1 (outer + 1).toNat
  let (breaks, indent, c) := match increment with
    | some n =>
      let indent := least + n - 1
      let (breaks, c) := blockBreaks indent (c.left + 1) c
      (breaks, indent, c)
    | none =>
      let (breaks, widest, c) := blockIndentation (c.left + 1) 0 c
      (breaks, max least widest, c)
  let (text, lastBreak, breaks, c) :=
    if c.column ≠ indent ∨ c.atEnd then ([], [], breaks, c)
    else
      let (text, rest) := blockLines folded indent (c.left + 1) c
      (breaks ++ text, rest)
  return (match chomping with
    | .strip => text
    | .clip => text ++ lastBreak
    | .keep => text ++ lastBreak ++ breaks, c)

end DateRules.Yaml
