import DateRules.Text.Numeral
import DateRules.Yaml.Tag

/-!
A YAML text as tokens. Indentation becomes explicit: every block collection has a token at its start
and one at its end, and every mapping key has one before it.
-/
namespace DateRules.Yaml

inductive Directive where
  | version (major : Nat)
  | handle (name expansion : String)
  | other
deriving DecidableEq, Repr

inductive Token where
  | directive (d : Directive)
  | documentStart | documentEnd
  | blockSequenceStart | blockMappingStart | blockEnd
  | flowSequenceStart | flowSequenceEnd | flowMappingStart | flowMappingEnd
  | blockEntry | flowEntry | key | value
  | alias (name : String)
  | anchor (name : String)
  | tag (t : Tag)
  | scalar (plain : Bool) (text : String)
deriving DecidableEq, Repr

/-- A place where a mapping key may have begun: the token before which its mark would stand. -/
structure PossibleKey where
  tokenIndex : Nat
  required : Bool
  index : Nat
  line : Nat
  column : Nat

/-- The tokens up to a place, and what decides how the text goes on. -/
structure Layout where
  cursor : Cursor
  /-- The last one first. -/
  tokens : List Token
  tokenCount : Nat
  /-- The column of the innermost block collection, `-1` outside of all. -/
  indent : Int
  /-- Those around it, innermost first. -/
  outerIndents : List Int
  keyAllowed : Bool
  /-- The possible key of the current flow collection or block. -/
  possibleKey : Option PossibleKey
  /-- Those of the collections around it, one for each flow collection that is open. -/
  outerKeys : List (Option PossibleKey)

namespace Layout

def start (m : Text.StandIns) (cs : List Char) : Layout :=
  ⟨Cursor.start m cs, [], 0, -1, [], true, none, []⟩

def inFlow (l : Layout) : Bool := !l.outerKeys.isEmpty

def insertAt (i : Nat) (t : Token) (l : Layout) : Layout :=
  let (later, earlier) := l.tokens.splitAt (l.tokenCount - i)
  { l with tokens := later ++ t :: earlier, tokenCount := l.tokenCount + 1 }

def push (t : Token) (l : Layout) : Layout := l.insertAt l.tokenCount t

def column (l : Layout) : Int := l.cursor.column

/-- Close the block collections that are indented more than `column`. -/
def closeTo (column : Int) : (outer : List Int) → Layout → Layout
  | [], l => l
  | o :: outer, l =>
    if column < l.indent then
      closeTo column outer { l.push .blockEnd with indent := o, outerIndents := outer }
    else l

def unwind (column : Int) (l : Layout) : Layout :=
  if l.inFlow then l else closeTo column l.outerIndents l

/-- Open a block collection at `column`, if it is indented more than the one around it. -/
def openBlock (column : Int) (t : Token) (at? : Option Nat) (l : Layout) : Layout :=
  if l.indent < column then
    let l := { l with indent := column, outerIndents := l.indent :: l.outerIndents }
    match at? with
    | some i => l.insertAt i t
    | none => l.push t
  else l

/-- No key can begin at the possible place any more. A place that must hold a key is an error. -/
def dropKey (l : Layout) : Except Fault Layout :=
  match l.possibleKey with
  | some k => if k.required then .error .invalid else .ok { l with possibleKey := none }
  | none => .ok l

/-- A key stands on one line and takes at most 1024 characters. -/
def isStale (c : Cursor) (k : PossibleKey) : Bool := k.line ≠ c.line || k.index + 1024 < c.index

def fresh (c : Cursor) : Option PossibleKey → Except Fault (Option PossibleKey)
  | some k =>
    if isStale c k then (if k.required then .error .invalid else .ok none) else .ok (some k)
  | none => .ok none

def dropStaleKeys (l : Layout) : Except Fault Layout := do
  let key ← fresh l.cursor l.possibleKey
  let outer ← l.outerKeys.mapM (fresh l.cursor)
  return { l with possibleKey := key, outerKeys := outer }

def noteKey (l : Layout) : Except Fault Layout := do
  if l.keyAllowed then
    let l ← l.dropKey
    return { l with possibleKey := some {
      tokenIndex := l.tokenCount
      required := !l.inFlow && l.indent == l.column
      index := l.cursor.index
      line := l.cursor.line
      column := l.cursor.column } }
  else return l

/-- Past spaces, comments and breaks. After a break in a block a key may begin. -/
def toContent : (fuel : Nat) → Layout → Layout
  | 0, l => l
  | fuel + 1, l =>
    let c := l.cursor.dropWhile (· == ' ')
    let c := if c.sees (· == '#') then c.dropWhile (!isBreak ·) else c
    match c.break? with
    | some (_, c) =>
      toContent fuel { l with cursor := c, keyAllowed := l.keyAllowed || !l.inFlow }
    | none => { l with cursor := c }

def skip (n : Nat) (l : Layout) : Layout := { l with cursor := l.cursor.skip n }

/-- A number of a `%YAML` line, which may have too many digits, and what follows. -/
def versionNumber (c : Cursor) : Except Fault (Nat × Cursor) := do
  let (ds, c) := c.takeWhile Char.isDigit
  if ds.isEmpty || c.sees (!isAllowed ·) then throw .invalid
  if Text.Numeral.maxDigits < ds.length then throw (.scalar .noValue)
  return (Text.Numeral.magnitude ds, c)

/-- The numbers of a `%YAML` line. The second is not used. -/
def versionDirective (c : Cursor) : Except Fault (Directive × Cursor) := do
  let (major, c) ← versionNumber (c.dropWhile (· == ' '))
  if c.peek != some '.' then throw .invalid
  let (_, c) ← versionNumber c.next
  if !endsWord c then throw .invalid
  return (.version major, c)

def handleDirective (c : Cursor) : Except Fault (Directive × Cursor) := do
  let (name, c) ← tagHandle (c.dropWhile (· == ' '))
  if c.peek != some ' ' then throw .invalid
  let (expansion, c) ← tagRest (c.dropWhile (· == ' '))
  if !endsWord c then throw .invalid
  return (.handle name expansion, c)

/-- A directive. Lines that give neither a version nor a handle are skipped. -/
def directive (l : Layout) : Except Fault Layout := do
  let l ← (l.unwind (-1)).dropKey
  let (name, c) := l.cursor.next.takeWhile isNameChar
  if name.isEmpty || !endsWord c then throw .invalid
  let (d, c) ←
    if name == "YAML".toList then versionDirective c
    else if name == "TAG".toList then handleDirective c
    else pure (.other, c.dropWhile (!isBreak ·))
  let c ← ignoredLine c
  return { l.push (.directive d) with cursor := c, keyAllowed := false }

def documentMarker (t : Token) (l : Layout) : Except Fault Layout := do
  let l ← (l.unwind (-1)).dropKey
  return { (l.push t).skip 3 with keyAllowed := false }

/-- More flow collections than a document may nest. So many are open that the tokens of enough of
them are certain: a document fails at those first. -/
def maxOpenFlow : Nat := 4096

def openFlow (t : Token) (l : Layout) : Except Fault Layout := do
  if maxOpenFlow ≤ l.outerKeys.length then throw .tooDeep
  let l ← l.noteKey
  return { (l.push t).skip 1 with
    keyAllowed := true, possibleKey := none, outerKeys := l.possibleKey :: l.outerKeys }

def closeFlow (t : Token) (l : Layout) : Except Fault Layout := do
  let l ← l.dropKey
  match l.outerKeys with
  | [] => throw .invalid
  | key :: outer =>
    return { (l.push t).skip 1 with keyAllowed := false, possibleKey := key, outerKeys := outer }

def flowEntry (l : Layout) : Except Fault Layout := do
  let l ← l.dropKey
  return { (l.push .flowEntry).skip 1 with keyAllowed := true }

def blockEntry (l : Layout) : Except Fault Layout := do
  if !l.inFlow && !l.keyAllowed then throw .invalid
  let l := if l.inFlow then l else l.openBlock l.column .blockSequenceStart none
  let l ← l.dropKey
  return { (l.push .blockEntry).skip 1 with keyAllowed := true }

def explicitKey (l : Layout) : Except Fault Layout := do
  if !l.inFlow && !l.keyAllowed then throw .invalid
  let l := if l.inFlow then l else l.openBlock l.column .blockMappingStart none
  let l ← l.dropKey
  return { (l.push .key).skip 1 with keyAllowed := !l.inFlow }

/-- A colon. It turns the possible key before it into a key, which may open a mapping. -/
def mappingValue (l : Layout) : Except Fault Layout := do
  match l.possibleKey with
  | some k =>
    let l := { l with possibleKey := none }.insertAt k.tokenIndex .key
    let l := if l.inFlow then l
      else l.openBlock k.column .blockMappingStart (some k.tokenIndex)
    return { (l.push .value).skip 1 with keyAllowed := false }
  | none =>
    if !l.inFlow && !l.keyAllowed then throw .invalid
    let l := if l.inFlow then l else l.openBlock l.column .blockMappingStart none
    return { (l.push .value).skip 1 with keyAllowed := !l.inFlow }

def anchorName (c : Cursor) : Except Fault (String × Cursor) :=
  let (name, c) := c.next.takeWhile isNameChar
  let ends := c.endsAt 0 || c.sees fun x => ['?', ':', ',', ']', '}', '%', '@', '\x60'].contains x
  if name.isEmpty || !ends then .error .invalid else .ok (String.ofList name, c)

/-- A token that a key may begin with and that ends at the given place. -/
def leaf (l : Layout) (t : Token) (c : Cursor) (keyAllowed : Bool) : Except Fault Layout := do
  let l ← l.noteKey
  return { l.push t with cursor := c, keyAllowed := keyAllowed }

def plain (l : Layout) : Except Fault Layout :=
  let (text, newLine, c) := plainScalar l.inFlow (l.indent + 1) l.cursor
  l.leaf (.scalar true (String.ofList text)) c newLine

def quoted (double : Bool) (l : Layout) : Except Fault Layout := do
  let (text, c) ← quotedScalar double l.cursor
  l.leaf (.scalar false (String.ofList text)) c false

def block (folded : Bool) (l : Layout) : Except Fault Layout := do
  let l ← l.dropKey
  let (text, c) ← blockScalar folded l.indent l.cursor
  return { l.push (.scalar false (String.ofList text)) with cursor := c, keyAllowed := true }

/-- Characters that no plain scalar begins with, some apart when text follows them. -/
def indicators : List Char :=
  ['-', '?', ':', ',', '[', ']', '{', '}', '#', '&', '*', '!', '|', '>', '\'', '"', '%', '@',
    '\x60']

def token (x : Char) (l : Layout) : Except Fault Layout :=
  let c := l.cursor
  let alone := c.endsAt 1
  if x = '%' && c.column = 0 then l.directive
  else if c.column = 0 && c.atMarker then
    l.documentMarker (if x = '-' then .documentStart else .documentEnd)
  else if x = '[' then l.openFlow .flowSequenceStart
  else if x = '{' then l.openFlow .flowMappingStart
  else if x = ']' then l.closeFlow .flowSequenceEnd
  else if x = '}' then l.closeFlow .flowMappingEnd
  else if x = ',' then l.flowEntry
  else if x = '-' && alone then l.blockEntry
  else if x = '?' && (l.inFlow || alone) then l.explicitKey
  else if x = ':' && (l.inFlow || alone) then l.mappingValue
  else if x = '*' then do let (name, c) ← anchorName c; l.leaf (.alias name) c false
  else if x = '&' then do let (name, c) ← anchorName c; l.leaf (.anchor name) c false
  else if x = '!' then do let (t, c) ← Tag.read c; l.leaf (.tag t) c false
  else if x = '|' && !l.inFlow then l.block false
  else if x = '>' && !l.inFlow then l.block true
  else if x = '\'' then l.quoted false
  else if x = '"' then l.quoted true
  else if !(indicators.contains x || isSpace x) || (!alone && (x = '-' || x = '?' || x = ':')) then
    l.plain
  else .error .invalid

/-- To where the next token begins. Block collections that are indented more end there. -/
def toToken (l : Layout) : Except Fault Layout := do
  let l ← (l.toContent (l.cursor.left + 1)).dropStaleKeys
  return l.unwind l.column

/-- How many tokens are certain: those before any place where a key may have begun. -/
def certain (l : Layout) : Nat :=
  ((l.possibleKey :: l.outerKeys).filterMap id).foldl
    (fun n k => if isStale l.cursor k then n else min n k.tokenIndex) l.tokenCount

end Layout

/-- The tokens of a text up to its end, or up to the place where reading them fails. -/
structure Tokens where
  list : List Token
  fault : Option Fault

/-- A token is handed on when it is certain, so those that are not are lost with a failure. -/
def Layout.failed (l : Layout) (e : Fault) : Tokens := ⟨l.tokens.reverse.take l.certain, some e⟩

/-- All tokens from here on. Each takes a character. -/
def Layout.toEnd : (fuel : Nat) → Layout → Tokens
  | 0, l => l.failed .invalid
  | fuel + 1, l =>
    let next := do
      let here ← l.toToken
      match here.cursor.peek with
      | none => return (← (here.unwind (-1)).dropKey, true)
      | some x => return (← here.token x, false)
    match next with
    | .error e => l.failed e
    | .ok (l, true) => ⟨l.tokens.reverse, none⟩
    | .ok (l, false) => l.toEnd fuel

/-- The tokens of some characters. A byte order mark in front is skipped. -/
def Tokens.ofChars (m : Text.StandIns) (cs : List Char) : Tokens :=
  let l := Layout.start m cs
  let l := if cs.head? == some byteOrderMark then l.skip 1 else l
  l.toEnd (cs.length + 1)

/-- A text is read in batches, a first one of 8192 characters and further ones of 4096. The batch
with a given character begins here. -/
def batchStart (index : Nat) : Nat := if index < 8192 then 0 else index - index % 4096

/-- The tokens of a text, up to a batch with a character that it must not hold. -/
def Tokens.ofText (m : Text.StandIns) (text : String) : Tokens :=
  let cs := unifyBreaks text.toList
  match cs.findIdx? (!isAllowed ·) with
  | none => .ofChars m cs
  | some i =>
    let ts := Tokens.ofChars m (cs.take (batchStart i) ++ ['\x00'])
    { ts with fault := ts.fault.or (some .invalid) }

end DateRules.Yaml
