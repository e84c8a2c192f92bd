import DateRules.Yaml.ScalarText

/-!
Tags as they are written: a handle between exclamation marks, which stands for the beginning of the
tag, and the rest of it, in which bytes may be given by percent signs.
-/
namespace DateRules.Yaml

def standardTag : String := "tag:yaml.org,2002:"

def tagOf (kind : String) : String := standardTag ++ kind

def kindOfTag? (tag : String) : Option String :=
  let (start, kind) := tag.toList.splitAt standardTag.length
  if start == standardTag.toList then some (String.ofList kind) else none

structure Tag where
  handle : Option String
  rest : String
deriving DecidableEq, Repr

/-- The exclamation mark alone: the type is the one that an untagged plain text would have. -/
def Tag.nonSpecific : Tag := ⟨none, "!"⟩

/-- The handles that need no directive. -/
def standardHandles : List (String × String) := [("!", "!"), ("!!", standardTag)]

def isNameChar (c : Char) : Bool := c.isAlphanum || c == '-' || c == '_'

def isTagChar (c : Char) : Bool :=
  c.isAlphanum || ['-', ';', '/', '?', ':', '@', '&', '=', '+', '$', ',', '_', '.', '!', '~', '*',
    '\'', '(', ')', '[', ']'].contains c

/-- A handle: one exclamation mark before a space, or two around a name. -/
def tagHandle (c : Cursor) : Except Fault (String × Cursor) :=
  if c.peek != some '!' then .error .invalid
  else if c.peekAt 1 == some ' ' then .ok ("!", c.next)
  else
    let (name, c) := c.next.takeWhile isNameChar
    if c.peek == some '!' then .ok (String.ofList ('!' :: name ++ ['!']), c.next)
    else .error .invalid

/-- The bytes that percent signs give, one after the other. -/
def percentBytes : (fuel : Nat) → Cursor → Except Fault (List UInt8 × Cursor)
  | 0, c => .ok ([], c)
  | fuel + 1, c => do
    if c.peek != some '%' then return ([], c)
    let digits := c.next.rest.take 2
    match if digits.length = 2 then hexNumber? digits else none with
    | none => throw .invalid
    | some n =>
      let (bytes, c) ← percentBytes fuel (c.skip 3)
      return (n.toUInt8 :: bytes, c)

def tagRestFrom : (fuel : Nat) → List Char → Cursor → Except Fault (List Char × Cursor)
  | 0, text, c => .ok (text, c)
  | fuel + 1, text, c => do
    if c.peek == some '%' then
      let (bytes, c) ← percentBytes c.left c
      match String.fromUTF8? ⟨bytes.toArray⟩ with
      | some s => tagRestFrom fuel (text ++ s.toList) c
      | none => throw .invalid
    else if c.sees isTagChar then
      let (piece, c) := c.takeWhile isTagChar
      tagRestFrom fuel (text ++ piece) c
    else return (text, c)

def tagRest (c : Cursor) : Except Fault (String × Cursor) := do
  if !c.sees fun x => isTagChar x || x == '%' then throw .invalid
  let (text, c) ← tagRestFrom (c.left + 1) [] c
  return (String.ofList text, c)

def endsWord (c : Cursor) : Bool := c.atEnd || c.sees fun x => x == ' ' || isBreak x

/-- A tag in angle brackets, with a handle, or an exclamation mark alone; the cursor stands on the
first exclamation mark. Without a second one in the word, the first is the handle. -/
def Tag.read (c : Cursor) : Except Fault (Tag × Cursor) := do
  let (tag, c) ←
    if c.peekAt 1 == some '<' then do
      let (rest, c) ← tagRest (c.skip 2)
      if c.peek != some '>' then throw .invalid
      pure ((⟨none, rest⟩ : Tag), c.next)
    else if c.endsAt 1 then pure (Tag.nonSpecific, c.next)
    else do
      let word := c.next.rest.takeWhile fun x => !(x == ' ' || isBreak x)
      let (handle, c) ← if word.contains '!' then tagHandle c else pure ("!", c.next)
      let (rest, c) ← tagRest c
      pure (⟨some handle, rest⟩, c)
  if endsWord c then return (tag, c) else throw .invalid

end DateRules.Yaml
