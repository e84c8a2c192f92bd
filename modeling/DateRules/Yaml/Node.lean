import DateRules.Yaml.PlainForm
import DateRules.Yaml.Token

/-!
The nodes that the tokens of one document describe. Nodes are numbered, and collections hold the
numbers of their parts, because an alias may stand for a collection around it.
-/
namespace DateRules.Yaml

inductive Node where
  | scalar (tag text : String)
  | sequence (tag : String) (items : List Nat)
  | mapping (tag : String) (entries : List (Nat × Nat))
deriving DecidableEq, Repr, Inhabited

def Node.tag : Node → String
  | scalar tag _ | sequence tag _ | mapping tag _ => tag

def Node.isScalar : Node → Bool
  | scalar .. => true
  | _ => false

structure Graph where
  standIns : Text.StandIns
  nodes : Array Node
  root : Nat
  hasLoop : Bool

/-- The tokens still to be read, and the nodes read so far. -/
structure Pending where
  tokens : Tokens
  /-- What the handles of tags stand for. -/
  handles : List (String × String)
  anchors : List (String × Nat)
  /-- A collection has no node before it is read to its end. -/
  nodes : Array (Option Node)
  hasLoop : Bool
  depth : Nat

abbrev Reader := StateT Pending (Except Fault)

namespace Reader

def peek : Reader (Option Token) := do
  let ts := (← get).tokens
  match ts.list.head?, ts.fault with
  | some t, _ => return some t
  | none, some e => throw e
  | none, none => return none

def sees (p : Token → Bool) : Reader Bool := return (← peek).any p

def drop : Reader Unit :=
  modify fun s => { s with tokens := { s.tokens with list := s.tokens.list.drop 1 } }

def expect (t : Token) : Reader Unit := do
  if ← sees (· == t) then drop else throw .invalid

def anchor? : Reader (Option String) := do
  match ← peek with
  | some (.anchor name) => drop; return some name
  | _ => return none

def tag? : Reader (Option Tag) := do
  match ← peek with
  | some (.tag t) => drop; return some t
  | _ => return none

def properties : Reader (Option String × Option Tag) := do
  match ← anchor? with
  | some a => return (some a, ← tag?)
  | none =>
    let t ← tag?
    return (← anchor?, t)

/-- A tag in full. The exclamation mark alone tags nothing. -/
def fullTag (tag : Option Tag) : Reader (Option String) := do
  match tag with
  | none => return none
  | some ⟨none, rest⟩ => return if rest == "!" then none else some rest
  | some ⟨some handle, rest⟩ =>
    match (← get).handles.lookup handle with
    | some expansion => return some (expansion ++ rest)
    | none => throw .invalid

/-- A number for a node that is about to be read, under a name that may be given once. -/
def reserve (anchor : Option String) : Reader Nat := do
  let s ← get
  let id := s.nodes.size
  match anchor with
  | none => set { s with nodes := s.nodes.push none }
  | some a =>
    if (s.anchors.lookup a).isSome then throw .invalid
    set { s with nodes := s.nodes.push none, anchors := (a, id) :: s.anchors }
  return id

def complete (id : Nat) (n : Node) : Reader Unit :=
  modify fun s => { s with nodes := s.nodes.set! id (some n) }

/-- A scalar without a tag has the type of its form, if it is plain, and else is a text. -/
def scalar (anchor : Option String) (written : Option Tag) (plain : Bool) (text : String) :
    Reader Nat := do
  let form := if plain || written.isSome then plainForm text else "str"
  let tag := (← fullTag written).getD (tagOf form)
  let id ← reserve anchor
  complete id (.scalar tag text)
  return id

def empty : Reader Nat := scalar none none true ""

/-- The node that an alias names. One that is not complete contains the alias. -/
def aliased (name : String) : Reader Nat := do
  let s ← get
  match s.anchors.lookup name with
  | none => throw .invalid
  | some id =>
    if (s.nodes.getD id none).isNone then set { s with hasLoop := true }
    return id

def maxDepth : Nat := 491

def collection (anchor : Option String) (make : α → Node) (read : Reader α) : Reader Nat := do
  let id ← reserve anchor
  let depth := (← get).depth
  if maxDepth ≤ depth then throw .tooDeep
  modify fun s => { s with depth := depth + 1 }
  complete id (make (← read))
  modify fun s => { s with depth := depth }
  return id

mutual

/-- One node. In a block, block collections may stand here, and as the value of a key also the
entries of a sequence without an indentation of their own. -/
def node (fuel : Nat) (block indentless : Bool) : Reader Nat :=
  match fuel with
  | 0 => throw .invalid
  | fuel + 1 => do
    if let some (.alias name) := ← peek then
      drop
      return ← aliased name
    let (anchor, tag) ← properties
    let full ← fullTag tag
    let sequence := collection anchor (.sequence (full.getD (tagOf "seq")))
    let mapping := collection anchor (.mapping (full.getD (tagOf "map")))
    match ← peek with
    | some .blockEntry => if indentless then return ← sequence (indentlessItems fuel)
    | some (.scalar plain text) =>
      drop
      return ← scalar anchor tag plain text
    | some .flowSequenceStart =>
      drop
      return ← sequence (flowItems fuel true)
    | some .flowMappingStart =>
      drop
      return ← mapping (flowEntries fuel true)
    | some .blockSequenceStart =>
      if block then
        drop
        return ← sequence (blockItems fuel)
    | some .blockMappingStart =>
      if block then
        drop
        return ← mapping (blockEntries fuel)
    | _ => pure ()
    if anchor.isSome || tag.isSome then scalar anchor tag true "" else throw .invalid

/-- A node, or nothing if one of the given tokens is next. -/
def nodeUnless (fuel : Nat) (ends : List Token) (block indentless : Bool) : Reader Nat :=
  match fuel with
  | 0 => throw .invalid
  | fuel + 1 => do
    if ← sees ends.contains then empty else node fuel block indentless

def blockItems (fuel : Nat) : Reader (List Nat) :=
  match fuel with
  | 0 => throw .invalid
  | fuel + 1 => do
    if ← sees (· == .blockEntry) then
      drop
      let n ← nodeUnless fuel [.blockEntry, .blockEnd] true false
      return n :: (← blockItems fuel)
    expect .blockEnd
    return []

def indentlessItems (fuel : Nat) : Reader (List Nat) :=
  match fuel with
  | 0 => throw .invalid
  | fuel + 1 => do
    if ← sees (· == .blockEntry) then
      drop
      let n ← nodeUnless fuel [.blockEntry, .key, .value, .blockEnd] true false
      return n :: (← indentlessItems fuel)
    return []

def blockEntries (fuel : Nat) : Reader (List (Nat × Nat)) :=
  match fuel with
  | 0 => throw .invalid
  | fuel + 1 => do
    if ← sees (· == .blockEnd) then
      drop
      return []
    if !(← sees (· == .key)) then throw .invalid
    let k ← keyOf fuel [.key, .value, .blockEnd] true
    let v ← valueOf fuel [.key, .value, .blockEnd] true
    return (k, v) :: (← blockEntries fuel)

def keyOf (fuel : Nat) (ends : List Token) (block : Bool) : Reader Nat :=
  match fuel with
  | 0 => throw .invalid
  | fuel + 1 => do
    expect .key
    nodeUnless fuel ends block block

/-- The value after its mark; without a mark it is empty. -/
def valueOf (fuel : Nat) (ends : List Token) (block : Bool) : Reader Nat :=
  match fuel with
  | 0 => throw .invalid
  | fuel + 1 => do
    if ← sees (· == .value) then
      drop
      nodeUnless fuel ends block block
    else empty

/-- The items up to the closing bracket. An item with a key mark is a mapping of one entry. -/
def flowItems (fuel : Nat) (first : Bool) : Reader (List Nat) :=
  match fuel with
  | 0 => throw .invalid
  | fuel + 1 => do
    if ← sees (· == .flowSequenceEnd) then
      drop
      return []
    if !first then expect .flowEntry
    if ← sees (· == .flowSequenceEnd) then
      drop
      return []
    let n ←
      if ← sees (· == .key) then
        collection none (.mapping (tagOf "map")) do
          let k ← keyOf fuel [.value, .flowEntry, .flowSequenceEnd] false
          let v ← valueOf fuel [.flowEntry, .flowSequenceEnd] false
          return [(k, v)]
      else node fuel false false
    return n :: (← flowItems fuel false)

/-- The entries up to the closing brace. An entry without a key mark has no value. -/
def flowEntries (fuel : Nat) (first : Bool) : Reader (List (Nat × Nat)) :=
  match fuel with
  | 0 => throw .invalid
  | fuel + 1 => do
    if ← sees (· == .flowMappingEnd) then
      drop
      return []
    if !first then expect .flowEntry
    if ← sees (· == .flowMappingEnd) then
      drop
      return []
    let entry ←
      if ← sees (· == .key) then do
        let k ← keyOf fuel [.value, .flowEntry, .flowMappingEnd] false
        let v ← valueOf fuel [.flowEntry, .flowMappingEnd] false
        pure (k, v)
      else do
        let k ← node fuel false false
        pure (k, ← empty)
    return entry :: (← flowEntries fuel false)

end

/-- The directives before a document. The version, which is 1, and each handle may be given once. -/
def directives : (fuel : Nat) → (hasVersion : Bool) → (handles : List (String × String)) →
    Reader Unit
  | 0, _, _ => throw .invalid
  | fuel + 1, hasVersion, handles => do
    match ← peek with
    | some (.directive d) =>
      drop
      match d with
      | .version major =>
        if hasVersion || major != 1 then throw .invalid
        directives fuel true handles
      | .handle name expansion =>
        if (handles.lookup name).isSome then throw .invalid
        directives fuel hasVersion ((name, expansion) :: handles)
      | .other => directives fuel hasVersion handles
    | _ => modify fun s => { s with handles := handles ++ standardHandles }

def beginsDocument : Token → Bool
  | .directive _ | .documentStart => true
  | _ => false

def dropEndMarks : (fuel : Nat) → Reader Unit
  | 0 => throw .invalid
  | fuel + 1 => do
    if ← sees (· == .documentEnd) then
      drop
      dropEndMarks fuel

/-- The only document of a text; a text without one is empty. A second one is an error, but its
directives are read. -/
def document (fuel : Nat) : Reader Nat := do
  if (← peek).isNone then return ← empty
  let n ←
    if ← sees beginsDocument then do
      directives fuel false []
      expect .documentStart
      if (← peek).all fun t => beginsDocument t || t == .documentEnd then empty
      else node fuel true false
    else node fuel true false
  dropEndMarks fuel
  if (← peek).isSome then
    directives fuel false []
    throw .invalid
  return n

end Reader

/-- The document of a text. Every call of the reader but a few passes a token. -/
def Graph.ofText (m : Text.StandIns) (text : String) : Except Fault Graph := do
  let ts := Tokens.ofText m text
  let (root, s) ← (Reader.document (8 * ts.list.length + 8)).run
    ⟨ts, standardHandles, [], #[], false, 0⟩
  return ⟨m, s.nodes.map fun n => n.getD default, root, s.hasLoop⟩

end DateRules.Yaml
