import DateRules.Data.SetOrder
import DateRules.Yaml.Node
import DateRules.Yaml.ScalarValue

/-!
The data of a document. Collections are filled level by level, in the order in which they are met,
and the first fault in this order counts. Later entries of a mapping replace earlier ones with the
same key, and a merge mark puts the entries of other mappings in front.
-/
namespace DateRules.Yaml

/-- What a node stands for. The parts of a collection are given by the numbers of their nodes. -/
inductive Content where
  | scalar (v : Data)
  | list (items : List Nat)
  | pairs (items : List (Nat × Nat))
  | set (members : List Data)
  | mapping (entries : List (Data × Nat))
deriving Inhabited

/-- The contents that are known, and the collections that are still to be filled, first met first.
Merging changes the entries of nodes. -/
structure Filling where
  standIns : Text.StandIns
  nodes : Array Node
  contents : Array (Option Content)
  unfilled : List Nat

abbrev Filler := StateT Filling (Except Fault)

namespace Filler

def nodeAt (id : Nat) : Filler Node := return (← get).nodes.getD id default

def setNode (id : Nat) (n : Node) : Filler Unit :=
  modify fun s => { s with nodes := s.nodes.set! id n }

def setContent (id : Nat) (c : Content) : Filler Unit :=
  modify fun s => { s with contents := s.contents.set! id (some c) }

def isMark (mark : String) (n : Node) : Bool := n.tag == tagOf mark

def setEntries (id : Nat) (entries : List (Nat × Nat)) : Filler Unit := do
  if let .mapping tag _ ← nodeAt id then setNode id (.mapping tag entries)

def entriesAt (id : Nat) : Filler (List (Nat × Nat)) := do
  match ← nodeAt id with
  | .mapping _ entries => return entries
  | _ => throw .invalid

def retag (tag : String) : Node → Node
  | .scalar _ text => .scalar tag text
  | .sequence _ items => .sequence tag items
  | .mapping _ entries => .mapping tag entries

/-- The entries of several mappings after `merge`, the last mapping first. -/
def mergedEntries (merge : Nat → Filler Unit) : List Nat → Filler (List (Nat × Nat))
  | [] => return []
  | id :: ids => do
    merge id
    let entries ← entriesAt id
    return (← mergedEntries merge ids) ++ entries

/-- What the merge marks among the entries of a mapping bring. A mark is taken away before the
mappings that it names are merged themselves. As a key, the value mark is a text. -/
def broughtEntries (merge : Nat → Filler Unit) (id : Nat) (before : List (Nat × Nat)) :
    List (Nat × Nat) → Filler (List (Nat × Nat))
  | [] => return []
  | (k, v) :: rest => do
    let key ← nodeAt k
    if isMark "merge" key then
      setEntries id (before ++ rest)
      let brought ← match ← nodeAt v with
        | .mapping .. => mergedEntries merge [v]
        | .sequence _ items => mergedEntries merge items
        | .scalar .. => throw .invalid
      return brought ++ (← broughtEntries merge id before rest)
    else
      if isMark "value" key then setNode k (retag (tagOf "str") key)
      broughtEntries merge id (before ++ [(k, v)]) rest

/-- Replace the merge marks of a mapping by the entries that they bring, in front of its own. The
fuel bounds how deep mappings are merged. -/
def merge : (fuel : Nat) → (id : Nat) → Filler Unit
  | 0, _ => throw .invalid
  | fuel + 1, id => do
    let brought ← broughtEntries (merge fuel) id [] (← entriesAt id)
    if !brought.isEmpty then setEntries id (brought ++ (← entriesAt id))

/-- Every level of merging takes a mark away. -/
def mergeAll (id : Nat) : Filler Unit := do
  let marks := (← get).nodes.foldl
    (fun n x => match x with | .mapping _ entries => n + entries.length | _ => n) 1
  merge marks id

/-- The text of a scalar, or of the value that a mapping has by default. The fuel is the number of
nodes, so a default value is its own if it runs out. -/
def scalarText : (fuel : Nat) → Node → Filler String
  | 0, _ => throw .tooDeep
  | fuel + 1, n => do
    match n with
    | .scalar _ text => return text
    | .sequence .. => throw .invalid
    | .mapping _ entries =>
      match ← entries.findM? fun (k, _) => return isMark "value" (← nodeAt k) with
      | some (_, v) => scalarText fuel (← nodeAt v)
      | none => throw .invalid

def collectionTypes : List (String × Content) := [
  ("seq", .list []), ("map", .mapping []), ("set", .set []), ("omap", .pairs []),
  ("pairs", .pairs [])]

/-- The content of a node, if the tag fits a standard type. A collection is filled later. -/
def content (id : Nat) : Filler Content := do
  let s ← get
  if let some c := s.contents.getD id none then return c
  let n ← nodeAt id
  let kind := (kindOfTag? n.tag).getD ""
  match (scalarTypes s.standIns).lookup kind, collectionTypes.lookup kind with
  | some value, _ =>
    let text ← scalarText s.nodes.size n
    if kind == "timestamp" && !n.isScalar then throw (.scalar .notAText)
    let c := .scalar (← value text.toList)
    setContent id c
    return c
  | none, some c =>
    set { s with contents := s.contents.set! id (some c), unfilled := s.unfilled ++ [id] }
    return c
  | none, none => throw .invalid

/-- A key, which is a scalar. What is no number is the same as another only if both are written with
the mark or come from one node. -/
structure Key where
  data : Data
  node? : Option Nat

def Key.isSame (a b : Key) : Bool := a.data.sameKey b.data && a.node? == b.node?

def key (id : Nat) : Filler Key := do
  match ← content id with
  | .scalar (.real .nan) =>
    let text ← scalarText (← get).nodes.size (← nodeAt id)
    return ⟨.real .nan, if isNoNumberMark text.toList then none else some id⟩
  | .scalar v => return ⟨v, none⟩
  | _ => throw .invalid

/-- Set an entry. A key that is there keeps its place and its spelling. -/
def insert (key : Key) (value : Nat) : List (Key × Nat) → List (Key × Nat)
  | [] => [(key, value)]
  | e :: es => if e.1.isSame key then (e.1, value) :: es else e :: insert key value es

def mappingEntries (id : Nat) : Filler (List (Data × Nat)) := do
  let _ ← entriesAt id
  mergeAll id
  let entries ← (← entriesAt id).foldlM (fun es (k, v) => do
    let k ← key k
    let _ ← content v
    return insert k v es) []
  return entries.map fun (k, v) => (k.data, v)

def onlyEntry (id : Nat) : Filler (Nat × Nat) := do
  match ← entriesAt id with
  | [(k, v)] =>
    let _ ← content k
    let _ ← content v
    return (k, v)
  | _ => throw .invalid

def itemsAt (id : Nat) : Filler (List Nat) := do
  match ← nodeAt id with
  | .sequence _ items => return items
  | _ => throw .invalid

def fill (id : Nat) : Filler Unit := do
  match (← get).contents.getD id none with
  | some (.list _) =>
    let items ← itemsAt id
    for i in items do let _ ← content i
    setContent id (.list items)
  | some (.pairs _) => setContent id (.pairs (← (← itemsAt id).mapM onlyEntry))
  | some (.set _) => setContent id (.set (SetOrder.listed ((← mappingEntries id).map Prod.fst)))
  | some (.mapping _) => setContent id (.mapping (← mappingEntries id))
  | _ => return

/-- Every collection is filled once. -/
def fillAll : (fuel : Nat) → Filler Unit
  | 0 => return
  | fuel + 1 => do
    let s ← get
    match s.unfilled with
    | [] => return
    | id :: rest =>
      set { s with unfilled := rest }
      fill id
      fillAll fuel

end Filler

/-- The collections and keys that a content holds. -/
def Content.parts : Content → List Nat
  | scalar _ | set _ => []
  | list items => items
  | pairs items => items.flatMap fun (k, v) => [k, v]
  | mapping entries => entries.map Prod.snd

abbrev Contents := Array Content

namespace Contents

def parts (cs : Contents) (id : Nat) : List Nat := (cs.getD id default).parts

/-- What can be reached from the numbers to do; each step takes one of them. -/
def reached (cs : Contents) : (fuel : Nat) → (todo : List Nat) → (seen : Array Bool) → Array Bool
  | 0, _, seen => seen
  | _, [], seen => seen
  | fuel + 1, id :: todo, seen =>
    if seen.getD id true then cs.reached fuel todo seen
    else cs.reached fuel (cs.parts id ++ todo) (seen.set! id true)

def containsItself (cs : Contents) (id : Nat) : Bool :=
  let steps := cs.foldl (fun n c => n + c.parts.length) cs.size
  (cs.reached steps (cs.parts id) (Array.replicate cs.size false)).getD id false

/-- The data of a node inside the collections `around` that contain themselves. Data that no loop
goes through is kept. -/
def dataIn (cs : Contents) (isLoop : Nat → Bool) :
    (fuel : Nat) → (around : List Nat) → (id : Nat) → StateM (Array (Option Data)) Data
  | 0, _, _ => return .null
  | fuel + 1, around, id => do
    if let some v := (← get).getD id none then return v
    if around.contains id then return .again id
    let loops := isLoop id
    let part := cs.dataIn isLoop fuel (if loops then id :: around else around)
    let v ← match cs.getD id default with
      | .scalar v => pure v
      | .set members => pure (.set members)
      | .list items => .list <$> items.mapM part
      | .pairs items => .list <$> items.mapM fun (k, v) => return .pair (← part k) (← part v)
      | .mapping entries => .mapping <$> entries.mapM fun (k, v) => return (k, ← part v)
    if loops then return .loop id v
    modify fun kept => kept.set! id (some v)
    return v

end Contents

def Graph.data (g : Graph) : Except Fault Data := do
  let size := g.nodes.size
  let fillAll := do
    let _ ← Filler.content g.root
    Filler.fillAll size
  let (_, s) ← fillAll.run ⟨g.standIns, g.nodes, Array.replicate size none, []⟩
  let cs : Contents := s.contents.map fun c => c.getD default
  let loops := if g.hasLoop then (Array.range size).map cs.containsItself else #[]
  let (v, _) := (cs.dataIn (loops.getD · false) (size + 1) [] g.root).run
    (Array.replicate size none)
  return v

end DateRules.Yaml

namespace DateRules

/-- The data of a YAML text that holds at most one document. -/
def Data.ofYaml (m : Text.StandIns) (text : String) : Except Yaml.Fault Data := do
  (← Yaml.Graph.ofText m text).data

end DateRules
