import CommandBook.OrderedMap
import CommandBook.Yaml.Denotation
import CommandBook.Yaml.Lexer
import CommandBook.Yaml.Merge

/-!
# Documents written in YAML

What the nodes of a document stand for. A scalar stands for a value without parts. A collection is
known by the number of its node, so that it can be in itself, and its contents are found when it is
its turn: the collections have their turns in the order in which they are first met, the outermost
first. So of several failures the one in the outermost collection counts. Collections may be nested
to any depth, where a reader that calls itself stops at the limit of its recursion.

## Termination

Every node has at most one turn, and on the way inwards no collection is entered twice; the number
of nodes bounds both.

## Main definitions

* `Document`, `Document.ofText` — what a text stands for; null for an empty one
* `Document.unfold` — a part of a document as a value
-/

namespace CommandBook.Yaml

/-- What a node stands for: a value without parts, or a collection, by the number of its node. -/
inductive Ref where
  | leaf (l : Leaf)
  | part (id : NodeId)
deriving Inhabited

/-- The contents of a collection. -/
inductive Collection where
  | list (items : List Ref)
  | map (entries : List (Leaf × Ref))
  | set (members : List Leaf)
  | pairs (entries : List (Ref × Ref))
deriving Inhabited

/-- A document: what it stands for, and the collections by number. -/
structure Document where
  root : Ref
  parts : Array Collection

/-! ## Making a document -/

/-- The nodes, what is known of them, and the collections whose turn will come, the next one
last. -/
structure Builder where
  nodes : NodeGraph
  known : Array (Option Ref)
  waiting : List NodeId
  parts : Array Collection

/-- A step in making a document. -/
abbrev Building := StateT Builder (Except Failure)

namespace Building

/-- Ends with a problem. -/
def refuse {α : Type} (p : Problem) : Building α := throw (.problem p)

/-- A result that changes nothing. -/
def result {α : Type} (r : Except Failure α) : Building α := fun b => r.map (·, b)

/-- The text of a node that should be a scalar: a mapping has one under the key `=`. -/
def scalarText? (g : NodeGraph) : (fuel : Nat) → NodeId → Except Fault (Option String)
  | 0, _ => .error .endless
  | fuel + 1, id =>
    match g[id]? with
    | some (.scalar _ text) => .ok (some text)
    | some (.mapping _ entries) =>
      match entries.find? fun e => g.tag? e.1 == some .value with
      | some (_, v) => scalarText? g fuel v
      | none => .ok none
    | _ => .ok none

/-- Whether a node is a mapping. -/
def isMapping (g : NodeGraph) (id : NodeId) : Bool := g[id]? matches some (.mapping _ _)

/-- The value of a node of a scalar kind. -/
def leaf (g : NodeGraph) (id : NodeId) (tag : Tag) : Except Failure Leaf := do
  match ← (scalarText? g (g.size + 1) id).mapError .fault with
  | none => throw (.problem (.wrongKind tag.uri))
  | some text =>
    if tag == .timestamp && isMapping g id then throw (.fault .timestampNotText)
    leafOf tag text

/-- What a node stands for. A collection that is met for the first time will have its turn. -/
def ref (id : NodeId) : Building Ref := do
  let b ← get
  match b.known[id]?.join with
  | some r => return r
  | none =>
    match b.nodes.tag? id with
    | none => refuse .unexpectedToken
    | some tag =>
      match tag with
      | .seq | .map | .set | .omap | .pairs =>
        let r := Ref.part id
        set { b with known := b.known.setIfInBounds id (some r), waiting := id :: b.waiting }
        return r
      | _ =>
        let r := Ref.leaf (← result (leaf b.nodes id tag))
        set { b with known := b.known.setIfInBounds id (some r) }
        return r

/-- A key of a mapping. What is no number is equal to nothing but itself, so it matters where it
comes from: one node, or the one word for it. -/
structure Key where
  leaf : Leaf
  source : Nat

/-- Whether a value is no number. -/
def isUndefined : Leaf → Bool
  | .real x => x != x
  | _ => false

instance : BEq Key where
  beq a b := a.leaf == b.leaf || (isUndefined a.leaf && isUndefined b.leaf && a.source == b.source)

/-- Where the value of a node comes from: the word for what is no number stands for one value. -/
def sourceOf (g : NodeGraph) (id : NodeId) : Except Fault Nat := do
  match ← scalarText? g (g.size + 1) id with
  | some text =>
    let cs := (Text.lower text).toList.filter (· != '_')
    return if Tag.unsigned cs == notANumberWord then 0 else id + 1
  | none => return id + 1

/-- The key that a node is. -/
def key (id : NodeId) : Building Key := do
  match ← ref id with
  | .leaf l =>
    let source ← result ((sourceOf (← get).nodes id).mapError .fault)
    return { leaf := l, source }
  | .part _ => refuse .collectionAsKey

/-- The entries of a mapping, merges done; a key that occurs again keeps its place. -/
def entries (id : NodeId) (tag : Tag) : Building (List (Leaf × Ref)) := do
  let b ← get
  if !isMapping b.nodes id then refuse (.wrongKind tag.uri)
  let nodes ← result ((b.nodes.flatten id).mapError .problem)
  set { b with nodes }
  let es ← (nodes.entries id).mapM fun e => do
    let k ← key e.1
    return (k, ← ref e.2)
  return (insertEntries [] es).map fun e => (e.1.leaf, e.2)

/-- The items of a sequence. -/
def items (id : NodeId) (tag : Tag) : Building (List NodeId) := do
  match (← get).nodes[id]? with
  | some (.sequence _ items) => return items
  | _ => refuse (.wrongKind tag.uri)

/-- The pair that a mapping of one entry is. -/
def pair (id : NodeId) : Building (Ref × Ref) := do
  match (← get).nodes[id]? with
  | some (.mapping _ [(k, v)]) => return (← ref k, ← ref v)
  | _ => refuse .badPair

/-- The contents of a collection. -/
def contents (id : NodeId) : Building Collection := do
  match (← get).nodes.tag? id with
  | some .seq => return .list (← (← items id .seq).mapM ref)
  | some .map => return .map (← entries id .map)
  | some .set => return .set ((← entries id .set).map Prod.fst)
  | some tag => return .pairs (← (← items id tag).mapM pair)
  | none => refuse .unexpectedToken

/-- Finds the contents of a row of collections, then those of the ones met on the way. -/
def fill : (fuel : Nat) → List NodeId → Building Unit
  | 0, _ => return
  | fuel + 1, [] => do
    let b ← get
    if b.waiting.isEmpty then return
    set { b with waiting := [] }
    fill fuel b.waiting.reverse
  | fuel + 1, id :: rest => do
    let c ← contents id
    modify fun b => { b with parts := b.parts.setIfInBounds id c }
    fill fuel rest

/-- A whole document. -/
def document (id : NodeId) : Building Document := do
  let root ← ref id
  fill (2 * (← get).nodes.size + 2) []
  return { root, parts := (← get).parts }

end Building

namespace Document

/-- The document of a text. -/
def ofText (cs : List Char) : Except Failure Document := do
  match ← NodeGraph.ofTokens (Token.ofText cs) with
  | none => return { root := .leaf .null, parts := #[] }
  | some (id, nodes) =>
    let n := nodes.size
    let start : Builder :=
      { nodes, known := .replicate n none, waiting := [], parts := .replicate n (.list []) }
    let (d, _) ← (Building.document id).run start
    return d

/-! ## Values -/

/-- A collection by its number. -/
def part (d : Document) (id : NodeId) : Collection := d.parts.getD id (.list [])

end Document

namespace Collection

/-- A collection as a value, given what its parts are. -/
def toValue (f : Ref → Value) : Collection → Value
  | .list items => .list (items.map f)
  | .map entries => .map (entries.map fun e => (e.1, f e.2))
  | .set members => .set members
  | .pairs entries => .pairs (entries.map fun e => (f e.1, f e.2))

/-- The value that stands for a collection inside itself. -/
def enclosing : Collection → Value
  | .map _ => .enclosing true
  | _ => .enclosing false

end Collection

namespace Document

/-- The value of a reference that stands inside the collections `around`. -/
def unfoldIn (d : Document) : (fuel : Nat) → (around : List NodeId) → Ref → Value
  | _, _, .leaf l => .leaf l
  | 0, _, .part _ => .null
  | fuel + 1, around, .part id =>
    if around.contains id then (d.part id).enclosing
    else (d.part id).toValue (d.unfoldIn fuel (id :: around))

/-- The value of a reference. Down to some depth its parts are values on their own, to which nothing
further out is around. -/
def unfold (d : Document) : (depth : Nat) → Ref → Value
  | 0, r => d.unfoldIn (d.parts.size + 1) [] r
  | _ + 1, .leaf l => .leaf l
  | depth + 1, .part id => (d.part id).toValue (d.unfold depth)

end Document

end CommandBook.Yaml
