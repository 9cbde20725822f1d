import CommandBook.Yaml.Tag
import CommandBook.Yaml.Token

/-!
# YAML nodes

The nodes that a row of tokens writes. Nodes are numbered in the order in which they begin, and
collections refer to what is in them by number. So an alias needs no node of its own: it is one more
reference to the node with its anchor, which may well be a collection around the alias.

## Termination

Every step of the descent is paid for by a token; the functions count down from a multiple of the
number of tokens.

## Main definitions

* `Node`, `NodeGraph`
* `NodeGraph.ofTokens` — the nodes of a document and the outermost of them, none for an empty text
-/

namespace CommandBook.Yaml

/-- The number of a node. -/
abbrev NodeId := Nat

/-- A node with its kind. -/
inductive Node where
  | scalar (tag : Tag) (text : String)
  | sequence (tag : Tag) (items : List NodeId)
  | mapping (tag : Tag) (entries : List (NodeId × NodeId))

/-- Nodes by number. -/
abbrev NodeGraph := Array Node

/-- The tokens to come and what comes behind them, the nodes and anchors so far, and the meanings of
tag handles. -/
structure NodeReader where
  tokens : List Token
  failure : Option Failure := none
  nodes : NodeGraph := #[]
  anchors : List (String × NodeId) := []
  handles : List (String × String) := []

/-- How a sequence is written. -/
inductive SequenceForm where
  | block
  /-- Indented like the mapping around it. -/
  | indentless
  /-- In brackets. -/
  | flow
deriving DecidableEq

/-- The anchor and tag in front of a node. -/
structure Properties where
  anchor : Option String := none
  tag : Option String := none

namespace NodeReader

abbrev Result (α : Type) := Except Failure α

def refuse {α : Type} (p : Problem) : Result α := .error (.problem p)

/-- The next token. -/
def peek (r : NodeReader) : Result Token :=
  match r.tokens with
  | t :: _ => .ok t
  | [] => .error (r.failure.getD (.problem .unexpectedToken))

def advance (r : NodeReader) : NodeReader := { r with tokens := r.tokens.drop 1 }

/-- Whether the next token is one of these. -/
def nextIn (r : NodeReader) (ts : List Token) : Result Bool := r.peek.map ts.contains

/-- The full name of a tag. -/
def resolveTag (r : NodeReader) (handle : Option String) (suffix : String) : Result String :=
  match handle with
  | none => .ok suffix
  | some h =>
    match r.handles.lookup h with
    | some leader => .ok (leader ++ suffix)
    | none => refuse (.undefinedTagHandle h)

/-- The anchor that stands here, if one does. -/
def anchorHere (r : NodeReader) : Result (Option String × NodeReader) := do
  match ← r.peek with
  | .anchor name => return (some name, r.advance)
  | _ => return (none, r)

/-- The tag that stands here, if one does, as it is written. -/
def tagHere (r : NodeReader) : Result (Option (Option String × String) × NodeReader) := do
  match ← r.peek with
  | .tag handle suffix => return (some (handle, suffix), r.advance)
  | _ => return (none, r)

/-- The anchor and tag in front of a node, in either order. -/
def properties (r : NodeReader) : Result (Properties × NodeReader) := do
  let (before, r) ← r.anchorHere
  let (tag, r) ← r.tagHere
  let (anchor, r) ← if before.isNone && tag.isSome then r.anchorHere else pure (before, r)
  let tag ← tag.mapM fun t => r.resolveTag t.1 t.2
  return ({ anchor, tag }, r)

/-- Adds a node under its anchor; each anchor may be given once. -/
def add (r : NodeReader) (p : Properties) (n : Node) : Result (NodeId × NodeReader) :=
  let id := r.nodes.size
  let r := { r with nodes := r.nodes.push n }
  match p.anchor with
  | none => .ok (id, r)
  | some name =>
    if (r.anchors.lookup name).isSome then refuse (.duplicateAnchor name)
    else .ok (id, { r with anchors := (name, id) :: r.anchors })

/-- Puts a node in the place of another one. -/
def fill (r : NodeReader) (id : NodeId) (n : Node) : NodeReader :=
  { r with nodes := r.nodes.setIfInBounds id n }

/-- The tag of a scalar: its own, or what its text shows when it is plain or has the tag `!`. -/
def scalarTag (p : Properties) (plain : Bool) (text : String) : Tag :=
  match p.tag with
  | none => if plain then .ofPlain text else .str
  | some "!" => .ofPlain text
  | some uri => .ofUri uri

/-- The tag of a collection: its own, or the one of its kind. -/
def collectionTag (p : Properties) (standard : Tag) : Tag :=
  match p.tag with
  | none | some "!" => standard
  | some uri => .ofUri uri

/-- A scalar that is not written at all. -/
def addEmpty (r : NodeReader) : Result (NodeId × NodeReader) := r.add {} (.scalar .null "")

/-- A node of which nothing but an anchor or a tag is written. -/
def unwritten (p : Properties) (r : NodeReader) : Result (NodeId × NodeReader) :=
  if p.anchor.isSome || p.tag.isSome then r.add p (.scalar (scalarTag p true "") "")
  else refuse .unexpectedToken

/-- The node of an alias. -/
def aliased (r : NodeReader) (name : String) : Result NodeId :=
  match r.anchors.lookup name with
  | none => refuse (.undefinedAlias name)
  | some id => .ok id

mutual

/-- The node that begins here. Block collections may begin only where `block` is set, and sequences
whose entries are not indented only where `indentless` is. -/
def node : (fuel : Nat) → (block indentless : Bool) → NodeReader → Result (NodeId × NodeReader)
  | 0, _, _, _ => refuse .unexpectedToken
  | fuel + 1, block, indentless, r => do
    match ← r.peek with
    | .aliasOf name => return (← r.aliased name, r.advance)
    | _ =>
      let (p, r) ← r.properties
      match ← r.peek with
      | .scalar text plain => r.advance.add p (.scalar (scalarTag p plain text) text)
      | .blockEntry => if indentless then sequence fuel p .indentless r else unwritten p r
      | .flowSequenceStart => sequence fuel p .flow r.advance
      | .flowMappingStart => mapping fuel p true r.advance
      | .blockSequenceStart =>
        if block then sequence fuel p .block r.advance else unwritten p r
      | .blockMappingStart => if block then mapping fuel p false r.advance else unwritten p r
      | _ => unwritten p r

/-- The sequence whose first entry is next. -/
def sequence : (fuel : Nat) → Properties → SequenceForm → NodeReader → Result (NodeId × NodeReader)
  | 0, _, _, _ => refuse .unexpectedToken
  | fuel + 1, p, form, r => do
    let tag := collectionTag p .seq
    let (id, r) ← r.add p (.sequence tag [])
    let (items, r) ← match form with
      | .block => blockItems fuel r
      | .indentless => indentlessItems fuel r
      | .flow => flowItems fuel true r
    return (id, r.fill id (.sequence tag items))

/-- The mapping whose first entry is next. -/
def mapping : (fuel : Nat) → Properties → (flow : Bool) → NodeReader → Result (NodeId × NodeReader)
  | 0, _, _, _ => refuse .unexpectedToken
  | fuel + 1, p, flow, r => do
    let tag := collectionTag p .map
    let (id, r) ← r.add p (.mapping tag [])
    let (entries, r) ← if flow then flowEntries fuel true r else blockEntries fuel r
    return (id, r.fill id (.mapping tag entries))

/-- The entries of a block sequence up to its end. -/
def blockItems : (fuel : Nat) → NodeReader → Result (List NodeId × NodeReader)
  | 0, _ => refuse .unexpectedToken
  | fuel + 1, r => do
    match ← r.peek with
    | .blockEntry =>
      let r := r.advance
      let (n, r) ←
        if ← r.nextIn [.blockEntry, .blockEnd] then r.addEmpty else node fuel true false r
      let (items, r) ← blockItems fuel r
      return (n :: items, r)
    | .blockEnd => return ([], r.advance)
    | _ => refuse .unexpectedToken

/-- The entries of a sequence that is indented like the mapping around it. -/
def indentlessItems : (fuel : Nat) → NodeReader → Result (List NodeId × NodeReader)
  | 0, _ => refuse .unexpectedToken
  | fuel + 1, r => do
    match ← r.peek with
    | .blockEntry =>
      let r := r.advance
      let (n, r) ←
        if ← r.nextIn [.blockEntry, .key, .value, .blockEnd] then r.addEmpty
        else node fuel true false r
      let (items, r) ← indentlessItems fuel r
      return (n :: items, r)
    | _ => return ([], r)

/-- The entries of a block mapping up to its end. -/
def blockEntries : (fuel : Nat) → NodeReader → Result (List (NodeId × NodeId) × NodeReader)
  | 0, _ => refuse .unexpectedToken
  | fuel + 1, r => do
    match ← r.peek with
    | .key =>
      let r := r.advance
      let (k, r) ←
        if ← r.nextIn [.key, .value, .blockEnd] then r.addEmpty else node fuel true true r
      let (v, r) ←
        if ← r.nextIn [.value] then do
          let r := r.advance
          if ← r.nextIn [.key, .value, .blockEnd] then r.addEmpty else node fuel true true r
        else r.addEmpty
      let (entries, r) ← blockEntries fuel r
      return ((k, v) :: entries, r)
    | .blockEnd => return ([], r.advance)
    | _ => refuse .unexpectedToken

/-- The items of a sequence in brackets up to its end. An item may be a mapping of one entry
without brackets of its own. -/
def flowItems : (fuel : Nat) → (first : Bool) → NodeReader → Result (List NodeId × NodeReader)
  | 0, _, _ => refuse .unexpectedToken
  | fuel + 1, first, r => do
    if ← r.nextIn [.flowSequenceEnd] then return ([], r.advance)
    if !first && !(← r.nextIn [.flowEntry]) then refuse .unexpectedToken
    let r := if first then r else r.advance
    match ← r.peek with
    | .flowSequenceEnd => return ([], r.advance)
    | .key =>
      let (id, r) ← r.add {} (.mapping .map [])
      let (e, r) ← flowEntry fuel .flowSequenceEnd r.advance
      let (items, r) ← flowItems fuel false (r.fill id (.mapping .map [e]))
      return (id :: items, r)
    | _ =>
      let (n, r) ← node fuel false false r
      let (items, r) ← flowItems fuel false r
      return (n :: items, r)

/-- The key behind its mark, and the value, of an entry in brackets. -/
def flowEntry : (fuel : Nat) → (closing : Token) → NodeReader →
    Result ((NodeId × NodeId) × NodeReader)
  | 0, _, _ => refuse .unexpectedToken
  | fuel + 1, closing, r => do
    let (k, r) ←
      if ← r.nextIn [.value, .flowEntry, closing] then r.addEmpty else node fuel false false r
    let (v, r) ←
      if ← r.nextIn [.value] then do
        let r := r.advance
        if ← r.nextIn [.flowEntry, closing] then r.addEmpty else node fuel false false r
      else r.addEmpty
    return ((k, v), r)

/-- The entries of a mapping in brackets up to its end. An entry may be a key alone. -/
def flowEntries : (fuel : Nat) → (first : Bool) → NodeReader →
    Result (List (NodeId × NodeId) × NodeReader)
  | 0, _, _ => refuse .unexpectedToken
  | fuel + 1, first, r => do
    if ← r.nextIn [.flowMappingEnd] then return ([], r.advance)
    if !first && !(← r.nextIn [.flowEntry]) then refuse .unexpectedToken
    let r := if first then r else r.advance
    match ← r.peek with
    | .flowMappingEnd => return ([], r.advance)
    | .key =>
      let (e, r) ← flowEntry fuel .flowMappingEnd r.advance
      let (entries, r) ← flowEntries fuel false r
      return (e :: entries, r)
    | _ =>
      let (k, r) ← node fuel false false r
      let (v, r) ← r.addEmpty
      let (entries, r) ← flowEntries fuel false r
      return ((k, v) :: entries, r)

end

/-- The handles that need no directive. -/
def standardHandles : List (String × String) := [("!", "!"), ("!!", standardLeader)]

/-- Reads the directives in front of a document. -/
def directives : (fuel : Nat) → (versioned : Bool) → NodeReader → Result NodeReader
  | 0, _, r => .ok r
  | fuel + 1, versioned, r => do
    match ← r.peek with
    | .versionDirective major _ =>
      if versioned then refuse .duplicateDirective
      if major != 1 then refuse .incompatibleVersion
      directives fuel true r.advance
    | .tagDirective handle leader =>
      if (r.handles.lookup handle).isSome then refuse .duplicateDirective
      directives fuel versioned { r.advance with handles := r.handles ++ [(handle, leader)] }
    | .otherDirective => directives fuel versioned r.advance
    | _ => return r

/-- Skips marks that end documents. -/
def skipDocumentEnds : (fuel : Nat) → NodeReader → Result NodeReader
  | 0, r => .ok r
  | fuel + 1, r => do
    if ← r.nextIn [.documentEnd] then skipDocumentEnds fuel r.advance else return r

/-- Reads the directives of a document and its first mark, if there is one more document. -/
def explicitStart? (r : NodeReader) : Result (Option NodeReader) := do
  let r ← skipDocumentEnds r.tokens.length r
  if ← r.nextIn [.streamEnd] then return none
  let r ← directives r.tokens.length false { r with handles := [] }
  if ← r.nextIn [.documentStart] then
    return some { r.advance with handles := r.handles ++ standardHandles }
  else refuse .unexpectedToken

/-- Whether a document has nothing in it, so far as the token here tells. -/
def endsDocument : Token → Bool
  | .versionDirective _ _ | .tagDirective _ _ | .otherDirective | .documentStart | .documentEnd
  | .streamEnd => true
  | _ => false

/-- The node that begins here. -/
def root (r : NodeReader) : Result (NodeId × NodeReader) :=
  node (8 * r.tokens.length + 8) true false r

/-- The first document of a row of tokens; none when there is no document. -/
def firstDocument (r : NodeReader) : Result (Option NodeId × NodeReader) := do
  let first ← r.peek
  if !endsDocument first || first == .documentEnd then
    let (id, r) ← root { r with handles := standardHandles }
    return (some id, r)
  match ← explicitStart? r with
  | none => return (none, r)
  | some r =>
    let (id, r) ← if endsDocument (← r.peek) then r.addEmpty else root r
    return (some id, r)

end NodeReader

/-- The nodes of the one document of a row of tokens and the outermost of them; none when there is
no document. -/
def NodeGraph.ofTokens (row : TokenRow) : Except Failure (Option (NodeId × NodeGraph)) := do
  let r : NodeReader := { tokens := row.tokens, failure := row.failure }
  match ← r.firstDocument with
  | (none, _) => return none
  | (some id, r) =>
    match ← r.explicitStart? with
    | none => return some (id, r.nodes)
    | some _ => .error (.problem .severalDocuments)

end CommandBook.Yaml
