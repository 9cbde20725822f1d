import CommandBook.Yaml.Node

/-!
# Merged entries

A mapping may take over the entries of other mappings: an entry under the key `<<` names one, or a
row of them, and goes out of the mapping, while the entries of what it names come in front. They are
taken over as they are when it is the mapping's turn, so a mapping that names one around itself gets
the entries that are left there. A mapping whose entries are taken over gets its own merges done
first. A key `=` becomes a text at that moment, wherever else the key stands.

## The depth

Going from one mapping to another one that it names takes an entry `<<` out of the graph, and none
ever comes in, so their number bounds the depth.

## Main definitions

* `NodeGraph.flatten` — the graph with the merges of a mapping done
-/

namespace CommandBook.Yaml

/-- An entry of a mapping. -/
abbrev NodeEntry := NodeId × NodeId

namespace NodeGraph

/-- The kind of a node. -/
def tag? (g : NodeGraph) (id : NodeId) : Option Tag :=
  g[id]?.map fun
    | .scalar tag _ | .sequence tag _ | .mapping tag _ => tag

/-- The graph with another kind for a node. -/
def setTag (g : NodeGraph) (id : NodeId) (tag : Tag) : NodeGraph :=
  g.modify id fun
    | .scalar _ text => .scalar tag text
    | .sequence _ items => .sequence tag items
    | .mapping _ entries => .mapping tag entries

/-- The entries of a mapping. -/
def entries (g : NodeGraph) (id : NodeId) : List NodeEntry :=
  match g[id]? with
  | some (.mapping _ entries) => entries
  | _ => []

/-- The graph with other entries for a mapping. -/
def setEntries (g : NodeGraph) (id : NodeId) (entries : List NodeEntry) : NodeGraph :=
  g.modify id fun
    | .mapping tag _ => .mapping tag entries
    | n => n

/-- The number of entries that merge something. -/
def merges (g : NodeGraph) : Nat :=
  g.foldl (fun n node =>
    match node with
    | .mapping _ entries => n + (entries.filter fun e => g.tag? e.1 == some .merge).length
    | _ => n) 0

section Merging
variable (flattenOne : NodeGraph → NodeId → Except Problem NodeGraph)

/-- The entries of each of a row of mappings, once their own merges are done. -/
def namedBy : NodeGraph → List NodeId → Except Problem (NodeGraph × List (List NodeEntry))
  | g, [] => .ok (g, [])
  | g, item :: rest =>
    match g[item]? with
    | some (.mapping _ _) => do
      let g ← flattenOne g item
      let entries := g.entries item
      let (g, rows) ← namedBy g rest
      return (g, entries :: rows)
    | _ => .error .badMerge

/-- The entries that the value of a merging entry names. Of a row of mappings the first counts most,
so it comes last. -/
def named (g : NodeGraph) (value : NodeId) : Except Problem (NodeGraph × List NodeEntry) :=
  match g[value]? with
  | some (.mapping _ _) => do
    let g ← flattenOne g value
    return (g, g.entries value)
  | some (.sequence _ items) => do
    let (g, rows) ← namedBy flattenOne g items
    return (g, rows.reverse.flatten)
  | _ => .error .badMerge

/-- Takes the merging entries of a mapping out, from entry number `place` on, and adds what they
name to `merged`. -/
def collect (id : NodeId) : (steps : Nat) → NodeGraph → (place : Nat) → List NodeEntry →
    Except Problem (NodeGraph × List NodeEntry)
  | 0, g, _, merged => .ok (g, merged)
  | steps + 1, g, place, merged =>
    match (g.entries id)[place]? with
    | none => .ok (g, merged)
    | some (key, value) =>
      match g.tag? key with
      | some .merge => do
        let taken := g.setEntries id ((g.entries id).eraseIdx place)
        let (g, more) ← named flattenOne taken value
        collect id steps g place (merged ++ more)
      | some .value => collect id steps (g.setTag key .str) (place + 1) merged
      | _ => collect id steps g (place + 1) merged

end Merging

/-- The graph with the merges of a mapping done, down to some depth of mappings that name others. -/
def flattenWithin : (depth : Nat) → NodeGraph → NodeId → Except Problem NodeGraph
  | 0, g, _ => .ok g
  | depth + 1, g, id => do
    let (g, merged) ← collect (flattenWithin depth) id ((g.entries id).length + 1) g 0 []
    return if merged.isEmpty then g else g.setEntries id (merged ++ g.entries id)

/-- The graph with the merges of a mapping done. -/
def flatten (g : NodeGraph) (id : NodeId) : Except Problem NodeGraph :=
  g.flattenWithin (g.merges + 1) id

end NodeGraph

end CommandBook.Yaml
