import CommandBook.Command.Definition
import CommandBook.Command.Name

/-!
# The command tree

The entries of a document grouped by parent. The first entry for a parent itself, or for one of its
subcommands, counts; later ones are kept by name only, to be reported.

## Main definitions

* `CommandNode`, `CommandTree`
* `CommandTree.build` — the tree of a row of entries
-/

namespace CommandBook

/-- A name with its definition. -/
structure CommandEntry where
  name : CommandName
  definition : CommandDefinition

/-- A parent: the name and the definition that it has as a command itself, its subcommands, and the
names of entries that came too late. -/
structure CommandNode where
  name : String
  spec : Option CommandName := none
  definition : Option CommandDefinition := none
  subcommands : OrderedMap String CommandEntry := .empty
  shadowed : List String := []

/-- An entry from a name and a definition, if there are both. -/
def CommandEntry.pair? : Option CommandName → Option CommandDefinition → Option CommandEntry
  | some name, some definition => some { name, definition }
  | _, _ => none

@[simp] theorem CommandEntry.pair?_some (e : CommandEntry) :
    pair? (some e.name) (some e.definition) = some e := rfl

/-- What a parent is itself. -/
def CommandNode.own (node : CommandNode) : Option CommandEntry :=
  CommandEntry.pair? node.spec node.definition

/-- The parents in order of first appearance. -/
abbrev CommandTree := OrderedMap String CommandNode

/-- Adds an entry to its parent. -/
def CommandNode.add (node : CommandNode) (e : CommandEntry) : CommandNode :=
  let late := { node with shadowed := node.shadowed ++ [e.name.text] }
  match e.name.subcommand with
  | none =>
    if node.spec.isNone then { node with spec := some e.name, definition := some e.definition }
    else late
  | some sub =>
    if (node.subcommands.get? sub).isSome then late
    else { node with subcommands := node.subcommands.insert sub e }

namespace CommandTree

/-- Adds an entry under its parent. -/
def add (tree : CommandTree) (e : CommandEntry) : CommandTree :=
  let parent := e.name.parent
  tree.insert parent (((tree.get? parent).getD { name := parent }).add e)

/-- The entry that a key and a value of the document give. -/
def entry (key : Leaf) (value : Value) : Except Rejection CommandEntry := do
  let text ← Rejection.ofFault key.text?
  let name ← (CommandName.parse text).mapError .config
  let definition ← CommandDefinition.ofValue text value
  return { name, definition }

/-- Adds the entries of a document in order; the first that is wrong decides. -/
def addAll (tree : CommandTree) : List (Leaf × Value) → Except Rejection CommandTree
  | [] => .ok tree
  | (key, value) :: rest => do
    let e ← entry key value
    addAll (tree.add e) rest

/-- The tree of the commands of a document. -/
def build (commands : List (Leaf × Value)) : Except Rejection CommandTree := addAll .empty commands

/-- The tree of a value that should hold the commands. -/
def ofValue? : Option Value → Except Rejection CommandTree
  | none | some (.leaf .null) => .error (.config .commandsAbsent)
  | some (.map commands) => build commands
  | some _ => .error (.config .commandsNoMapping)

end CommandTree

end CommandBook
