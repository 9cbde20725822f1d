import CommandBook.Command.Tree

/-!
# The list of commands

A text with every parent and its subcommands: the names with their descriptions, and below each what
it requests, runs and captures.

## Main definitions

* `CommandTree.listing` — the texts of the list, of one line or more
-/

namespace CommandBook

/-- What a definition does: its request, its shell command and the variables it captures. -/
def CommandDefinition.details (d : CommandDefinition) : List String :=
  (given? d.endpoint).toList ++
    ((given? d.execute).map fun command => s!"exec: {command}").toList ++
    (if d.set.isEmpty then [] else ["sets: " ++ String.intercalate ", " d.set.keys])

/-- The lines about an entry. -/
def CommandEntry.lines (indent : String) (e : CommandEntry) : List String :=
  let about := ((given? e.definition.description).map fun d => s!" — {d}").getD ""
  let details := e.definition.details
  (indent ++ e.name.text ++ about) ::
    if details.isEmpty then [] else [indent ++ "  " ++ String.intercalate " | " details]

/-- The lines about a parent and its subcommands, with an empty one behind them. -/
def CommandNode.lines (n : CommandNode) : List String :=
  let own := match n.own with
    | some e => e.lines "  "
    | none => ["  " ++ n.name]
  own ++ (n.subcommands.entries.flatMap fun s => s.2.lines "    ") ++ [""]

/-- The texts of the list. -/
def CommandTree.listing (tree : CommandTree) : List String :=
  if tree.isEmpty then ["No commands configured."]
  else s!"{tree.entries.length} commands:\n" :: tree.entries.flatMap fun n => n.2.lines

/-- What is reported about entries that came too late. -/
def CommandTree.warnings (tree : CommandTree) : List String :=
  tree.entries.flatMap fun n => n.2.shadowed.map fun name =>
    s!"WARNING: '{name}' duplicates an earlier definition under '{n.2.name}' and is ignored."

end CommandBook
