import CommandBook.CommandLine.Argument
import CommandBook.CommandLine.Ending
import CommandBook.CommandLine.Settings

/-!
# Commands on the command line

A command of the document as the command line meets it: the words that lead to it, the arguments it
takes, and what stands behind them. A parent with subcommands reads its own options and arguments
first and hands the other words on; a command without subcommands takes all words.

The words of a command are read in this order: flaws of options; the manual, if it is asked for;
arguments without a value; words behind the last argument.

## Main definitions

* `Place.ofEntry`, `Place.ofNode` — a command at its place
* `Place.read` — its arguments and the other words
-/

namespace CommandBook

/-- A command as the command line meets it. -/
structure Place where
  /-- The words that lead to the command. -/
  path : String
  about : String
  parameters : List Parameter
  /-- Whether the manual can be asked for. -/
  offersHelp : Bool := true
  /-- What stands behind the arguments in the usage. -/
  continuation : List String := []
  subcommands : List ManualEntry := []

/-- The arguments of a place with their values, and the words behind them. -/
structure PlaceWords where
  values : OrderedMap String String
  rest : List String

/-- The text about an entry: its description or, without one, its name. -/
def CommandEntry.about (e : CommandEntry) : String :=
  (given? e.definition.description).getD s!"Execute {e.name.text}"

/-- The text about a parent; nothing for one that is no command itself. -/
def CommandNode.about (n : CommandNode) : String := (n.own.map CommandEntry.about).getD ""

/-- A parent that is a command itself and has no subcommands. -/
def CommandNode.leaf? (n : CommandNode) : Option CommandEntry :=
  if n.subcommands.isEmpty then n.own else none

namespace Place

/-- The option for the manual gives way to an argument that has taken its name. -/
def leavesHelp (ps : List Parameter) : Bool := !ps.any (·.variableName == Manual.helpName)

/-- A command without subcommands. -/
def ofEntry (path : String) (e : CommandEntry) : Place :=
  let parameters := Parameter.ofName e.name
  { path, about := e.about, parameters, offersHelp := leavesHelp parameters }

/-- A parent with subcommands. -/
def ofNode (path : String) (n : CommandNode) : Place :=
  let subcommands := n.subcommands.entries.map fun s => ⟨s.1, s.2.about⟩
  let parameters := Parameter.ofEntry n.own
  { path
    about := n.about
    parameters
    offersHelp := leavesHelp parameters
    continuation := if n.own.isSome then ["[COMMAND] [ARGS]..."] else ["COMMAND [ARGS]..."]
    subcommands := subcommands.mergeSort fun a b => decide (a.name ≤ b.name) }

/-- The same place with its arguments passed over. -/
def withoutArguments (p : Place) : Place := { p with parameters := [] }

/-- The options of a place. -/
def options (p : Place) : List (OptionSpec Unit) := if p.offersHelp then [helpSpec ()] else []

/-- What leads to a subcommand: the path of the parent with its arguments. -/
def pathTo (p : Place) (name : String) : String :=
  String.intercalate " " (p.path :: p.parameters.map Parameter.usage ++ [name])

/-- The manual of a command. -/
def manual (p : Place) : Manual :=
  { path := p.path
    pieces := "[OPTIONS]" :: p.parameters.map Parameter.usage ++ p.continuation
    about := p.about
    options := p.options.map fun o => (o.label, o.about)
    commands := p.subcommands }

/-- A stop by a flaw. -/
def flawed {α : Type} (p : Place) (flaw : UsageFlaw) : Step Ending α :=
  .stop (.misuse p.manual flaw)

/-- A result that may be a flaw. -/
def check {α : Type} (p : Place) (r : Except UsageFlaw α) : Step Ending α :=
  .ofExcept (r.mapError (.misuse p.manual))

/-- Shows a manual instead of running a command. -/
def showManual {α : Type} (m : Manual) (status : Nat) : Step Ending α := do
  .emit (.out m.text)
  .stop (.done status)

/-- Reads the words of a place; `mixed` if options may stand behind arguments. -/
def read (p : Place) (mixed : Bool) (words : List String) : Step Ending PlaceWords := do
  let r ← p.check (readWords p.options mixed words)
  -- the only option that a place has is the one for the manual
  if !r.options.isEmpty then showManual p.manual 0
  let values ← p.check (Slots.fill p.parameters r.words).bind
  return { values, rest := r.words.drop p.parameters.length }

/-- The name that the program itself has for what it hands to a command; no argument may have it. -/
def reservedName : String := "ctx"

/-- Hands the arguments of a place to its command. -/
def handOver (p : Place) : Step Ending Unit :=
  if p.parameters.any (·.folded == reservedName) then .stop (.fault .argumentClash) else .ok ()

end Place

end CommandBook
