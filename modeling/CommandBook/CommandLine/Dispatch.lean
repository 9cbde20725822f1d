import CommandBook.CommandLine.Listing
import CommandBook.CommandLine.Place
import CommandBook.Config
import CommandBook.Invocation
import CommandBook.Text.Alphanumeric

/-!
# Dispatch

From the words of a command line to what they ask for. The options of the program come first; the
next word names a command of the document, and the words behind it are that command's own. Without
such a word the program clears or shows the session, lists the commands, or shows its manual.

A parent with subcommands takes its arguments from the front of its words, unless the first of them
names a subcommand: then there are none.

Commands are looked up in the tree of the document, which is loaded for the first of these lookups
and kept for those behind it.

## Main definitions

* `Host` — what a command line is run against
* `CommandLine.load`, `CommandLine.lookUp` — the document with its tree of commands
* `CommandLine.start` — what a command line does
-/

namespace CommandBook

/-- What a command line is run against: environment, files, and what will come of a request and of a
shell command. -/
structure Host where
  env : Environment
  files : FileTree
  exchange : Exchange
  shell : Shell

namespace CommandLine

/-- A document with its tree of commands. -/
structure Loaded where
  config : Config
  tree : CommandTree

/-- Loads the document, with a warning for every entry that came too late. -/
def load (host : Host) (named : Option String) : Step Ending Loaded := do
  let place ← .ofExcept ((findConfig host.files named).mapError .fault)
  let path := place.map FilePath.absolute
  let config ← .ofExcept ((Config.load host.env host.files path).mapError .ofRejection)
  let tree ← .ofExcept ((CommandTree.build config.commands).mapError .ofRejection)
  .emitAll (tree.warnings.map .err)
  return { config, tree }

/-- The document with its tree: where it is looked up first it is loaded, and then it is kept. -/
def lookUp (host : Host) (named : Option String) : Option Loaded → Step Ending Loaded
  | some kept => .ok kept
  | none => load host named

/-- Looks up parents by their names, one by one. -/
def lookUpAll (host : Host) (named : Option String) (kept : Option Loaded) :
    List String → Step Ending (List (Option CommandNode))
  | [] => .ok []
  | name :: names => do
    let loaded ← lookUp host named kept
    let nodes ← lookUpAll host named (some loaded) names
    return loaded.tree.get? name :: nodes

/-- The commands for a manual: first their names are looked up, and then each of them. -/
def lookUpCommands (host : Host) (named : Option String) (kept : Option Loaded) :
    Step Ending (List ManualEntry) := do
  let loaded ← lookUp host named kept
  let nodes ← lookUpAll host named (some loaded) loaded.tree.keys
  return (loaded.tree.keys.zip nodes).filterMap fun (name, node) =>
    node.map fun node => ⟨name, node.about⟩

/-- The commands for the manual of the program; none when there is no document. -/
def shownCommands (host : Host) (kept : Option Loaded) (named : Option String) :
    Step Ending (List ManualEntry) :=
  match kept with
  | some _ => lookUpCommands host named kept
  | none => do
    match ← .ofExcept ((findConfig host.files named).mapError .fault) with
    | none => return []
    | some _ => lookUpCommands host named none

/-- Shows the manual of the program. -/
def showToolManual {α : Type} (host : Host) (kept : Option Loaded) (named : Option String)
    (status : Nat) : Step Ending α := do
  let commands ← shownCommands host kept named
  Place.showManual (toolManual commands) status

/-- Reads the options of the program, and gives the words behind them. -/
def readTool (host : Host) (kept : Option Loaded) (words : List String) :
    Step Ending (Settings × List String) := do
  let r ← .ofExcept ((readWords toolOptions false words).mapError (.misuse (toolManual [])))
  if r.options.any (·.1 == .help) then
    showToolManual host kept (Settings.documentOfHelp r.options) 0
  return (Settings.ofOptions host.env r.options, r.words)

/-- The session file that the settings name. -/
def storeOf (host : Host) (settings : Settings) : SessionStore :=
  .ofPath host.files.home settings.sessionFile

/-- Runs a definition. -/
def invoke (host : Host) (settings : Settings) (loaded : Loaded) (definition : CommandDefinition)
    (values : OrderedMap String String) : Step Ending Nat :=
  let around : Surroundings :=
    { files := host.files
      store := storeOf host settings
      exchange := host.exchange
      shell := host.shell }
  (Invocation.run definition values loaded.config.run around settings.verbose).mapStop .ofStop

/-- Runs a command without subcommands. -/
def runEntry (host : Host) (settings : Settings) (loaded : Loaded) (path : String)
    (e : CommandEntry) (words : List String) : Step Ending Nat := do
  let place := Place.ofEntry path e
  let r ← place.read true words
  if !r.rest.isEmpty then place.flawed (.extraWords r.rest)
  place.handOver
  invoke host settings loaded e.definition r.values

/-- Whether a word that names no command may have been meant as an option. -/
def mayBeOption (word : String) : Bool := word.toList.head?.any (!Text.isAlphanumeric ·)

/-- Runs a parent with subcommands. A word that names none, but may have been meant as an option, is
read with the words behind it as if they were the parent's own, before it is reported. -/
def runParent (host : Host) (settings : Settings) (loaded : Loaded) (path : String)
    (node : CommandNode) (words : List String) : Step Ending Nat := do
  let parent := Place.ofNode path node
  if words.isEmpty && node.own.isNone then .stop (.guidance parent.manual)
  let passed := words.head?.any fun w => (node.subcommands.get? w).isSome
  let place := if passed then parent.withoutArguments else parent
  let r ← place.read false words
  match r.rest, node.own with
  | [], some e =>
    place.handOver
    invoke host settings loaded e.definition r.values
  | [], none => place.flawed .commandMissing
  | name :: rest, _ =>
    match node.subcommands.get? name with
    | some e =>
      place.handOver
      runEntry host settings loaded (place.pathTo name) e rest
    | none =>
      let flaw := .unknownCommand name (Text.closest node.subcommands.keys name)
      if mayBeOption name then
        let _ ← parent.read false r.rest
        parent.flawed flaw
      else place.flawed flaw

/-- Runs the command that a word names. -/
def runNamed (host : Host) (settings : Settings) (name : String) (words : List String) :
    Step Ending Nat := do
  let loaded ← lookUp host settings.config none
  let path := toolName ++ " " ++ name
  match loaded.tree.get? name with
  | some node =>
    match node.leaf? with
    | some e => runEntry host settings loaded path e words
    | none => runParent host settings loaded path node words
  | none =>
    if mayBeOption name then
      let _ ← readTool host (some loaded) (name :: words)
    .stop (.misuse (toolManual []) (.unknownCommand name []))

/-- Forgets the saved session. -/
def clearSession (host : Host) (store : SessionStore) : Step Ending Nat := do
  match ← .ofExcept ((store.clear host.files).mapError .ofStop) with
  | some place =>
    .emit (.remove place)
    .emit (.out s!"Session cleared: {store.path.toString}")
  | none => .emit (.out "No saved session.")
  return 0

/-- Shows the saved session. -/
def showSession (host : Host) (store : SessionStore) : Step Ending Nat := do
  let session ← .ofExcept ((store.load host.files).mapError .ofStop)
  .emit (.out session.fileText)
  return 0

/-- Lists the commands. -/
def list (host : Host) (settings : Settings) : Step Ending Nat := do
  let loaded ← lookUp host settings.config none
  .emitAll (loaded.tree.listing.map .out)
  return 0

/-- What a command line without a command does. -/
def runWithout (host : Host) (settings : Settings) : Step Ending Nat :=
  let store := storeOf host settings
  if settings.clearSession then clearSession host store
  else if settings.showSession then showSession host store
  else if settings.list then list host settings
  else showToolManual host none settings.config 1

/-- What a command line does. -/
def start (host : Host) (words : List String) : Step Ending Nat := do
  let (settings, rest) ← readTool host none words
  match rest with
  | [] => runWithout host settings
  | name :: rest => runNamed host settings name rest

end CommandLine

end CommandBook
