import CommandBook.CommandLine.Manual
import CommandBook.CommandLine.Option
import CommandBook.Template.Environment

/-!
# Settings

The options of the program itself. The places of the document and of the session file may also come
from the environment, where an empty text counts as none.

## Main definitions

* `ToolOption`, `toolOptions`
* `Settings.ofOptions` — what the options of a command line say
* `toolManual` — the manual of the program
-/

namespace CommandBook

/-- An option of the program itself. -/
inductive ToolOption where
  | config | sessionFile | verbose | list | showSession | clearSession | help
deriving DecidableEq, Repr

/-- The option for the manual, which every command has. -/
def helpSpec {κ : Type} (key : κ) : OptionSpec κ :=
  { key, long := Manual.helpName, about := "Show this message and exit." }

/-- The options of the program itself, in the order of its manual. -/
def toolOptions : List (OptionSpec ToolOption) := [
  { key := .config, short := some 'c', long := "--config", value := some "TEXT"
    about := "Config file path. Default: yamlcmd.yaml or config.yaml in CWD, " ++
      "then ~/.yamlcmd/config.yaml." },
  { key := .sessionFile, long := "--session-file", value := some "TEXT"
    about := "Session file path. Default: ~/.yamlcmd_session.json." },
  { key := .verbose, short := some 'v', long := "--verbose"
    about := "Print request line, status and timing to stderr." },
  { key := .list, long := "--list", about := "List configured commands." },
  { key := .showSession, long := "--show-session"
    about := "Print saved session variables as JSON." },
  { key := .clearSession, long := "--clear-session", about := "Delete saved session variables." },
  helpSpec .help]

/-- What a command line says to the program itself. -/
structure Settings where
  config : Option String := none
  sessionFile : Option String := none
  verbose : Bool := false
  list : Bool := false
  showSession : Bool := false
  clearSession : Bool := false
deriving DecidableEq, Repr

namespace Settings

/-- Options in order of appearance with their values. -/
abbrev Given := List (ToolOption × Option String)

/-- The value of an option; the last one counts. -/
def lastValue (given : Given) (o : ToolOption) : Option String :=
  ((given.filter (·.1 == o)).getLast?).bind (·.2)

/-- What the options of a command line say, with the environment behind them. -/
def ofOptions (env : Environment) (given : Given) : Settings :=
  let has (o : ToolOption) : Bool := given.any (·.1 == o)
  let fromEnv (name : String) : Option String := (env.get? name).filter (· != "")
  { config := (lastValue given .config).or (fromEnv "YAMLCMD_CONFIG")
    sessionFile := (lastValue given .sessionFile).or (fromEnv "YAMLCMD_SESSION")
    verbose := has .verbose
    list := has .list
    showSession := has .showSession
    clearSession := has .clearSession }

/-- The document that a manual asked for by option draws on: the one named in front of the first
such option or, if that comes first, none. -/
def documentOfHelp (given : Given) : Option String :=
  match given.find? fun o => o.1 == .config || o.1 == .help with
  | some (.config, _) => lastValue given .config
  | _ => none

end Settings

/-! ## The manual of the program -/

/-- The name under which the program runs. -/
def toolName : String := "yamlcmd"

/-- The text about the program, line by line. -/
def toolAbout : List String :=
  ["yamlcmd — CLI generated from a YAML command document.",
    "",
    "Every entry under `commands` in the config becomes a command. Commands",
    "call HTTP endpoints and/or run shell commands, with $variables filled in",
    "from the config, the saved session, and the command-line arguments.",
    "",
    "\x08",
    "CONFIG FILE",
    "───────────",
    "  Resolution order:",
    "    1. -c/--config flag or YAMLCMD_CONFIG",
    "    2. yamlcmd.yaml, .yamlcmd.yaml (or .yml), config.yaml in CWD",
    "    3. ~/.yamlcmd/config.yaml",
    "",
    "\x08",
    "  variables:",
    "    base: https://api.example.com",
    "  headers:",
    "    Authorization: Bearer $token",
    "  commands:",
    "    login <user> <pass>:",
    "      endpoint: POST $base/login",
    "      body: \x7busername: $user, password: $pass\x7d",
    "      set:",
    "        token: $data.access_token",
    "      response: Logged in as $data.user.name",
    "    get <id>:",
    "      endpoint: GET $base/items/$id",
    "      response: \"$data.id: $data.title\"",
    "    get list:",
    "      endpoint: GET $base/items",
    "    hello [name]:",
    "      response: Hello $name",
    "",
    "\x08",
    "COMMAND NAMES",
    "─────────────",
    "  parent [subcommand words] <mandatory>... [optional]...",
    "",
    "\x08",
    "VARIABLES",
    "─────────",
    "  Precedence (last wins): config variables, saved session, arguments.",
    "  Values captured by `set` are saved to ~/.yamlcmd_session.json and",
    "  reused by later invocations."]

/-- The manual of the program, with the commands of a document. -/
def toolManual (commands : List ManualEntry) : Manual :=
  { path := toolName
    pieces := ["[OPTIONS]", "[COMMAND] [ARGS]..."]
    about := String.intercalate "\n" toolAbout
    options := toolOptions.map fun o => (o.label, o.about)
    commands }

end CommandBook
