import CommandBook.Command.Tree
import CommandBook.EnvFile
import CommandBook.Invocation
import CommandBook.Yaml.Document

/-!
# Command documents

Finding the document that an invocation uses, and reading its sections. The sections are checked in
a fixed order, so that a document with several faults always gives the same error.

## Main definitions

* `firstPath`, `findConfig` — the document to use
* `Config`, `Config.load` — its sections
-/

namespace CommandBook

/-- The first path of a row that leads to something, as a location. -/
def firstPath (files : FileTree) : List FilePath → Except Fault (Option Location)
  | [] => .ok none
  | p :: rest => do
    match ← files.find? p with
    | some (l, _) => return some l
    | none => firstPath files rest

/-- The names under which a document may lie in the current directory, in order of preference. -/
def localCandidates : List String :=
  ["yamlcmd.yaml", "yamlcmd.yml", ".yamlcmd.yaml", ".yamlcmd.yml", "config.yaml"]

/-- The place of the document that counts where the current directory has none. -/
def globalConfig (home : Location) : FilePath := .absolute (home ++ [".yamlcmd", "config.yaml"])

/-- The paths where a document may lie when none is named. -/
def searchedPaths (home : Location) : List FilePath :=
  localCandidates.map .ofString ++ [globalConfig home]

/-- The document to use: the one that is named, and no other, or else the first that is found. -/
def findConfig (files : FileTree) (named : Option String) : Except Fault (Option Location) :=
  match given? named with
  | some p => firstPath files [.ofString p]
  | none => firstPath files (searchedPaths files.home)

/-- The sections of a document. -/
structure Config where
  run : RunConfig
  commands : List (Leaf × Value)
  /-- The directory in which the document lies. -/
  directory : Location

namespace Config

/-- A document's fields. -/
structure Fields where
  document : Yaml.Document
  entries : List (Leaf × Yaml.Ref)

/-- A field. Down to some depth its parts are values on their own. -/
def Fields.get? (fields : Fields) (name : String) (depth : Nat) : Option Value :=
  (fields.entries.lookup (.str name)).map (fields.document.unfold depth)

/-- The depth of the commands: the texts in their sections are values on their own. -/
def commandDepth : Nat := 3

/-- The depth of a section of texts. -/
def sectionDepth : Nat := 1

/-- The content of a document; what is empty, zero or false counts as a mapping without entries. -/
def fieldsOf (path : String) (document : Yaml.Document) : Except ConfigError Fields :=
  let empty := .ok { document, entries := [] }
  match document.root with
  | .leaf l => if l.holds then .error (.rootNotMapping path) else empty
  | .part id =>
    match document.part id with
    | .map entries => .ok { document, entries }
    | .list [] | .set [] | .pairs [] => empty
    | _ => .error (.rootNotMapping path)

/-- The commands of a document. -/
def commandsOf (path : String) (fields : Fields) : Except ConfigError (List (Leaf × Value)) :=
  match fields.get? "commands" commandDepth with
  | none => .error (.commandsMissing path)
  | some (.map commands) => .ok commands
  | some _ => .error (.commandsNotMapping path)

/-- The environment of a document: that of the process, with the variables of the environment file
over it if the document names one. -/
def environmentOf (env : Environment) (files : FileTree) (directory : Location) (fields : Fields) :
    Except Fault Environment :=
  let named := (fields.get? "env_file" 0).getD .null
  if named.holds then
    match named with
    | .leaf (.str name) =>
      EnvFile.layeredOver env files ((FilePath.absolute directory).join (.ofString name))
    | _ => .error .environmentFileNotText
  else .ok env

/-- The entries of an optional section, keys as texts; an entry without a value is empty. -/
def sectionEntries : List (Leaf × Value) → OrderedMap String Value →
    Except Fault (OrderedMap String Value)
  | [], acc => .ok acc
  | (k, v) :: rest, acc => do
    let key ← k.text?
    sectionEntries rest (acc.insert key (if v.isNull then .str "" else v))

/-- An optional section; what is empty, zero or false counts as absent. -/
def sectionOf (path name : String) (fields : Fields) :
    Except Rejection (OrderedMap String Value) :=
  let content := (fields.get? name sectionDepth).getD .null
  if content.holds then
    match content with
    | .map entries => Rejection.ofFault (sectionEntries entries .empty)
    | _ => .error (.config (.sectionNotMapping name path))
  else .ok .empty

/-- The texts of a section's values. -/
def textsOf : List (String × Value) → Except Fault (List (String × String))
  | [] => .ok []
  | (k, v) :: rest => do
    let text ← v.text?
    return (k, text) :: (← textsOf rest)

/-- The time limit of a document: a positive number, or the standard one. -/
def timeoutOf (path : String) (fields : Fields) : Except ConfigError Seconds :=
  match (fields.get? "timeout" 0).getD .null with
  | .leaf .null => .ok .standard
  | .leaf (.int n) => if n ≤ 0 then .error (.timeoutNotNumber path) else .ok (.whole n)
  | .leaf (.real x) => if x ≤ 0 then .error (.timeoutNotNumber path) else .ok (.real x)
  | _ => .error (.timeoutNotNumber path)

/-- The sections of a document. Environment references are replaced in the values of variables,
not in those of headers. -/
def ofFields (path : String) (directory : Location) (env : Environment) (files : FileTree)
    (fields : Fields) : Except Rejection Config := do
  let commands ← (commandsOf path fields).mapError .config
  let env ← Rejection.ofFault (environmentOf env files directory fields)
  let defaults ← sectionOf path "variables" fields
  let headers ← sectionOf path "headers" fields
  let timeout ← (timeoutOf path fields).mapError .config
  let defaults ← Rejection.ofFault (textsOf defaults.entries)
  let headers ← Rejection.ofFault (textsOf headers.entries)
  return {
    run := {
      defaults := .ofList (defaults.map fun e => (e.1, .str (Template.expand env e.2)))
      headers := .ofList headers
      timeout }
    commands, directory }

/-- The content of a document's text. -/
def contentOf (path text : String) : Except Rejection Yaml.Document :=
  match Yaml.Document.ofText text.toList with
  | .ok v => .ok v
  | .error (.problem p) => .error (.config (.invalidYaml path p.message))
  | .error (.fault f) => .error (.fault f)

/-- Reads the document at a path. -/
def load (env : Environment) (files : FileTree) (path : Option FilePath) :
    Except Rejection Config :=
  match path with
  | none => .error (.config (.noFile ((searchedPaths files.home).map FilePath.toString)))
  | some p => do
    let shown := p.toString
    match ← Rejection.ofFault (files.find? p) with
    | some (l, .file content) =>
      let text ← Rejection.ofFault (FileTree.decode content)
      let content ← contentOf shown text
      let fields ← (fieldsOf shown content).mapError .config
      ofFields shown l.dropLast env files fields
    | _ => throw (.config (.fileMissing shown))

end Config

end CommandBook
