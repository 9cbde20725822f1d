import CommandBook.Effect
import CommandBook.Json.Printer
import CommandBook.Json.Reader
import CommandBook.Template.Placeholder
import CommandBook.Value.Text

/-!
# Saved sessions

Variables that one invocation saves and later ones see: a file that holds one JSON object of texts.

## Main definitions

* `Session`, `Session.toJson` — the saved variables and their written form
* `SessionStore.load` — the saved variables, none when nothing was saved yet
* `SessionStore.save`, `SessionStore.saveScope` — the variables that later invocations see
-/

namespace CommandBook

/-- Saved variables. -/
abbrev Session := OrderedMap String String

/-- A session file that does not hold what it should. -/
inductive SessionError where
  | notJson (path : String) (problem : Json.ReadError)
  | notAnObject (path : String)
deriving DecidableEq, Repr

def SessionError.message : SessionError → String
  | .notJson path problem => s!"Session file {path} is not valid JSON: {problem.message}"
  | .notAnObject path => s!"Session file {path} must contain a JSON object"

/-- Why an invocation stopped before it had a status. -/
inductive Stop where
  | session (e : SessionError)
  | fault (f : Fault)
deriving DecidableEq, Repr

/-- The result of a step that can only stop by a fault. -/
def Stop.ofFault {α : Type} (r : Except Fault α) : Except Stop α := r.mapError .fault

@[simp] theorem Stop.ofFault_ok {α : Type} (a : α) : ofFault (.ok a) = .ok a := rfl

@[simp] theorem Stop.ofFault_error {α : Type} (f : Fault) :
    (ofFault (.error f) : Except Stop α) = .error (.fault f) := rfl

namespace Session

/-- The text that is saved for a value: nothing for null. -/
def textOf (v : Value) : String := if v.isNull then "" else v.text

/-- What is saved of a scope: all of it, as texts. -/
def ofScope (scope : Scope) : Session := scope.mapValues textOf

/-- What is saved of a scope, unless a number in it is too long to write. -/
def ofScope? (scope : Scope) : Except Fault Session :=
  if scope.entries.all fun e => e.2.fits then .ok (ofScope scope) else .error .numeralTooLong

/-- Saved variables as a layer of a scope. -/
def toScope (session : Session) : Scope := session.mapValues .str

/-- Saved variables as a JSON object. -/
def toJson (session : Session) : Json := .obj (session.entries.map fun e => (e.1, .str e.2))

/-- The text of a session file. -/
def fileText (session : Session) : String := session.toJson.renderIndented

/-- The variables that the members of a JSON object save. -/
def ofMembers (members : List (String × Json)) : Session :=
  .ofList (members.map fun m => (m.1, textOf (.ofJson m.2)))

end Session

/-- The place of a session file. -/
structure SessionStore where
  path : FilePath
deriving DecidableEq, Repr

namespace SessionStore

/-- The file that is used when none is named. -/
def defaultPath (home : Location) : FilePath := .absolute (home ++ [".yamlcmd_session.json"])

/-- The store at a path, or at the default place when none is named. -/
def ofPath (home : Location) (path : Option String) : SessionStore :=
  match path with
  | some p => if p = "" then ⟨defaultPath home⟩ else ⟨FilePath.ofString p⟩
  | none => ⟨defaultPath home⟩

/-- The variables that the text of a session file saves. -/
def parse (store : SessionStore) (text : String) : Except Stop Session :=
  match Json.read text with
  | .ok (.obj members) => .ok (Session.ofMembers members)
  | .ok _ => .error (.session (.notAnObject store.path.toString))
  | .error (.malformed cause offset) =>
    .error (.session (.notJson store.path.toString (.locate cause text.toList offset)))
  | .error .numeralTooLong => .error (.fault .numeralTooLong)

/-- The saved variables, none when nothing was saved yet. -/
def load (store : SessionStore) (files : FileTree) : Except Stop Session := do
  match ← Stop.ofFault (files.find? store.path) with
  | none => return .empty
  | some _ => store.parse (← Stop.ofFault (files.readText store.path))

/-- Saves variables in the place of the saved ones. Directories on the way to the file are made. -/
def save (store : SessionStore) (files : FileTree) (session : Session) : Step Stop Unit := do
  let (made, done) := files.ensureDirectory store.path.parent
  .emitAll (made.map .makeDirectory)
  .ofExcept (Stop.ofFault done)
  let files := made.foldl (fun t l => t.put l .directory) files
  -- the path is followed among the directories just made
  let place ← .ofExcept (Stop.ofFault (files.writable store.path))
  .emit (.write place session.fileText.toUTF8)

/-- Saves a scope; nothing is touched unless all of it has a text. -/
def saveScope (store : SessionStore) (files : FileTree) (scope : Scope) : Step Stop Unit := do
  let session ← .ofExcept (Stop.ofFault (Session.ofScope? scope))
  store.save files session

/-- The location to remove in order to forget the saved variables; none when there are none. -/
def clear (store : SessionStore) (files : FileTree) : Except Stop (Option Location) := do
  match ← Stop.ofFault (files.find? store.path) with
  | none => return none
  | some (_, .directory) => .error (.fault .isDirectory)
  | some (l, .file _) => return some l

end SessionStore

end CommandBook
