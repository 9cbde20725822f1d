import CommandBook.Shell.Execution
import CommandBook.Shell.Outcome

/-!
# The shell

A shell is started with a script, an environment and files. What it and its processes write to
standard output and standard error is collected, and so are the files that they leave changed.

## Main definitions

* `System.start` — the state at the start of a script
* `interpret` — the outcome of a script
-/

namespace CommandBook.Shell

open Running

namespace System

/-- The variables at the start of a script: those of the environment, and the shell's own. -/
def startVars (env : Environment) (files : FileTree) : OrderedMap String Variable :=
  let own (name value : String) : String × Variable :=
    (name, { value := some value.toList, lasting := true })
  let unset (name : String) : String × Variable := (name, { value := none, lasting := true })
  let first : OrderedMap String Variable := .ofList
    [own "PATH" (String.ofList Lookup.standardPath), own "PS1" "# ", own "PS2" "> ", own "PS4" "+ ",
      unset "MAIL", unset "MAILPATH", unset "TERM", unset "HISTSIZE"]
  let put (vars : OrderedMap String Variable) (name : String) (value : Bytes) (exported : Bool) :
      OrderedMap String Variable :=
    let old := vars.get? name
    vars.insert name {
      value := some value
      exported := exported || old.any Variable.exported
      lasting := old.any Variable.lasting }
  let inherited := env.entries.foldl
    (fun vars (name, value) =>
      if isName name.toList then put vars name (Bytes.ofString value) true else vars) first
  let directory := match (inherited.get? "PWD").bind Variable.value with
    | some path =>
      if path.head? == some '/' && (Place.directoryAt files path).toOption == some files.current then
        path
      else Place.pathOf files.current
    | none => Place.pathOf files.current
  let vars := put inherited "IFS" defaultSeparators false
  let vars := put vars "OPTIND" ['1'] false
  let vars := put vars "PPID" ['1'] false
  put vars "PWD" directory true

/-- The state at the start of a script: no input, and two collected outputs. -/
def start (env : Environment) (files : FileTree) : System :=
  let world : World := { files }
  let (input, world) := world.addFile { goal := .device .null, reads := true }
  let ((_, output, _), world) := world.addPipe none .empty
  let ((_, errors, _), world) := world.addPipe none .empty
  let vars := startVars env files
  { world
    process :=
      { vars
        directory := ((vars.get? "PWD").bind Variable.value).getD []
        current := files.current
        channels := [(0, input), (1, output), (2, errors)] }
    nextProcess := processNumber + 1 }

/-- The files that are there with another content than before. -/
def written (s : System) (before : FileTree) : List (Location × ByteArray) :=
  s.world.files.entries.entries.filterMap fun (l, e) =>
    match e with
    | .directory => none
    | .file content =>
      match before.get? l with
      | some (.file old) => if old.data == content.data then none else some (l, content)
      | _ => some (l, content)

end System

/-- The bound on the depth of calls of any script that is meant to end. -/
def depthLimit : Nat := 1000000

/-- A shell that reads commands one by one goes on after an error, and ends with its input. -/
def goOn (r : Except Departure Unit) : Running Unit := do
  if let .error .error := r then
    if ← hasOption 'i' then
      note (((← valueOf? "PS1").getD []) ++ ['\n'])

/-- Runs a whole script, and then whatever it has started; how it has ended. -/
def runScript (text : Bytes) : Running Ending := do
  let r ← caught do
    let _ ← Execution.runText depthLimit { last := true } text
  goOn r
  let e ← caught (Execution.conclude depthLimit r)
  modifyProcess ({ · with isRoot := false })
  Execution.runWaiting depthLimit
  if (← get).endless.isEmpty then MonadExcept.ofExcept e else throw .exhausted

/-- The outcome of a script. -/
def interpret (env : Environment) : Shell := fun files command => do
  if command.contains '\x00' then throw .nulInCommand
  let (r, s) := (runScript (Bytes.ofString command)).run (System.start env files)
  match r with
  | .error _ => throw .endless
  | .ok e =>
    let status : Int := match e with
      | .exited n => n
      | .killed n => -(n : Int)
    let stdout ← FileTree.decode (s.world.pipeContent 0)
    let stderr ← FileTree.decode (s.world.pipeContent 1)
    return { status, stdout, stderr, written := s.written files }

end CommandBook.Shell
