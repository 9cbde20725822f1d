import CommandBook.Shell.Channel
import CommandBook.Shell.Signals
import CommandBook.Template.Environment

/-!
# Processes

The state of a shell and of all that runs beside it. A shell runs some of its commands in processes
of their own: each begins as a copy of the state of its parent, and nothing of what it changes there
comes back, whereas files and open channels are shared.

## Main definitions

* `Process` — the state of one shell
* `System` — a process and what it shares with others
* `Departure` — how a command leaves its place in the script without having ended
* `Running` — a computation of a shell
-/

namespace CommandBook.Shell

/-- A variable; one without a value is only marked. -/
structure Variable where
  value : Option Bytes
  exported : Bool := false
  readOnly : Bool := false
  /-- The marks outlive the value. -/
  lasting : Bool := false

/-- What was there before a function made it its own. -/
inductive Hidden where
  | parameter (name : String) (old : Option Variable)
  | options (old : Bytes)

/-- What is to be skipped before commands are run again. -/
inductive Skip where
  | nothing
  /-- The rest of some loops. -/
  | loops (count : Nat)
  /-- The rest of one turn of a loop, and all of the loops inside it. -/
  | turn (count : Nat)
  /-- The rest of a function or file, with a status of its own. -/
  | function
  /-- The rest of a function or file. -/
  | rest
deriving DecidableEq

/-- How a process has ended. -/
inductive Ending where
  | exited (status : Nat)
  | killed (signal : Nat)
deriving DecidableEq

namespace Ending

/-- The status by which a shell knows the end of a process. -/
def status : Ending → Nat
  | .exited n => n
  | .killed s => s + 128

/-- What is said about the end of a process that was killed. -/
def remark? : Ending → Option String
  | .exited _ => none
  | .killed s => if s == 2 || s == 13 then none else some (Signal.description s)

end Ending

/-- Commands that run without being waited for. -/
structure Job where
  number : Nat
  /-- The numbers of its processes, the last of which stands for the job. -/
  processes : List Nat
  ending : Option Ending := none
  /-- Its end has been waited for. -/
  waited : Bool := false

namespace Job

def process (j : Job) : Nat := j.processes.getLast?.getD 0

end Job

/-- A program whose path is known: the number of its directory in the search path, and whether that
directory may be another one by now. -/
structure KnownProgram where
  name : Bytes
  path : Bytes
  place : Nat
  stale : Bool := false

/-- The state of a shell. -/
structure Process where
  vars : OrderedMap String Variable := .empty
  /-- What functions and commands hide, the innermost first. -/
  hidden : List (List Hidden) := []
  positional : List Bytes := []
  /-- The next argument that `getopts` looks at, and the place in the one before it. -/
  optionIndex : Nat := 1
  optionOffset : Option Nat := none
  functions : List (String × Command) := []
  known : List KnownProgram := []
  aliases : List (Bytes × Bytes) := []
  /-- Aliases that are being read, so that they stand for nothing. -/
  heldAliases : List Bytes := []
  documents : Array Document := #[]
  status : Nat := 0
  /-- The status of the last substituted command of the present one. -/
  substituted : Nat := 0
  /-- The status before a trap or the end. -/
  savedStatus : Option Nat := none
  line : Nat := 1
  /-- The line up to which the script has been read. -/
  readLine : Nat := 1
  /-- The command in whose name the shell reports. -/
  reporter : Option Bytes := none
  loops : Nat := 0
  /-- The functions around the present command. -/
  calls : Nat := 0
  skip : Skip := .nothing
  options : Bytes := []
  traps : List (Nat × Bytes) := []
  /-- Signals that have been caught and not yet been answered. -/
  caught : List Nat := []
  mask : Nat := 0o022
  /-- The limits on resources that have been changed, the lower and the upper one. -/
  limits : List (Char × Option Nat × Option Nat) := []
  /-- The directory as the shell names it, and as it is. -/
  directory : Bytes
  current : Location
  channels : Channels
  jobs : List Job := []
  lastJob : Option Nat := none
  /-- What a command of the shell has written and not yet passed on. -/
  output : Bytes := []
  /-- This is the shell that runs the whole script. -/
  isRoot : Bool := true
  /-- This is a part of the script in parentheses, or another one that has a state of its own. -/
  isNested : Bool := false

/-- What leads a channel elsewhere, once its words have been expanded. -/
inductive Opening where
  | file (channel : Nat) (access : Access) (path : Bytes)
  | copy (channel : Nat) (of : Option Nat)
  | document (channel : Nat) (number : Nat)

/-- A process that has been started and has not come to run. -/
structure Waiting where
  number : Nat
  state : Process
  openings : List Opening := []
  /-- Its failure is looked at. -/
  tested : Bool := false
  body : Command

/-- A process and what it shares with others. -/
structure System where
  world : World
  process : Process
  /-- Started processes that have not come to run, the oldest first. -/
  waiting : List Waiting := []
  /-- Processes that have ended and have not been asked about. -/
  ended : List (Nat × Ending) := []
  /-- Processes that do not end. -/
  endless : List Nat := []
  nextProcess : Nat
  /-- Signals for the shell that runs the whole script. -/
  rootSignals : List Nat := []

/-- How a command leaves its place in the script. -/
inductive Departure where
  /-- Something is wrong with the command. -/
  | error
  /-- The shell is to end. -/
  | leave
  /-- The shell ends because a command has failed or the last one has been run. -/
  | ended
  | killed (signal : Nat)
  /-- The bound on the depth of calls is used up. -/
  | exhausted

/-- A computation of a shell. -/
abbrev Running := ExceptT Departure (StateM System)

/-- The number of the shell's process. -/
def processNumber : Nat := 4242

/-- The name under which the shell reports. -/
def shellName : Bytes := "/bin/sh".toList

/-- The bound on the number of functions around a command. -/
def callLimit : Nat := 1000

namespace Process

/-- The state of a process that a shell starts. Nothing is to be done about signals in it, but those
that are ignored remain so. -/
def child (p : Process) : Process :=
  { p with
    traps := p.traps.filter (·.2.isEmpty), caught := [], jobs := [], isRoot := false
    isNested := true, output := [], readLine := 1 }

/-- Whether something is to be done about signals or at the end. -/
def hasTraps (p : Process) : Bool := p.traps.any fun t => !t.2.isEmpty

end Process

namespace Running

/-- A computation together with the departure that ends it. -/
def caught {α : Type} (x : Running α) : Running (Except Departure α) :=
  ExceptT.mk do
    let r ← x.run
    return .ok r

/-- A computation with another one behind it, which also runs if the first one departs. -/
def thenAlways {α : Type} (x : Running α) (y : Running Unit) : Running α := do
  let r ← caught x
  y
  MonadExcept.ofExcept r

/-- Repeats a step as long as it asks for more. A step that never stops asking exhausts the bound. -/
def iterate {α : Type} (step : α → Running (α × Bool)) : Nat → α → Running α
  | 0, _ => throw .exhausted
  | n + 1, a => do
    let (a, more) ← step a
    if more then iterate step n a else return a

/-- The bound on the number of turns of a loop. -/
def turnLimit : Nat := 2000000

def process : Running Process := return (← get).process

def modifyProcess (f : Process → Process) : Running Unit :=
  modify fun s => { s with process := f s.process }

def setStatus (n : Nat) : Running Unit := modifyProcess ({ · with status := n })

def hasOption (c : Char) : Running Bool := do
  return (← process).options.contains c

/-! ## Channels -/

/-- The files in the eyes of the process. -/
def files : Running FileTree := do
  let s ← get
  return { s.world.files with current := s.process.current }

/-- Writes to a channel among others. Who writes where nobody reads is killed, unless that is
ignored. -/
def writeTo (cs : Channels) (channel : Nat) (text : Bytes) :
    Running (Except ChannelFault Unit) := do
  if text.isEmpty then return .ok ()
  let s ← get
  match s.world.write cs channel text with
  | .ok world =>
    modify ({ · with world })
    return .ok ()
  | .error .brokenPipe =>
    if s.process.traps.lookup 13 == some [] then return .error .brokenPipe
    else throw (.killed 13)
  | .error f => return .error f

def write (channel : Nat) (text : Bytes) : Running (Except ChannelFault Unit) := do
  writeTo (← process).channels channel text

/-- Writes to standard error, where that leads anywhere. -/
def note (text : Bytes) : Running Unit := do
  let _ ← write 2 text

/-- Keeps text for standard output until the present command of the shell has ended. -/
def put (text : Bytes) : Running Unit :=
  modifyProcess fun p => { p with output := p.output ++ text }

/-- Passes on the output that has been kept. -/
def flush : Running (Except ChannelFault Unit) := do
  let text := (← process).output
  modifyProcess ({ · with output := [] })
  write 1 text

/-- The next byte that a channel brings. -/
def readByte (channel : Nat) : Running (Except ChannelFault (Option Char)) := do
  let s ← get
  match s.world.readByte s.process.channels channel with
  | .ok (c, world) =>
    modify ({ · with world })
    return .ok c
  | .error f => return .error f

/-- All that a channel still brings. -/
def readAll (channel : Nat) : Running (Except ChannelFault Bytes) := do
  let s ← get
  match s.world.readAll s.process.channels channel with
  | .ok (text, world) =>
    modify ({ · with world })
    return .ok text
  | .error f => return .error f

def setChannel (channel : Nat) (file : Option Nat) : Running Unit :=
  modifyProcess fun p => { p with channels := p.channels.set channel file }

/-- Makes a pipe: the numbers of its two ends, and of the pipe itself. -/
def newPipe (bound : Option Nat) (content : ByteArray) : Running (Nat × Nat × Nat) := do
  let (numbers, world) := (← get).world.addPipe bound content
  modify ({ · with world })
  return numbers

/-! ## Reports -/

/-- A report of the shell. -/
def complain (text : Bytes) : Running Unit := do
  let p ← process
  let place := shellName ++ ": ".toList ++ (toString p.line).toList ++ ": ".toList
  let name := match p.reporter with
    | some name => name ++ ": ".toList
    | none => []
  note (place ++ name ++ text ++ ['\n'])

/-- A report that ends the command. -/
def fatal {α : Type} (text : Bytes) : Running α := do
  setStatus 2
  complain text
  let _ ← flush
  throw .error

def illegalNumber {α : Type} (text : Bytes) : Running α :=
  fatal ("Illegal number: ".toList ++ text)

/-- The count that an argument writes. -/
def count (text : Bytes) : Running Nat :=
  match Number.count? text with
  | some n => return n
  | none => illegalNumber text

/-! ## Variables -/

def named? (name : String) : Running (Option Variable) := do
  return (← process).vars.get? name

def valueOf? (name : String) : Running (Option Bytes) := do
  return (← named? name).bind Variable.value

/-- What follows from a new value of a variable: `getopts` starts anew, and known paths are
forgotten. -/
def adjust (name : String) (value : Bytes) : Running Unit := do
  if name == "OPTIND" then
    let n ← count value
    modifyProcess ({ · with optionIndex := if n = 0 then 1 else n, optionOffset := none })
  else if name == "PATH" then modifyProcess ({ · with known := [] })

/-- Gives a variable a value, or takes it away, and adds marks. -/
def store (name : String) (value : Option Bytes) (exported readOnly lasting : Bool)
    (adjusts : Bool) : Running Unit := do
  let old ← named? name
  let exported := exported || (← hasOption 'a')
  if old.any Variable.readOnly then fatal (name ++ ": is read only").toList
  if old.isSome && adjusts then adjust name (value.getD [])
  let bare := value.isNone && !exported && !readOnly && !lasting
  if bare && !old.any Variable.lasting then
    modifyProcess fun p => { p with
      vars := .ofList (p.vars.entries.filter fun e => e.1 != name) }
  else
    let v : Variable := {
      value
      exported := exported || old.any Variable.exported
      readOnly := readOnly || old.any Variable.readOnly
      lasting := lasting || old.any Variable.lasting }
    modifyProcess fun p => { p with vars := p.vars.insert name v }

/-- The name of a variable that a text must be, as far as the first equals sign. -/
def variableName (text : Bytes) : Running String := do
  let name := text.takeWhile (· != '=')
  if !isName name then fatal (name ++ ": bad variable name".toList)
  return Bytes.toName name

/-- Assigns a value to a variable. -/
def assign (name : Bytes) (value : Bytes) : Running Unit := do
  store (← variableName name) (some value) false false false true

def unassign (name : Bytes) : Running Unit := do
  store (← variableName name) none false false false true

/-- Gives a variable a value without the consequences. -/
def assignQuietly (name : String) (value : Bytes) : Running Unit :=
  store name (some value) false false false false

def hide (h : Hidden) : Running Unit :=
  modifyProcess fun p => { p with
    hidden := match p.hidden with
      | top :: rest => (h :: top) :: rest
      | [] => [] }

/-- Makes a variable one's own, with a new value where one is given. -/
def makeOwn (name : Bytes) (value : Option Bytes) (exported : Bool) : Running Unit := do
  if name == ['-'] && value.isNone then hide (.options (← process).options)
  else
    let name ← if value.isSome then pure (Bytes.toName name) else variableName name
    match ← named? name with
    | none =>
      store name value exported false true true
      hide (.parameter name none)
    | some old =>
      modifyProcess fun p => { p with
        vars := p.vars.insert name { old with lasting := true } }
      if value.isSome then store name value exported false false true
      hide (.parameter name (some old))

def restore : Hidden → Running Unit
  | .options old => modifyProcess ({ · with options := old })
  | .parameter name none => do
    let _ ← variableName name.toList
    modifyProcess fun p => { p with
      vars := .ofList (p.vars.entries.filter fun e => e.1 != name) }
  | .parameter name (some old) => do
    adjust name (old.value.getD [])
    modifyProcess fun p => { p with vars := p.vars.insert name old }

/-- Puts back what is hidden, until so many rows of hidden things are left. -/
def restoreTo : Nat → List (List Hidden) → Running Unit
  | _, [] => return
  | keep, top :: rest => do
    if rest.length + 1 ≤ keep then return
    for h in top do restore h
    modifyProcess ({ · with hidden := rest })
    restoreTo keep rest

/-! ## Signals -/

/-- A signal reaches the process. -/
def receive (signal : Nat) : Running Unit := do
  if signal = 0 then return
  let traps := (← process).traps
  match if Signal.isFinal signal then none else traps.lookup signal with
  | some [] => return
  | some _ =>
    modifyProcess fun p => { p with
      caught := if p.caught.contains signal then p.caught else signal :: p.caught }
  | none => if Signal.ends signal then throw (.killed signal)

/-- The signals that others have sent to the shell reach it. -/
def receiveAll : Running Unit := do
  let s ← get
  if s.process.isRoot then
    modify ({ · with rootSignals := [] })
    for signal in s.rootSignals do receive signal

end Running

end CommandBook.Shell
