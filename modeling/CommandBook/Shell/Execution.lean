import CommandBook.Shell.Builtin.Directory
import CommandBook.Shell.Builtin.Jobs
import CommandBook.Shell.Builtin.Limits
import CommandBook.Shell.Builtin.Naming
import CommandBook.Shell.Builtin.Parameters
import CommandBook.Shell.Builtin.Texts
import CommandBook.Shell.Opening
import CommandBook.Shell.Program.Calls

/-!
# Execution

How commands are run. A command has a status; it may leave a request to skip what follows, and it may
depart, which ends its process or an enclosing command.

Processes run one after another: a child runs when its parent waits for it, and what runs in the
background waits until somebody waits for anything.

## Main definitions

* `execute` — runs a command
* `runText` — runs a text as a script
* `conclude` — what is done at the end of a process

## Termination

A script need not end. Every function of the group takes a bound on the depth of its calls, and loops
have a bound on the number of their turns.
-/

namespace CommandBook.Shell

open Running

/-- Where a command stands. -/
structure Situation where
  /-- The process ends with it. -/
  last : Bool := false
  /-- Its failure is looked at, and so ends nothing. -/
  tested : Bool := false

/-- A command that is being called, while its words are expanded one after another. -/
structure Calling where
  words : List Word
  args : List Bytes
  /-- The number of the argument that names the command. -/
  start : Nat := 0
  builtin : Option String := none
  /-- The first name was that of a special command. -/
  special : Option Bool := none
  noFunctions : Bool := false
  path : Option Bytes := none
  /-- Assignments only hold for the command. -/
  own : Bool := false

namespace Calling

/-- Expands words until there is an argument of a number. -/
def fillTo (capture : Command → Running Bytes) (n k : Nat) :
    List Word → List Bytes → Running (List Word × List Bytes)
  | [], args => return ([], args)
  | w :: words, args => do
    if k < args.length then return (w :: words, args)
    let fs ← Expansion.fields capture n w
    fillTo capture n k words (args ++ fs)

def fill (capture : Command → Running Bytes) (n k : Nat) (c : Calling) : Running Calling := do
  let (words, args) ← fillTo capture n k c.words c.args
  return { c with words, args }

/-- Goes past the options of `command` to the command that it calls, if it calls one. -/
def pass (capture : Command → Running Bytes) (n : Nat) :
    Nat → (i : Nat) → Calling → Running (Calling × Bool)
  | 0, _, c => return (c, false)
  | m + 1, i, c => do
    let c ← c.fill capture n (i + 1)
    match c.args[i + 1]? with
    | none => return (c, false)
    | some ['-', '-'] => do
      let c ← c.fill capture n (i + 2)
      return ({ c with start := i + 2 }, (c.args[i + 2]?).isSome)
    | some ('-' :: o :: os) =>
      if (o :: os).all (· == 'p') then
        pass capture n m (i + 1) { c with path := some Lookup.standardPath }
      else if o == 'p' then return ({ c with path := some Lookup.standardPath }, false)
      else return (c, false)
    | some _ => return ({ c with start := i + 1 }, true)

/-- Finds out whether the command is one that the shell knows itself. -/
def resolve (capture : Command → Running Bytes) (n : Nat) : Nat → Calling → Running Calling
  | 0, c => return c
  | m + 1, c => do
    match c.args[c.start]? with
    | none => return c
    | some name =>
      let name' := Bytes.toName name
      let isFunction := !c.noFunctions && ((← process).functions.lookup name').isSome
      if isFunction || !Builtin.names.contains name' then
        return { c with builtin := none, own := true }
      let own := c.special.isSome || !Builtin.isSpecial name'
      let c := { c with
        builtin := some name', own, special := some (c.special.getD (Builtin.isSpecial name')) }
      if name' != "command" then return c
      let start := c.start
      let (c, more) ← pass capture n (n + 1) start c
      if more then resolve capture n m { c with noFunctions := true }
      else return { c with start }

/-- Expands the rest of the words. For a command that marks variables, words that assign stay
whole. -/
def expandRest (capture : Command → Running Bytes) (n : Nat) (assigns : Bool) (words : List Word) :
    Running (List Bytes) := do
  let fs ← words.mapM fun w => do
    if assigns && w.isAssignment then return [← Expansion.text capture n .assignment w]
    else Expansion.fields capture n w
  return fs.flatten

end Calling

/-- Whether something is to be skipped. -/
def skips : Running Bool := do return (← process).skip != .nothing

/-- What a loop is to skip once its commands have stopped: it takes its share of what is asked for. -/
def passLoop : Running Skip := do
  let p ← process
  match p.skip with
  | .loops k =>
    modifyProcess ({ · with skip := if k ≤ 1 then .nothing else .loops (k - 1) })
    return .loops k
  | .turn k =>
    modifyProcess ({ · with skip := if k ≤ 1 then .nothing else .turn (k - 1) })
    return if k ≤ 1 then .turn k else .loops k
  | skip => return skip

/-- Whether a loop goes on. -/
def Skip.continues : Skip → Bool
  | .nothing => true
  | .turn _ => true
  | _ => false

/-- Leaves loops, or turns of loops, as many as there are at most. -/
def leaveLoops (skip : Nat → Skip) (args : List Bytes) : Running Nat := do
  let n ← match args with
    | a :: _ => do
      let n ← count a
      if n = 0 then illegalNumber a
      pure n
    | [] => pure 1
  let loops := (← process).loops
  if 0 < loops then modifyProcess ({ · with skip := skip (min n loops) })
  return 0

/-- Ends the process, on demand with a status. -/
def leave (args : List Bytes) : Running Nat := do
  if let a :: _ := args then
    let n ← count a
    modifyProcess ({ · with savedStatus := some n })
  throw .leave

/-- Leaves a function or file, on demand with a status. -/
def return_ (args : List Bytes) : Running Nat := do
  match args with
  | a :: _ => do
    let n ← count a
    modifyProcess ({ · with skip := .function })
    return n
  | [] =>
    modifyProcess ({ · with skip := .rest })
    return (← process).status

/-- Runs the first program among paths: its status, and whether there was one. -/
def runFirst (lookup : Condition.Lookup) (files : FileTree) (name : Bytes) (args : List Bytes) :
    List Bytes → ChannelFault → Running (Nat × Bool)
  | [], fault => do
    complain (name ++ (": " ++ fault.messageFor "not found").toList)
    let missing := fault == .missing || fault == .notDirectory || fault == .nameTooLong
    return (if missing then 127 else 126, false)
  | path :: rest, fault =>
    match Place.find files path with
    | .ok (.program program) => do return (← Program.run program name lookup args, true)
    | .ok (.free _) => runFirst lookup files name args rest fault
    | .ok _ => runFirst lookup files name args rest .notPermitted
    | .error .missing => runFirst lookup files name args rest fault
    | .error .notDirectory => runFirst lookup files name args rest fault
    | .error f => runFirst lookup files name args rest f

/-- Runs a program in place of the shell: its status, and whether there was one. -/
def runProgram (name : Bytes) (args : List Bytes) (path : Option Bytes) (place : Nat) :
    Running (Nat × Bool) := do
  let paths ← if name.contains '/' then pure [name] else do
    let path ← match path with
      | some path => pure path
      | none => Lookup.searchPath
    pure ((Lookup.candidates path name).drop place)
  runFirst (← Lookup.facts) (← files) name args paths .missing

/-- Ends the process in which a program has run; of the shell nothing is left then. -/
def endProgram (status : Nat) (executed : Bool) : Running Unit := do
  if executed then modifyProcess ({ · with traps := [] })
  setStatus status
  throw .ended

/-- The file that a name means for reading commands from it. -/
def scriptPath (name : Bytes) : Running Bytes := do
  if name.contains '/' then return name
  let files ← files
  let isFile (path : Bytes) : Bool :=
    match Place.find? files path with
    | some (.file _) => true
    | _ => false
  match (Lookup.candidates (← Lookup.searchPath) name).find? isFile with
  | some path => return path
  | none => fatal (name ++ ": not found".toList)

/-- The text of a file of commands. -/
def scriptText (path : Bytes) : Running Bytes := do
  let s ← get
  match s.world.openFile s.process.channels s.process.current .input false path with
  | .error f => fatal ("cannot open ".toList ++ path ++ (": " ++ f.messageFor "No such file").toList)
  | .ok (f, world) =>
    match world.readAll [(0, f)] 0 with
    | .ok (text, world) =>
      modify ({ · with world })
      return text.filter (·.toNat ≠ 0)
    | .error _ => return []

/-- The text of a script that is left. -/
def Source.rest (s : Source) : Bytes := (s.passages.getLast?.map Passage.rest).getD []

/-- Shows what has been read of a script, where that is asked for. -/
def showRead (text : Bytes) : Running Unit := do
  if ← hasOption 'v' then note text

/-- The commands one behind another that a command consists of. -/
def Command.inSequence : Command → List Command → List Command
  | .sequence first second, rest => first.inSequence (second :: rest)
  | c, rest => c :: rest

/-- A new process that runs beside the others; its number. -/
def start (channels : Channels) (openings : List Opening) (tested : Bool) (body : Command) :
    Running Nat := do
  let s ← get
  let number := s.nextProcess
  let w : Waiting :=
    { number, state := { s.process.child with channels }, openings, tested, body }
  set { s with nextProcess := number + 1, waiting := s.waiting ++ [w] }
  return number

/-- A channel that brings nothing. -/
def emptyInput : Running Nat := do
  let (n, world) := (← get).world.addFile { goal := .device .null, reads := true }
  modify ({ · with world })
  return n

/-- Looks for the command at the start of a stage of a pipeline, so that it is known later. -/
def lookAhead : Command → Running Unit
  | .simple _ _ (w :: _) _ => do
    if let some name := Word.plain? w then
      if isName name then
        let _ ← Lookup.find name {}
  | _ => return

/-- The state after a departure: the status that was put aside counts if the process was told to
end. -/
def settleStatus (told : Bool) : Running Unit := do
  let p ← process
  if let some status := p.savedStatus then
    if told || p.skip == .rest then setStatus status
  modifyProcess ({ · with savedStatus := none, skip := .nothing, loops := 0 })

def Departure.isTold : Departure → Bool
  | .leave => true
  | _ => false

namespace Execution

/-- The bound on what a stage of a pipeline writes while nobody reads. -/
def pipeLimit : Nat := 4000000

/-- The channels of a stage of a pipeline, and what the next one begins with, if there are more. -/
def connect (channels : Channels) (more : Bool) : Running (Channels × Channels) := do
  if !more then return (channels, channels)
  let (reader, writer, _) ← newPipe (some pipeLimit) .empty
  return (channels.set 1 (some writer), (← process).channels.set 0 (some reader))

mutual

/-- The output of a command. -/
def capture : Nat → Command → Running Bytes
  | 0, _ => throw .exhausted
  | n + 1, body => do
    if body.isNothing then return []
    let (_, writer, pipe) ← newPipe none .empty
    let _ ← Jobs.claim
    let e ← inChild n do
      setChannel 1 (some writer)
      let _ ← execute n { last := true } body
    runWaiting n
    modifyProcess ({ · with substituted := e.status })
    return Bytes.ofByteArray ((← get).world.pipeContent pipe)

/-- Runs a part of the script in a process of its own, and waits for it. -/
def inChild : Nat → Running Unit → Running Ending
  | 0, _ => throw .exhausted
  | n + 1, body => do
    runWaiting n
    let outer ← process
    modify fun s => { s with nextProcess := s.nextProcess + 1, process := outer.child }
    let r ← caught body
    let e ← conclude n r
    modifyProcess fun _ => outer
    Jobs.settle
    receive 17
    receiveAll
    if let some remark := e.remark? then note (remark ++ "\n").toList
    return e

/-- Runs the processes that have been started and not come to run. -/
def runWaiting : Nat → Running Unit
  | 0 => throw .exhausted
  | n + 1 => do
    let step (_ : Unit) : Running (Unit × Bool) := do
      let s ← get
      match s.waiting with
      | [] => return ((), false)
      | w :: rest =>
        set { s with waiting := [], process := w.state }
        let r ← caught do
          w.openings.forM (Opening.establish (capture n) n)
          let _ ← execute n { last := true, tested := w.tested } w.body
        let e ← caught (conclude n r)
        modify fun after => { after with process := s.process, waiting := after.waiting ++ rest }
        match e with
        | .ok e => modify fun s => { s with ended := (w.number, e) :: s.ended }
        | .error _ => modify fun s => { s with endless := w.number :: s.endless }
        receive 17
        receiveAll
        return ((), true)
    iterate step turnLimit ()

/-- What is done at the end of a process, and how it has ended. -/
def conclude : Nat → Except Departure Unit → Running Ending
  | 0, _ => throw .exhausted
  | n + 1, r => do
    match r with
    | .error (.killed s) => return .killed s
    | .error .exhausted => throw .exhausted
    | .error d => settleStatus d.isTold
    | .ok () => pure ()
    let p ← process
    modifyProcess ({ · with savedStatus := some p.status })
    if let some action := p.traps.lookup 0 then
      modifyProcess ({ · with
        traps := p.traps.filter fun e => e.1 != 0, skip := .nothing })
      match ← caught (runText n {} action) with
      | .error (.killed s) => return .killed s
      | .error .exhausted => throw .exhausted
      | .error d => settleStatus d.isTold
      | .ok _ => settleStatus true
    return .exited ((← process).status % 256)

/-- Does what is to be done about signals that have come. -/
def runTraps : Nat → Running Unit
  | 0 => throw .exhausted
  | n + 1 => do
    let p ← process
    if p.caught.isEmpty then return
    let status := p.savedStatus.getD p.status
    modifyProcess ({ · with savedStatus := some status })
    for signal in List.range Signal.bound do
      let p ← process
      if p.caught.contains signal && p.skip == .nothing then
        modifyProcess ({ · with caught := p.caught.filter (· != signal) })
        if let some action := p.traps.lookup signal then
          let _ ← runText n {} action
          if (← process).skip != .function then setStatus status
    modifyProcess ({ · with savedStatus := p.savedStatus })

/-- Runs a text as a script; its status is that of the last command. -/
def runText : Nat → Situation → Bytes → Running Nat
  | 0, _, _ => throw .exhausted
  | n + 1, s, text => do
    let p ← process
    thenAlways (runSource n s false (.ofBytes text p.documents p.heldAliases))
      (modifyProcess ({ · with readLine := p.readLine, heldAliases := p.heldAliases }))

/-- Runs a script command by command. -/
def runSource : Nat → Situation → Bool → Source → Running Nat
  | 0, _, _, _ => throw .exhausted
  | n + 1, s, shows, source => do
    let step : Nat × Source → Running ((Nat × Source) × Bool) := fun (status, source) => do
      let p ← process
      let source := { source with aliases := p.aliases, documents := p.documents }
      match source.nextCommand with
      | .error e =>
        let lines := Bytes.splitAt '\n' source.rest
        let count := min (lines.length - 1) (e.line - source.line + 1)
        if shows then showRead ((lines.take count).flatMap (· ++ ['\n']))
        modifyProcess ({ · with line := e.line, readLine := e.line })
        fatal ("Syntax error: " ++ e.flaw.message).toList
      | .ok (c?, after) =>
        if shows then showRead (source.rest.take (source.rest.length - after.rest.length))
        match c? with
        | none => return ((status, after), false)
        | some c =>
          modifyProcess ({ · with
            documents := after.documents, readLine := after.line, heldAliases := after.inUse })
          let result ← execute n { s with last := s.last && after.isDone } c
          return ((if c.isNothing then status else result, after), !(← skips))
    let (status, _) ← iterate step turnLimit (0, source)
    return status

/-- Runs a command; its status. -/
def execute : Nat → Situation → Command → Running Nat
  | 0, _, _ => throw .exhausted
  | n + 1, s, c => do
    let (status, checks) ← if c.isNothing || (← hasOption 'n') then pure (0, false) else do
      runTraps n
      perform n s c
    runTraps n
    if checks && status ≠ 0 && !s.tested && (← hasOption 'e') then throw .ended
    if s.last then throw .ended
    return status

/-- Runs a command: its status, and whether its failure may end the shell. -/
def perform : Nat → Situation → Command → Running (Nat × Bool)
  | 0, _, _ => throw .exhausted
  | n + 1, s, c => do
    let inner : Situation := { s with last := false }
    let passed (checks : Bool) (status : Nat) : Running (Nat × Bool) := do
      setStatus status
      return (status, checks)
    match c with
    | .nothing => return (0, false)
    | .simple line assignments words redirections => do
      passed true (← simple n s line assignments words redirections)
    | .pipeline background stages => do passed true (← pipeline n s background stages)
    | .background line body redirections => do
      if let some line := line then modifyProcess ({ · with line })
      let openings ← Opening.ofRedirections (capture n) n redirections
      let number ← Jobs.claim
      let channels := (← process).channels.set 0 (some (← emptyInput))
      let process ← start channels openings false body
      Jobs.add { number, processes := [process] }
      passed true 0
    | .subshell line body redirections => do passed true (← subshell n s line body redirections)
    -- a command whose status is tested does not end the shell by failing
    | .negated body => do
      let status ← execute n { tested := true } body
      if ← skips then passed false status else passed false (if status = 0 then 1 else 0)
    | .both left right => do
      let status ← execute n { tested := true } left
      if status ≠ 0 || (← skips) then return (status, false)
      passed false (← execute n s right)
    | .either left right => do
      let status ← execute n { tested := true } left
      if status = 0 || (← skips) then return (status, false)
      passed false (← execute n s right)
    | .sequence first second => sequence n s (first.inSequence [second])
    | .redirected line body redirections => do
      modifyProcess ({ · with line })
      let openings ← Opening.ofRedirections (capture n) n redirections
      let before := (← process).channels
      let putBack := Opening.putBack before openings
      let r ← thenAlways (do
        match ← caught (openings.forM (Opening.establish (capture n) n)) with
        -- a redirection that fails keeps the body from running
        | .ok () => return (← execute n inner body, false)
        | .error .error => return (2, true)
        | .error d => throw d) putBack
      passed r.2 r.1
    | .choice condition thenPart elsePart => do
      let status ← execute n { tested := true } condition
      if ← skips then return (status, false)
      if status = 0 then passed false (← execute n s thenPart)
      else if elsePart.isNothing then passed false 0
      else passed false (← execute n s elsePart)
    | .loop untilTrue condition body => do
      modifyProcess fun p => { p with loops := p.loops + 1 }
      let step (status : Nat) : Running (Nat × Bool) := do
        let found ← execute n { tested := true } condition
        let skip ← passLoop
        if skip != .nothing then
          return (if skip == .function then found else status, skip.continues)
        else if (found == 0) == untilTrue then return (status, false)
        else
          let status ← execute n inner body
          return (status, (← passLoop).continues)
      let status ← iterate step turnLimit 0
      modifyProcess fun p => { p with loops := p.loops - 1 }
      passed false status
    | .each line name words body => do
      modifyProcess ({ · with line })
      let values ← Calling.expandRest (capture n) n false words
      modifyProcess fun p => { p with loops := p.loops + 1 }
      let step : Nat × List Bytes → Running ((Nat × List Bytes) × Bool) := fun (status, values) => do
        match values with
        | [] => return ((status, []), false)
        | v :: rest =>
          assign name v
          let status ← execute n inner body
          return ((status, rest), (← passLoop).continues)
      -- a turn for each value, and one that finds none left
      let (status, _) ← iterate step (values.length + 1) (0, values)
      modifyProcess fun p => { p with loops := p.loops - 1 }
      passed false status
    | .select line subject arms => do
      modifyProcess ({ · with line })
      let text ← Expansion.text (capture n) n .whole subject
      match ← choose n text arms with
      | some body => if body.isNothing then passed false 0 else passed false (← execute n s body)
      | none => passed false 0
    | .define _ name body => do
      modifyProcess fun p => { p with
        functions := (Bytes.toName name, body) ::
          p.functions.filter fun e => e.1 != Bytes.toName name
        known := p.known.filter fun k => k.name != name }
      passed false 0

/-- Runs commands one behind another. -/
def sequence : Nat → Situation → List Command → Running (Nat × Bool)
  | 0, _, _ => throw .exhausted
  | n + 1, s, cs => do
    let step : Nat × List Command → Running ((Nat × List Command) × Bool) := fun (status, cs) => do
      match cs with
      | [] => return ((status, []), false)
      | [c] =>
        let status ← execute n s c
        setStatus status
        return ((status, []), false)
      | c :: rest =>
        let status ← execute n { s with last := false } c
        return ((status, rest), !(← skips))
    let (status, _) ← iterate step (cs.length + 1) (0, cs)
    return (status, false)

/-- The commands of the first arm that has a pattern for a text. -/
def choose : Nat → Bytes → List (List Word × Command) → Running (Option Command)
  | 0, _, _ => throw .exhausted
  | _ + 1, _, [] => return none
  | n + 1, text, (patterns, body) :: rest => do
    let found ← patterns.foldlM (fun found w => do
      if found then return true
      let p ← Expansion.pattern (capture n) n w
      return (Pattern.ofBytes (Bytes.untilNul p)).selects text) false
    if found then return some body else choose n text rest

/-- Runs commands in a process of their own, unless the present one ends with them. -/
def subshell : Nat → Situation → Nat → Command → List Redirection → Running Nat
  | 0, _, _, _, _ => throw .exhausted
  | n + 1, s, line, body, redirections => do
    modifyProcess ({ · with line })
    let openings ← Opening.ofRedirections (capture n) n redirections
    let run : Running Unit := do
      openings.forM (Opening.establish (capture n) n)
      let _ ← execute n { s with last := true } body
    if s.last && !(← process).hasTraps then
      modifyProcess ({ · with isNested := true, readLine := 1 })
      run
      throw .ended
    let _ ← Jobs.claim
    return (← inChild n run).status

/-- Runs the stages of a pipeline, each in a process of its own; the status is that of the last one. -/
def pipeline : Nat → Situation → Bool → List Command → Running Nat
  | 0, _, _, _ => throw .exhausted
  | n + 1, s, background, stages => do
    let number ← Jobs.claim
    let channels := (← process).channels
    if background then
      let first := channels.set 0 (some (← emptyInput))
      let (_, processes) ← stages.zipIdx.foldlM (fun (channels, processes) (c, i) => do
        lookAhead c
        let (here, next) ← connect channels (i + 1 < stages.length)
        let process ← start here [] s.tested c
        return (next, processes ++ [process])) (first, [])
      Jobs.add { number, processes }
      return 0
    else
      let (_, status) ← stages.zipIdx.foldlM (fun (inner, _) (c, i) => do
        lookAhead c
        let (here, next) ← connect inner (i + 1 < stages.length)
        let e ← inChild n do
          modifyProcess ({ · with channels := here })
          let _ ← execute n { s with last := true } c
        return (next, e.status)) (channels, 0)
      return status

/-- Runs a simple command: words are expanded, then channels are opened, and then variables are
assigned before the command is looked for. -/
def simple : Nat → Situation → Nat → List Word → List Word → List Redirection → Running Nat
  | 0, _, _, _, _, _ => throw .exhausted
  | n + 1, s, line, assignments, words, redirections => do
    modifyProcess ({ · with line, substituted := 0 })
    let (words, args) ← Calling.fillTo (capture n) n 0 words []
    let c ← Calling.resolve (capture n) n (n + 1) { words, args }
    let marks := c.builtin.any ["export", "local", "readonly"].contains
    let shown := c.args ++ (← Calling.expandRest (capture n) n marks c.words)
    let args := shown.drop c.start
    let special := c.special.getD false
    let isExec := c.builtin == some "exec"
    let p ← process
    let keep := p.hidden.length
    if c.own then modifyProcess ({ · with hidden := [] :: p.hidden })
    let openings ← Opening.ofRedirections (capture n) n redirections
    let before := (← process).channels
    let r ← caught do
      match ← caught (openings.forM (Opening.establish (capture n) n)) with
      | .error .error =>
        setStatus 2
        -- only a special builtin ends the shell when its redirections fail
        if special then throw .error
      | .error d => throw d
      | .ok () =>
        let exported := isExec && 1 < args.length
        let assigned ← assignments.mapM fun w => do
          let text ← Expansion.text (capture n) n .assignment w
          let (name, value) := Builtin.nameAndValue text
          let value := value.getD []
          if c.own then makeOwn name (some value) true
          else store (Bytes.toName name) (some value) exported false false true
          return text
        if ← hasOption 'x' then trace n before openings (assigned ++ shown)
        call n s c special args
    match r with
    | .error d =>
      Opening.putBack before openings
      throw d
    | .ok () =>
      -- what `exec` opens stays open
      if !isExec then Opening.putBack before openings
      restoreTo keep (← process).hidden
      return (← process).status

/-- Shows the words of a command before it runs, where standard error led before it. -/
def trace : Nat → Channels → List Opening → List Bytes → Running Unit
  | 0, _, _, _ => throw .exhausted
  | n + 1, before, openings, words => do
    let text := (← valueOf? "PS4").getD []
    let p ← process
    let source : Source := { Source.ofBytes text p.documents [] with aliases := p.aliases }
    let expanded : Running Bytes := do
      match source.readPrompt with
      | .ok (w, source) =>
        modifyProcess ({ · with documents := source.documents })
        Expansion.text (capture n) n .document w
      | .error e =>
        modifyProcess ({ · with line := e.line })
        fatal ("Syntax error: " ++ e.flaw.message).toList
    let prompt ← match ← caught expanded with
      | .ok prompt => pure prompt
      | .error .error => pure text
      | .error d => throw d
    let channels := (← process).channels
    let channels := match before.lookup 2 with
      | some f => if openings.any (·.channel == 2) then channels.set 2 (some f) else channels
      | none => channels
    let _ ← writeTo channels 2 (prompt ++ List.intercalate [' '] words ++ ['\n'])

/-- Calls a command with its arguments. -/
def call : Nat → Situation → Calling → Bool → List Bytes → Running Unit
  | 0, _, _, _, _ => throw .exhausted
  | n + 1, s, c, special, args => do
    match c.builtin, args with
    | _, [] => setStatus (← process).substituted
    | some name, called :: args => callBuiltin n s name special called args
    | none, name :: args =>
      let wish : Wish := { noFunctions := c.noFunctions, reported := true, path := c.path }
      match ← Lookup.find name wish with
      | .unknown =>
        setStatus 127
        if special then throw .error
      | .builtin b => callBuiltin n s b special name args
      | .function body => callFunction n s body args
      | .program place =>
        let run : Running Unit := do
          let (status, executed) ← runProgram name args c.path (place.getD 0)
          endProgram status executed
        if s.last && !(← process).hasTraps then run
        else
          let _ ← Jobs.claim
          setStatus (← inChild n run).status

/-- Calls a function. -/
def callFunction : Nat → Situation → Command → List Bytes → Running Unit
  | 0, _, _, _ => throw .exhausted
  | n + 1, s, body, args => do
    let p ← process
    if callLimit ≤ p.calls then
      fatal ("Maximum function recursion depth (" ++ toString callLimit ++ ") reached").toList
    modifyProcess ({ · with
      positional := args, optionIndex := 1, optionOffset := none, loops := 0, calls := p.calls + 1 })
    thenAlways (do
      let _ ← execute n { tested := s.tested } body)
      (modifyProcess fun q => { q with
        positional := p.positional, optionIndex := p.optionIndex, optionOffset := p.optionOffset
        loops := p.loops, calls := p.calls
        skip := if q.skip == .function || q.skip == .rest then .nothing else q.skip })

/-- Calls a command that the shell knows itself. Its flaws end the shell only if it is `special`. -/
def callBuiltin : Nat → Situation → String → Bool → Bytes → List Bytes → Running Unit
  | 0, _, _, _, _, _ => throw .exhausted
  | n + 1, s, name, special, called, args => do
    let old := (← process).reporter
    modifyProcess ({ · with reporter := some called })
    let r ← caught (thenAlways (do
      let status ← builtin n s name args
      match ← flush with
      | .ok () => setStatus status
      | .error _ =>
        complain (called ++ ": I/O error".toList)
        setStatus (status ||| 1)) (modifyProcess ({ · with reporter := old, output := [] })))
    match r with
    | .ok () => return
    | .error .error => if special then throw .error
    | .error d => throw d

/-- Does what the shell does itself under a name; the status. -/
def builtin : Nat → Situation → String → List Bytes → Running Nat
  | 0, _, _, _ => throw .exhausted
  | n + 1, s, name, args =>
    match name with
    | "." => readCommands n args
    | "[" => Builtin.test true args
    | "alias" => Builtin.setAliases args
    | "bg" => Builtin.control args
    | "break" => leaveLoops .loops args
    | "cd" => Builtin.cd args
    | "chdir" => Builtin.cd args
    | "command" => Builtin.command args
    | "continue" => leaveLoops .turn args
    | "echo" => Builtin.echo args
    | "eval" =>
      if args.isEmpty then return 0
      else runText n { tested := s.tested } (List.intercalate [' '] args)
    | "exec" =>
      match args with
      | [] => return 0
      | name :: args => do
        modifyProcess fun p => { p with options := p.options.filter fun c => c != 'i' && c != 'm' }
        let (status, executed) ← runProgram name args none 0
        endProgram status executed
        return status
    | "exit" => leave args
    | "export" => Builtin.mark "export" true false args
    | "false" => return 1
    | "fg" => Builtin.control args
    | "getopts" => Builtin.getopts args
    | "hash" => Builtin.hash args
    | "jobs" => Builtin.jobs args
    | "kill" => Builtin.kill args
    | "local" => Builtin.own args
    | "printf" => Builtin.printf args
    | "pwd" => Builtin.pwd args
    | "read" => Builtin.read args
    | "readonly" => Builtin.mark "readonly" false true args
    | "return" => return_ args
    | "set" => Builtin.set args
    | "shift" => Builtin.shift args
    | "test" => Builtin.test false args
    | "times" => Builtin.times args
    | "trap" => Builtin.trap args
    | "type" => Builtin.type args
    | "ulimit" => Builtin.ulimit args
    | "umask" => Builtin.umask args
    | "unalias" => Builtin.unalias args
    | "unset" => Builtin.unset args
    | "wait" => Builtin.wait (runWaiting n) args
    | _ => return 0

/-- Runs the commands in a file. -/
def readCommands : Nat → List Bytes → Running Nat
  | 0, _ => throw .exhausted
  | n + 1, args => do
    match ← Builtin.operands args with
    | [] => return 0
    | name :: _ =>
      let path ← scriptPath name
      let text ← scriptText path
      let p ← process
      modifyProcess ({ · with reporter := some path })
      let status ← thenAlways (runSource n {} true (.ofBytes text p.documents p.heldAliases))
        (modifyProcess ({ · with readLine := p.readLine, heldAliases := p.heldAliases }))
      modifyProcess fun q => { q with
        skip := if q.skip == .function || q.skip == .rest then .nothing else q.skip }
      return status

end

end Execution

end CommandBook.Shell
