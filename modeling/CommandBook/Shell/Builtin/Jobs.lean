import CommandBook.Shell.Builtin.Options

/-!
# Commands on jobs and signals

Jobs are commands that run without being waited for. Here is what the shell does to list them, to
wait for them and to end them, and how it is told what to do when a signal comes.

## Main definitions

* `Jobs.claim`, `Jobs.settle` — beginning and end of a job
* `Builtin.jobs`, `Builtin.wait`, `Builtin.kill`, `Builtin.trap`
-/

namespace CommandBook.Shell

open Running

namespace Jobs

/-- The number for a new job, and the other jobs. The first number is taken that is free, or whose
job has ended and been waited for. -/
def claimFrom : Nat → Nat → List Job → Nat × List Job
  | 0, i, jobs => (i, jobs)
  | n + 1, i, jobs =>
    match jobs.find? fun j => j.number == i with
    | none => (i, jobs)
    | some j =>
      if j.ending.isSome && j.waited then (i, jobs.filter fun j => j.number != i)
      else claimFrom n (i + 1) jobs

/-- Makes room for a new job; its number. -/
def claim : Running Nat := do
  let p ← process
  let (number, jobs) := claimFrom (p.jobs.length + 1) 1 p.jobs
  modifyProcess ({ · with jobs })
  return number

/-- Adds a job, which becomes the present one. -/
def add (j : Job) : Running Unit :=
  modifyProcess fun p => { p with jobs := j :: p.jobs, lastJob := some j.process }

/-- A job's state after the ends of processes have become known. -/
def settled (ended : List (Nat × Ending)) (j : Job) : Job :=
  if j.ending.isNone && j.processes.all fun n => (ended.lookup n).isSome then
    { j with ending := ended.lookup j.process }
  else j

/-- Takes note of the processes that have ended. -/
def settle : Running Unit :=
  modify fun s => { s with
    process := { s.process with jobs := s.process.jobs.map (settled s.ended) } }

/-- Changes a job. -/
def update (number : Nat) (f : Job → Job) : Running Unit :=
  modifyProcess fun p => { p with
    jobs := p.jobs.map fun j => if j.number == number then f j else j }

/-- The job that an argument names. Jobs have no names of their own, so that only a question mark
without more fits any of them. -/
def named (name : Bytes) : Running Job := do
  let jobs := (← process).jobs
  let required (j : Option Job) (reason : String) : Running Job := do
    match j with
    | some j => return j
    | none => fatal reason.toList
  let unknown := "No such job: ".toList ++ name
  match name with
  | '%' :: rest =>
    match rest with
    | [] => required jobs.head? "No current job"
    | ['+'] => required jobs.head? "No current job"
    | ['%'] => required jobs.head? "No current job"
    | ['-'] => required jobs[1]? "No previous job"
    | ['?'] =>
      match jobs with
      | [j] => return j
      | [] => fatal unknown
      | _ => fatal (name ++ ": ambiguous".toList)
    | rest =>
      match jobs.find? fun j => decimal? rest == some j.number with
      | some j => return j
      | none => fatal unknown
  | _ => fatal unknown

/-- How the state of a job is described. -/
def stateText (j : Job) : Bytes :=
  match j.ending with
  | none => "Running".toList
  | some (.exited 0) => "Done".toList
  | some (.exited n) => ("Done(" ++ toString n ++ ")").toList
  | some (.killed s) => (Signal.description s).toList

/-- Shows a job, which is forgotten if it has ended; `long` adds the numbers of its processes. -/
def put (long : Bool) (j : Job) : Running Unit := do
  let jobs := (← process).jobs
  let is (other : Option Job) : Bool := other.any fun o => o.number == j.number
  let sign := if is jobs.head? then '+' else if is jobs[1]? then '-' else ' '
  let label := '[' :: (toString j.number).toList ++ [']', ' ', sign, ' ']
  let first := if long then (toString (j.processes.headD 0)).toList ++ [' '] else []
  let line := label ++ first ++ stateText j
  let fill (column : Nat) : Bytes := List.replicate (max 1 (33 - column)) ' '
  let others := (j.processes.drop 1).flatMap fun n =>
    if long then
      let text := List.replicate label.length ' ' ++ (toString n).toList ++ [' ']
      " |\n".toList ++ text ++ fill text.length
    else " | ".toList
  Running.put (line ++ fill line.length ++ others ++ ['\n'])
  if j.ending.isSome then
    modifyProcess fun p => { p with jobs := p.jobs.filter fun o => o.number != j.number }

end Jobs

namespace Builtin

def jobs : Builtin := fun args => do
  let (os, names) ← options "lp" args
  let show_ (j : Job) : Running Unit := do
    if os.any (·.1 == 'p') then putLine (toString (j.processes.headD 0)).toList
    else Jobs.put (os.any (·.1 == 'l')) j
  if names.isEmpty then
    Jobs.settle
    for j in (← process).jobs do show_ j
  for name in names do show_ (← Jobs.named name)
  return 0

/-- What needs jobs of another kind, of which there are none. -/
def control : Builtin := fun args => do
  match ← operands args with
  | [] =>
    let _ ← Jobs.named ['%'] 
    fatal "job (null) not created under job control".toList
  | name :: _ =>
    let _ ← Jobs.named name
    fatal ("job ".toList ++ name ++ " not created under job control".toList)

/-! ## Waiting -/

/-- The signal that interrupts waiting. The end of a process does not. -/
def interruption? : Running (Option Nat) := do
  return (← process).caught.find? (· != 17)

/-- Waits until the started processes have ended; `run` runs them. What does not end is waited for in
vain. -/
def awaitAll (run : Running Unit) (running : Running Bool) : Running (Option Nat) := do
  Jobs.settle
  if !(← running) then return none
  run
  Jobs.settle
  match ← interruption? with
  | some signal => return some signal
  | none => if ← running then throw .exhausted else return none

/-- Waits for one job; the status is that of the job. -/
def awaitJob (run : Running Unit) (number : Nat) : Running (Nat × Bool) := do
  let job : Running (Option Job) := do
    return (← process).jobs.find? fun j => j.number == number
  let running : Running Bool := do return (← job).any (·.ending.isNone)
  let waits ← running
  match ← awaitAll run running with
  | some signal => return (128 + signal, true)
  | none =>
    Jobs.update number ({ · with waited := true })
    match (← job).bind Job.ending with
    | some e =>
      if waits then
        if let some remark := e.remark? then note (remark ++ "\n").toList
      return (e.status, false)
    | none => return (127, false)

/-- Waits for the jobs that arguments name, one after another. -/
def awaitNamed (run : Running Unit) : List Bytes → (status : Nat) → Running Nat
  | [], status => return status
  | name :: rest, _ => do
    let number? ← if name.head? == some '%' then do pure (some (← Jobs.named name).number)
      else do
        let n ← count name
        pure (((← process).jobs.find? fun j => j.process == n).map Job.number)
    match number? with
    | none => awaitNamed run rest 127
    | some number =>
      let (status, interrupted) ← awaitJob run number
      if interrupted then return status else awaitNamed run rest status

def wait (run : Running Unit) : Builtin := fun args => do
  match ← operands args with
  | [] =>
    let running : Running Bool := do return (← process).jobs.any (·.ending.isNone)
    match ← awaitAll run running with
    | some signal => return 128 + signal
    | none =>
      modifyProcess fun p => { p with jobs := p.jobs.map ({ · with waited := true }) }
      return 0
  | names => awaitNamed run names 127

/-! ## Signals -/

def trap : Builtin := fun args => do
  let args ← operands args
  let p ← process
  if args.isEmpty then
    for n in List.range Signal.bound do
      if let some action := p.traps.lookup n then
        putLine ("trap -- ".toList ++ Bytes.quoted action ++ ' ' :: (Signal.name n).toList)
    return 0
  let first := args.headD []
  let isNumber := (decimal? first).any (· < Signal.bound)
  let (action, names) := if args.length = 1 || isNumber then (['-'], args)
    else (first, args.drop 1)
  set action names
where
  set (action : Bytes) : List Bytes → Running Nat
    | [] => return 0
    | name :: rest => do
      match Signal.decode? name 0 with
      | none =>
        note ("trap: ".toList ++ name ++ ": bad trap\n".toList)
        return 1
      | some n =>
        modifyProcess fun p =>
          let others := p.traps.filter fun e => e.1 != n
          { p with traps := if action == ['-'] then others else (n, action) :: others }
        set action rest

/-- Ends a process that has been started, unless it does not mind the signal. Processes that run
beside the shell do not mind interruptions. -/
def strike (signal number : Nat) : Running Bool := do
  let s ← get
  if number = processNumber then
    if s.process.isRoot then receive signal
    else set { s with rootSignals := s.rootSignals ++ [signal] }
    return true
  let ends := Signal.ends signal
  match s.waiting.find? fun w => w.number == number with
  | some w =>
    let minds := signal == 9 ||
      (signal != 2 && signal != 3 && (w.state.traps.lookup signal).isNone)
    if ends && minds then
      set { s with
        waiting := s.waiting.filter fun w => w.number != number
        ended := (number, .killed signal) :: s.ended }
    return true
  | none =>
    if s.endless.contains number then
      if ends then
        set { s with
          endless := s.endless.filter (· != number)
          ended := (number, .killed signal) :: s.ended }
      return true
    let known := s.process.jobs.any fun j => j.ending.isSome && j.processes.contains number
    return (s.ended.lookup number).isSome && !known

/-- Sends a signal to what arguments name; whether all of them were there. -/
def strikeAll (signal : Nat) : List Bytes → Running Bool
  | [] => return true
  | name :: rest => do
    let found ← match name with
      | '%' :: _ => do
        let _ ← Jobs.named name
        pure false
      | '-' :: digits => do
        let _ ← count digits
        pure false
      | name => do
        let n ← count name
        strike signal (if n = 0 then processNumber else n)
    if !found then complain "No such process\n".toList
    let others ← strikeAll signal rest
    return found && others

def killUsage : Bytes :=
  ("Usage: kill [-s sigspec | -signum | -sigspec] [pid | job]... or\n" ++
    "kill -l [exitstatus]").toList

/-- The names of signals, or of the one behind a status. -/
def listSignals : Builtin := fun args => do
  match args with
  | [] =>
    for n in List.range Signal.bound do putLine (Signal.nameListed n).toList
    return 0
  | a :: _ =>
    let n ← count a
    let n := if n > 128 then n - 128 else n
    if n = 0 || Signal.bound ≤ n then
      fatal ("invalid signal number or exit status: ".toList ++ a)
    putLine (Signal.name n).toList
    return 0

def kill : Builtin := fun args => do
  if args.isEmpty then fatal killUsage
  let direct := match args with
    | ('-' :: name) :: _ => Signal.decode? name 1
    | _ => none
  let (signal, lists, targets) ← match direct with
    | some n => pure (some n, false, args.drop 1)
    | none => do
      let (os, targets) ← options "ls:" args
      let named ← os.filterMapM fun o => do
        if o.1 == 's' then
          match Signal.decode? o.2 1 with
          | some n => return some n
          | none => fatal ("invalid signal number or name: ".toList ++ o.2)
        else return none
      pure (named.getLast?, os.any (·.1 == 'l'), targets)
  let signal := if lists then signal else signal.or (some 15)
  if (signal.isNone || targets.isEmpty) != lists then fatal killUsage
  if lists then listSignals targets
  else return if ← strikeAll (signal.getD 15) targets then 0 else 1

end Builtin

end CommandBook.Shell
