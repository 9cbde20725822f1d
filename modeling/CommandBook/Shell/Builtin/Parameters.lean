import CommandBook.Shell.Builtin.Options
import CommandBook.Shell.Expansion

/-!
# Commands on parameters

The commands that set, list and take away variables, options of the shell and positional parameters,
and those that read their values from arguments or from input.
-/

namespace CommandBook.Shell.Builtin

open Running

/-! ## Variables -/

/-- Lists variables that pass a test, in order of their names. -/
def listVariables (word : String) (p : Variable → Bool) : Running Nat := do
  let chosen := (← process).vars.entries.filter fun e => p e.2
  let ordered := chosen.mergeSort fun a b => Bytes.before a.1.toList b.1.toList
  for (name, v) in ordered do
    let value := match v.value with
      | some text => '=' :: Bytes.quoted text
      | none => []
    putLine ((if word.isEmpty then [] else (word ++ " ").toList) ++ name.toList ++ value)
  return 0

/-- The name before the first equals sign of an argument, and the value behind it. -/
def nameAndValue (a : Bytes) : Bytes × Option Bytes :=
  let name := a.takeWhile (· != '=')
  match a.drop name.length with
  | _ :: value => (name, some value)
  | [] => (name, none)

/-- Marks variables, which may be given values at once, or lists those that are marked. -/
def mark (word : String) (exported readOnly : Bool) (args : List Bytes) : Running Nat := do
  let marked (v : Variable) : Bool := (exported && v.exported) || (readOnly && v.readOnly)
  let isOption : Bytes → Bool := fun a => a.head? == some '-' && a != ['-'] && a != ['-', '-']
  match args with
  | a :: rest =>
    if isOption a then
      if a[1]? != some 'p' then fatal ("Illegal option -".toList ++ (a.drop 1).take 1)
      return ← listVariables word marked
    let names := if a == ['-', '-'] then rest else a :: rest
    if names.isEmpty then return ← listVariables word marked
    for a in names do
      let (name, value) := nameAndValue a
      match value, ← named? (Bytes.toName name) with
      | none, some old =>
        modifyProcess fun p => { p with
          vars := p.vars.insert (Bytes.toName name) { old with
            exported := old.exported || exported
            readOnly := old.readOnly || readOnly } }
      | value, _ => store (← variableName name) value exported readOnly false true
    return 0
  | [] => listVariables word marked

def unset : Builtin := fun args => do
  let (os, names) ← options "vf" args
  let functions := os.getLast?.any fun o => o.1 == 'f'
  for name in names do
    if functions then
      modifyProcess fun p => { p with
        functions := p.functions.filter fun e => e.1 != Bytes.toName name }
    else unassign (nameAndValue name).1
  return 0

/-- Makes variables the function's own. -/
def own : Builtin := fun args => do
  if (← process).hidden.isEmpty then fatal "not in a function".toList
  for a in args do
    let (name, value) := nameAndValue a
    makeOwn name value false
  return 0

/-! ## Options of the shell -/

/-- The options with their letters. Options without a letter have a sign that nobody can write. -/
def shellOptions : List (String × Char) :=
  [("errexit", 'e'), ("noglob", 'f'), ("ignoreeof", 'I'), ("interactive", 'i'), ("monitor", 'm'),
    ("noexec", 'n'), ("stdin", 's'), ("xtrace", 'x'), ("verbose", 'v'), ("vi", 'V'),
    ("emacs", 'E'), ("noclobber", 'C'), ("allexport", 'a'), ("notify", 'b'), ("nounset", 'u'),
    ("privileged", 'p'), ("nolog", '\x01'), ("debug", '\x02')]

def setOption (on : Bool) (c : Char) : Running Unit :=
  modifyProcess fun p =>
    let others := p.options.filter (· != c)
    { p with options := if on then c :: others else others }

/-- Sets an option by its letter. Two options for editing lines exclude each other. -/
def setLetter (on : Bool) (c : Char) : Running Unit := do
  if !c.isAlpha || !shellOptions.any (·.2 == c) then fatal ("Illegal option -".toList ++ [c])
  setOption on c
  if on && c == 'V' then setOption false 'E'
  if on && c == 'E' then setOption false 'V'

/-- Lists the options, or the commands that set them. -/
def listOptions (asCommands : Bool) : Running Unit := do
  if !asCommands then putLine "Current option settings".toList
  for (name, c) in shellOptions do
    let on ← hasOption c
    if asCommands then putLine (("set " ++ (if on then "-o " else "+o ") ++ name).toList)
    else
      let fill := List.replicate (16 - name.length) ' '
      putLine (name.toList ++ fill ++ (if on then "on" else "off").toList)

/-- Sets an option by its name. -/
def setNamed (on : Bool) (name : Bytes) : Running Unit := do
  match shellOptions.lookup (Bytes.toName name) with
  | some c => setOption on c
  | none => fatal ("Illegal option -o ".toList ++ name)

/-- Sets the options that the letters of an argument write; the arguments behind it that are left. -/
def setLetters (on : Bool) : Bytes → List Bytes → Running (List Bytes)
  | [], rest => return rest
  | 'o' :: cs, [] => do
    listOptions (!on)
    setLetters on cs []
  | 'o' :: cs, name :: rest => do
    setNamed on name
    setLetters on cs rest
  | c :: cs, rest => do
    setLetter on c
    setLetters on cs rest

def setPositional (args : List Bytes) : Running Unit :=
  modifyProcess ({ · with positional := args, optionIndex := 1, optionOffset := none })

/-- Sets options and then positional parameters, if there are any. -/
def setFrom : Nat → List Bytes → Running Unit
  | 0, _ => return
  | _ + 1, [] => return
  | n + 1, a :: rest => do
    let remaining : Running Unit := if rest.isEmpty then return else setPositional rest
    match a with
    | ['-'] =>
      setOption false 'x'
      setOption false 'v'
      remaining
    | ['-', '-'] => setPositional rest
    | '-' :: cs => do setFrom n (← setLetters true cs rest)
    | '+' :: cs => do setFrom n (← setLetters false cs rest)
    | a => setPositional (a :: rest)

def set : Builtin := fun args => do
  if args.isEmpty then return ← listVariables "" (·.value.isSome)
  setFrom (args.length + 1) args
  if (← hasOption 'm') && !(← process).isNested then
    complain "can't access tty; job control turned off".toList
    setOption false 'm'
  return 0

/-! ## Positional parameters -/

def shift : Builtin := fun args => do
  let n ← match args with
    | a :: _ => count a
    | [] => pure 1
  let p ← process
  if n > p.positional.length then fatal "can't shift that many".toList
  setPositional (p.positional.drop n)
  return 0

/-- What `getopts` finds: an option with its value, or what is wrong. -/
inductive FoundOption where
  | ending
  | option (c : Char) (value : Bytes)
  | unknown (c : Char)
  | withoutValue (c : Char)

/-- The next option among arguments: what it is, how many arguments have been passed, and what is
left of the last one. -/
def nextOption (table : Bytes) (args : List Bytes) (index : Nat) (offset : Option Nat) :
    FoundOption × Nat × Option Bytes :=
  let before := (args[index - 2]?).getD []
  let rest := match offset with
    | some o => if 1 < index && o ≤ before.length then before.drop o else []
    | none => []
  let found (passed : Nat) : Bytes → FoundOption × Nat × Option Bytes
    | [] => (.ending, passed, none)
    | c :: rest =>
      match wantsValue? c (if table.head? == some ':' then table.drop 1 else table) with
      | none => (.unknown c, passed, some rest)
      | some false => (.option c [], passed, some rest)
      | some true =>
        if !rest.isEmpty then (.option c rest, passed, none)
        else
          match args[passed]? with
          | some value => (.option c value, passed + 1, none)
          | none => (.withoutValue c, passed, none)
  if rest.isEmpty then
    match args[index - 1]? with
    | some ['-', '-'] => (.ending, index, none)
    | some ('-' :: c :: cs) => found index (c :: cs)
    | _ => (.ending, index - 1, none)
  else found (index - 1) rest

def getopts : Builtin := fun args => do
  match args with
  | table :: name :: args =>
    let p ← process
    let args := if args.isEmpty then p.positional else args
    let beyond := args.length + 1 < p.optionIndex
    let (found, passed, rest) := nextOption table args
      (if beyond then 1 else p.optionIndex) (if beyond then none else p.optionOffset)
    -- a colon in front of the letters keeps it from reporting
    let silent := table.head? == some ':'
    let (letter, ended) ← match found with
      | .ending => pure ('?', true)
      | .option c value => do
        assign "OPTARG".toList value
        pure (c, false)
      | .unknown c => do
        if silent then assign "OPTARG".toList [c]
        else
          note ("Illegal option -".toList ++ [c, '\n'])
          unassign "OPTARG".toList
        pure ('?', false)
      | .withoutValue c => do
        if silent then assign "OPTARG".toList [c]
        else
          note ("No arg for -".toList ++ c :: " option\n".toList)
          unassign "OPTARG".toList
        pure (if silent then ':' else '?', false)
    assignQuietly "OPTIND" (toString (passed + 1)).toList
    assign name [letter]
    let offset := rest.map fun r => ((args[passed - 1]?).getD []).length - r.length
    modifyProcess ({ · with optionIndex := passed + 1, optionOffset := offset })
    return if ended then 1 else 0
  | _ => fatal "Usage: getopts optstring var [arg...]".toList

/-! ## Input -/

/-- A line that is being read: its text, the start of the present region, and, behind a backslash,
where that region ends. -/
structure Incoming where
  text : Expanded := {}
  start : Nat := 0
  stop : Option Nat := none

namespace Incoming

/-- Ends the present region. -/
def settle (i : Incoming) (stop : Nat) : Incoming :=
  { text := { i.text with regions := i.text.regions.push { start := i.start, stop, borders := false } }
    start := i.text.cells.size }

def put (i : Incoming) (c : Char) : Incoming := { i with text := i.text.add [.char c false] }

end Incoming

/-- Reads a line, and tells whether it has an end. A backslash joins lines and protects separators,
unless the line is `raw`. -/
def readLine (raw : Bool) : Nat → Incoming → Running (Incoming × Bool)
  | 0, i => return (i, false)
  | n + 1, i => do
    match ← readByte 0 with
    | .ok (some c) =>
      if c.toNat = 0 then readLine raw n i
      else
        match i.stop with
        | some stop => readLine raw n ((if c == '\n' then i else i.put c).settle stop)
        | none =>
          if c == '\\' && !raw then readLine raw n { i with stop := some i.text.cells.size }
          else if c == '\n' then return (i, true)
          else readLine raw n (i.put c)
    | _ => return (i, false)

/-- The bound on the length of a line. -/
def lineLimit : Nat := 100000000

/-- Gives names their values, and none to those that are left over. -/
def assignAll : List Bytes → List (List Cell) → Running Unit
  | [], _ => return
  | name :: names, [] => do
    assign name []
    assignAll names []
  | name :: names, f :: fs => do
    assign name (Cell.text f)
    assignAll names fs

def read : Builtin := fun args => do
  let (os, names) ← options "p:r" args
  if names.isEmpty then fatal "arg count".toList
  let (i, complete) ← readLine (os.any (·.1 == 'r')) lineLimit {}
  let text := (i.settle i.text.cells.size).text
  let separators ← Expansion.separators
  assignAll names (Field.split separators (some names.length) text.cells text.regions.toList)
  return if complete then 0 else 1

end CommandBook.Shell.Builtin
