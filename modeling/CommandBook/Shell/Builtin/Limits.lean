import CommandBook.Shell.Builtin.Options

/-!
# Commands on resources

The time that the shell has used, and the limits on what it may use.
-/

namespace CommandBook.Shell.Builtin

open Running

/-- The time used, which is too short to be measured. -/
def times : Builtin := fun _ => do
  putLine "0m0.000000s 0m0.000000s".toList
  putLine "0m0.000000s 0m0.000000s".toList
  return 0

/-- A limit on a resource: its letter and name, the size of its unit, and the lower and upper limits
where nothing has changed them; nothing stands for no limit. -/
structure Limit where
  letter : Char
  name : String
  unit : Nat
  lower : Option Nat := none
  upper : Option Nat := none

def limits : List Limit :=
  [{ letter := 't', name := "time(seconds)", unit := 1 },
    { letter := 'f', name := "file(blocks)", unit := 512 },
    { letter := 'd', name := "data(kbytes)", unit := 1024 },
    { letter := 's', name := "stack(kbytes)", unit := 1024, lower := some 8388608 },
    { letter := 'c', name := "coredump(blocks)", unit := 512, lower := some 0 },
    { letter := 'm', name := "memory(kbytes)", unit := 1024 },
    { letter := 'l', name := "locked memory(kbytes)", unit := 1024, lower := some 8388608
      upper := some 8388608 },
    { letter := 'p', name := "process", unit := 1, lower := some 128620, upper := some 128620 },
    { letter := 'n', name := "nofiles", unit := 1, lower := some 20000, upper := some 20000 },
    { letter := 'v', name := "vmemory(kbytes)", unit := 1024 },
    { letter := 'w', name := "locks", unit := 1 },
    { letter := 'r', name := "rtprio", unit := 1, lower := some 0, upper := some 0 }]

/-- The lower and upper limit at present. -/
def limitNow (l : Limit) : Running (Option Nat × Option Nat) := do
  return ((← process).limits.lookup l.letter).getD (l.lower, l.upper)

/-- Whether one limit is above another. -/
def isAbove : Option Nat → Option Nat → Bool
  | _, none => false
  | none, some _ => true
  | some a, some b => b < a

def limitText (l : Limit) : Option Nat → Bytes
  | none => "unlimited".toList
  | some n => (toString (n / l.unit)).toList

/-- The limit that an argument writes. -/
def limitOf (l : Limit) (text : Bytes) : Running (Option Nat) := do
  if text == "unlimited".toList then return none
  else if text.isEmpty then return some 0
  else
    match decimal? text with
    | some n => return some (n * l.unit)
    | none => fatal "bad number".toList

def ulimit : Builtin := fun args => do
  let (os, args) ← options "HSatfdscmlpnvwr" args
  let isKind : Char → Bool := "HSa".toList.contains
  let kinds := (os.map Prod.fst).filter fun c => c == 'H' || c == 'S'
  let upper := kinds.getLast? == some 'H'
  let lower := kinds.getLast? == some 'S'
  let all := os.any (·.1 == 'a')
  let letter := (((os.map Prod.fst).filter fun c => !isKind c).getLast?).getD 'f'
  let chosen (now : Option Nat × Option Nat) : Option Nat := if upper then now.2 else now.1
  match limits.find? (·.letter == letter), args with
  | none, _ => return 0
  | some l, text :: others =>
    if all || !others.isEmpty then fatal "too many arguments".toList
    let value ← limitOf l text
    let now ← limitNow l
    let new := (if upper then now.1 else value, if lower then now.2 else value)
    if isAbove new.1 new.2 then fatal "error setting limit (Invalid argument)".toList
    if isAbove new.2 now.2 then fatal "error setting limit (Operation not permitted)".toList
    modifyProcess fun p => { p with
      limits := (letter, new) :: p.limits.filter fun e => e.1 != letter }
    return 0
  | some l, [] =>
    if all then
      for l in limits do
        let fill := List.replicate (20 - l.name.length) ' '
        putLine (l.name.toList ++ fill ++ ' ' :: limitText l (chosen (← limitNow l)))
    else putLine (limitText l (chosen (← limitNow l)))
    return 0

end CommandBook.Shell.Builtin
