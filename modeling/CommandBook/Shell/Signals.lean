import CommandBook.Shell.Number

/-!
# Signals

The signals by which a process is told something or ended: names, numbers, and what they do where
nobody listens.

## Main definitions

* `Signal.name` — the name of a signal
* `Signal.decode?` — the signal that a text means
-/

namespace CommandBook.Shell

namespace Signal

/-- The signals that have names of their own, in the order of their numbers, the first of which is
one. An empty text stands for a number without a name. -/
def names : List String :=
  ["HUP", "INT", "QUIT", "ILL", "TRAP", "ABRT", "BUS", "FPE", "KILL", "USR1", "SEGV", "USR2",
    "PIPE", "ALRM", "TERM", "", "CHLD", "CONT", "STOP", "TSTP", "TTIN", "TTOU", "URG",
    "XCPU", "XFSZ", "VTALRM", "PROF", "WINCH", "IO", "PWR", "SYS"]

/-- There is no signal of this number or beyond. -/
def bound : Nat := 65

/-- The name of a signal, which may be its number; zero stands for the end of a script. -/
def name (n : Nat) : String :=
  if n = 0 then "EXIT"
  else if n < 32 then
    let s := names[n - 1]?.getD ""
    if s.isEmpty then toString n else s
  else if n < 34 then toString n
  else if n = 34 then "RTMIN"
  else if n < 50 then s!"RTMIN+{n - 34}"
  else if n < 64 then s!"RTMAX-{64 - n}"
  else "RTMAX"

/-- The number of a signal without a zero's being one. -/
def nameListed (n : Nat) : String := if n = 0 then "0" else name n

/-- The signal that a text means, by number or by name without regard to case; `first` is the least
number whose name counts. -/
def decode? (b : Bytes) (first : Nat) : Option Nat :=
  let wanted := (Bytes.toName b).toUpper
  let named := ((List.range bound).drop first).find? fun n => name n == wanted
  match decimal? b with
  | some n => if n < bound then some n else named
  | none => named

/-- How a signal that has ended a process is described. -/
def description (n : Nat) : String :=
  match n with
  | 1 => "Hangup"
  | 2 => "Interrupt"
  | 3 => "Quit"
  | 4 => "Illegal instruction"
  | 5 => "Trace/breakpoint trap"
  | 6 => "Aborted"
  | 7 => "Bus error"
  | 8 => "Floating point exception"
  | 9 => "Killed"
  | 10 => "User defined signal 1"
  | 11 => "Segmentation fault"
  | 12 => "User defined signal 2"
  | 13 => "Broken pipe"
  | 14 => "Alarm clock"
  | 15 => "Terminated"
  | 16 => "Stack fault"
  | 24 => "CPU time limit exceeded"
  | 25 => "File size limit exceeded"
  | 26 => "Virtual timer expired"
  | 27 => "Profiling timer expired"
  | 29 => "I/O possible"
  | 30 => "Power failure"
  | 31 => "Bad system call"
  | n => if n < 34 then s!"Unknown signal {n}" else s!"Real-time signal {n - 34}"

/-- Whether a signal stops a process, rather than ending it. -/
def stops (n : Nat) : Bool := [19, 20, 21, 22].contains n

/-- Whether a signal that is not expected ends a process. -/
def ends (n : Nat) : Bool := n != 0 && !stops n && !([17, 18, 23, 28].contains n)

/-- Whether no process can listen to a signal. -/
def isFinal (n : Nat) : Bool := n == 9 || n == 19

end Signal

end CommandBook.Shell
