import CommandBook.FileTree
import CommandBook.Text.Blank

/-!
# Outcomes of shell commands

What a shell command left behind: its status and what it wrote, or the reason why it could not be
started. A command that was killed by a signal has the signal's number, negated, as its status.

Of the changes of files only new contents are told. A command that removes a file or makes or
removes a directory is not among the outcomes, nor are the files of a command whose output cannot be
decoded, which comes to light when the command has already run.
-/

namespace CommandBook

/-- What a shell command left behind. -/
structure ShellOutcome where
  status : Int := 0
  stdout : String := ""
  stderr : String := ""
  error : Option String := none
  /-- The files that it changed, with their new content. -/
  written : List (Location × ByteArray) := []

namespace ShellOutcome

/-- The outcome of a command that could not be started. -/
def notStarted (reason : String) : ShellOutcome :=
  { error := some s!"Could not run command: {reason}" }

/-- Started, and ended with status zero. -/
def ok (r : ShellOutcome) : Bool := r.error.isNone && r.status == 0

/-- The report of a failed command: why it could not be started, else what it wrote to standard
error, else its status. -/
def failure? (r : ShellOutcome) : Option String :=
  match r.error with
  | some e => some e
  | none =>
    if r.status = 0 then none
    else
      let said := Text.trim r.stderr
      some (if said = "" then s!"Command exited with status {r.status}" else said)

end ShellOutcome

/-- A shell: what comes of a command among files. With a fault no changes of files are told. -/
abbrev Shell := FileTree → String → Except Fault ShellOutcome

end CommandBook
