import CommandBook.CommandLine.Manual
import CommandBook.ConfigError
import CommandBook.Effect
import CommandBook.Session

/-!
# Endings

How an invocation ends where it does not end with the status of a command: after a manual was shown,
with an error, with a flaw of the command line, or by a fault. Every ending but a fault has a report
and a status.

## Main definitions

* `Ending`, `Ending.effects`, `Ending.status`
* `Ending.finish` — the effects and the status of an invocation

## Main statements

* `Ending.result_finish_error`, `Ending.effects_finish_error` — an invocation that has ended early
-/

namespace CommandBook

/-- How an invocation ends before its command has run, or instead of it. -/
inductive Ending where
  /-- All is done. -/
  | done (status : Nat)
  /-- An error with a message of its own. -/
  | failure (message : String)
  /-- The command line is flawed; the manual is that of the command that it concerns. -/
  | misuse (manual : Manual) (flaw : UsageFlaw)
  /-- The command line says nothing about what to do. -/
  | guidance (manual : Manual)
  | fault (f : Fault)

namespace Ending

/-- What an ending reports. -/
def effects : Ending → List Effect
  | done _ | fault _ => []
  | failure message => [.err ("Error: " ++ message)]
  | misuse manual flaw => (manual.complaint flaw).map .err
  | guidance manual => [.err manual.text]

/-- The status of an ending. -/
def status : Ending → Except Fault Nat
  | done n => .ok n
  | failure _ => .ok 1
  | misuse _ _ | guidance _ => .ok 2
  | fault f => .error f

/-- The ending of a stopped command. -/
def ofStop : Stop → Ending
  | .session e => failure e.message
  | .fault f => fault f

/-- The ending when a document is not accepted. -/
def ofRejection : Rejection → Ending
  | .config e => failure e.message
  | .fault f => fault f

/-- The effects and the status of an invocation that may have ended early. -/
def finish (s : Step Ending Nat) : Step Fault Nat :=
  match s.result with
  | .ok n => ⟨s.effects, .ok n⟩
  | .error e => ⟨s.effects ++ e.effects, e.status⟩

theorem result_finish_error {s : Step Ending Nat} {e : Ending} (h : s.result = .error e) :
    (finish s).result = e.status := by
  simp [finish, h]

theorem effects_finish_error {s : Step Ending Nat} {e : Ending} (h : s.result = .error e) :
    (finish s).effects = s.effects ++ e.effects := by
  simp [finish, h]

end Ending

end CommandBook
