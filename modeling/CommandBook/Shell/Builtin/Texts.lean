import CommandBook.Shell.Lookup
import CommandBook.Shell.Printing

/-!
# Commands on texts

Commands that print their arguments or compare them.
-/

namespace CommandBook.Shell.Builtin

open Running

def echo : Builtin := fun args => do
  put (echoText args)
  return 0

def printf : Builtin := fun args => do
  match ← operands args with
  | [] => fatal "usage: printf format [arg ...]".toList
  | format :: args =>
    let p := Printing.print format args
    put p.output
    let last := if p.malformed then p.complaints.getLast? else none
    for c in if p.malformed then p.complaints.dropLast else p.complaints do complain c
    match last with
    | some c => fatal c
    | none => return if p.complaints.isEmpty then 0 else 1

/-- Checks a condition; a bracket before it wants another one behind it. -/
def test (bracket : Bool) : Builtin := fun args => do
  if bracket && (args.getLast?.getD []).head? != some ']' then fatal "missing ]".toList
  match Condition.holds (← Lookup.facts) (if bracket then args.dropLast else args) with
  | .ok v => return if v then 0 else 1
  | .error flaw => fatal flaw.message

end CommandBook.Shell.Builtin
