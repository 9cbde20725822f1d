import CommandBook.Text.Quoted

/-!
# Flaws of a command line

What can be wrong with the words of a command line, with its report. Most flaws concern a command,
whose usage is shown with the report; the two that concern the value of an option are reported
alone.

## Main definitions

* `UsageFlaw`, `UsageFlaw.message`
* `UsageFlaw.showsUsage` — whether the usage of the command belongs to the report
-/

namespace CommandBook

/-- What is wrong with the words of a command line. -/
inductive UsageFlaw where
  /-- An option that the command does not know, with the known ones that look like it. -/
  | unknownOption (name : String) (similar : List String)
  /-- A value for an option that has none. -/
  | valueNotTaken (option : String)
  /-- No value for an option that has one. -/
  | valueMissing (option : String)
  | argumentMissing (label : String)
  /-- Words behind the last argument; there is at least one. -/
  | extraWords (words : List String)
  /-- A command that is not there, with those that look like it. -/
  | unknownCommand (name : String) (similar : List String)
  | commandMissing
deriving DecidableEq, Repr

namespace UsageFlaw

/-- A sentence that proposes names, with a blank before it; nothing when there are none. -/
def proposal (names : List String) : String :=
  match names.mergeSort (fun a b => decide (a ≤ b)) with
  | [] => ""
  | [name] => s!" Did you mean {Text.quoted name}?"
  | names => " (Did you mean one of: " ++ String.intercalate ", " (names.map Text.quoted) ++ "?)"

def message : UsageFlaw → String
  | .unknownOption name similar => s!"No such option {Text.quoted name}." ++ proposal similar
  | .valueNotTaken option => s!"Option {Text.quoted option} does not take a value."
  | .valueMissing option => s!"Option {Text.quoted option} requires an argument."
  | .argumentMissing label => s!"Missing argument '{label}'."
  | .extraWords words =>
    let noun := if words.length = 1 then "argument" else "arguments"
    s!"Got unexpected extra {noun} (" ++ String.intercalate " " words ++ ")"
  | .unknownCommand name similar => s!"No such command {Text.quoted name}." ++ proposal similar
  | .commandMissing => "Missing command."

/-- Whether the usage of the command belongs to the report. -/
def showsUsage : UsageFlaw → Bool
  | .valueNotTaken _ | .valueMissing _ => false
  | _ => true

end UsageFlaw

end CommandBook
