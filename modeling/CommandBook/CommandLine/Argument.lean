import CommandBook.Command.Tree
import CommandBook.CommandLine.Flaw
import CommandBook.Text.Blank
import CommandBook.Text.Case

/-!
# Arguments

The words of a command line that are no options fill the arguments of a command from left to right.
On the command line an argument goes by its folded name, in which case and the difference between
hyphen and underscore do not count; arguments with one folded name have one value, that of the last
of them.

## Main definitions

* `Parameter` — an argument that a command takes
* `Slots`, `Slots.fill` — arguments with the words that fill them
* `Slots.bind` — the variables that the arguments give
-/

namespace CommandBook

/-- An argument that a command takes. -/
structure Parameter where
  /-- The name of the variable. -/
  variableName : String
  required : Bool
deriving DecidableEq, Repr

namespace Parameter

/-- The name by which the command line knows the argument. -/
def folded (p : Parameter) : String :=
  Text.lower (String.ofList (p.variableName.toList.map fun c => if c == '-' then '_' else c))

/-- The name as reports show it. -/
def label (p : Parameter) : String := Text.upper p.folded

/-- The name as the usage shows it. -/
def usage (p : Parameter) : String := if p.required then p.label else s!"[{p.label}]"

/-- The arguments of a command's name, the mandatory ones first. -/
def ofName (n : CommandName) : List Parameter :=
  n.mandatory.map (⟨·, true⟩) ++ n.optional.map (⟨·, false⟩)

/-- The arguments of an entry; a parent without one takes none. -/
def ofEntry (e : Option CommandEntry) : List Parameter := (e.map fun e => ofName e.name).getD []

end Parameter

/-- Arguments with the words that fill them. -/
abbrev Slots := List (Parameter × Option String)

namespace Slots

/-- Fills arguments from left to right. -/
def fill : List Parameter → List String → Slots
  | [], _ => []
  | p :: ps, [] => (p, none) :: fill ps []
  | p :: ps, w :: ws => (p, some w) :: fill ps ws

/-- The last slot with a folded name. -/
def last? (slots : Slots) (name : String) : Option (Parameter × Option String) :=
  (slots.filter (·.1.folded == name)).getLast?

/-- The value of a folded name. -/
def value? (slots : Slots) (name : String) : Option String := (slots.last? name).bind (·.2)

/-- The variable and the value that a slot gives; none without a value. -/
def binding? (slots : Slots) (p : Parameter) : Option (String × String) :=
  (slots.last? p.folded).bind fun s => s.2.map fun v => (s.1.variableName, v)

/-- The variables that the arguments give; those without a value give none. The first mandatory
argument without a value is a flaw. -/
def bind (slots : Slots) : Except UsageFlaw (OrderedMap String String) :=
  match slots.find? fun s => s.1.required && (slots.value? s.1.folded).isNone with
  | some s => .error (.argumentMissing s.1.label)
  | none => .ok (.ofList (slots.filterMap fun s => slots.binding? s.1))

end Slots

end CommandBook
