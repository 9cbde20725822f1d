import CommandBook.OrderedMap
import CommandBook.Template.Basic
import CommandBook.Value.Text

/-!
# Placeholders

A dollar sign and a name of letters and underscores stands for the value of that name in a scope;
a name that is absent, or whose value is empty, zero or false, stands for nothing.

## Main definitions

* `Scope`, `Scope.layered` — the values that a command can see
* `resolve` — a template with its placeholders replaced
-/

namespace CommandBook

/-- The values that a command can see, by name. -/
abbrev Scope := OrderedMap String Value

/-- Config variables, saved session values and arguments in one scope; the later layer wins. -/
def Scope.layered (defaults session arguments : Scope) : Scope :=
  (defaults.union session).union arguments

namespace Template

/-- A character of a placeholder's name. -/
def isNameChar (c : Char) : Bool := c.isAlpha || c == '_'

/-- The placeholder at the start of a text: a dollar sign and as many name characters as follow,
one at least. -/
def placeholder : Form String
  | '$' :: rest =>
    let name := rest.takeWhile isNameChar
    if name.isEmpty then none else some (String.ofList name, name.length + 1)
  | _ => none

/-- What a name stands for. -/
def substitute (scope : Scope) (name : String) : List Char :=
  match scope.get? name with
  | some v => if v.holds then v.text.toList else []
  | none => []

/-- A row of characters with its placeholders replaced. -/
def resolveChars (scope : Scope) (cs : List Char) : List Char :=
  fill (substitute scope) (pieces placeholder cs)

/-- A template with its placeholders replaced. -/
def resolve (scope : Scope) (template : String) : String :=
  String.ofList (resolveChars scope template.toList)

end Template

end CommandBook
