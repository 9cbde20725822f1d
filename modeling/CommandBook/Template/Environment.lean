import CommandBook.OrderedMap
import CommandBook.Template.Basic

/-!
# Environment references

In the values of a command document `$NAME` and `${NAME}` stand for variables of the environment.
A reference to a variable that is not set stays as it is, so that it can act as a placeholder later.
Between braces a name may be any text without a closing brace.
-/

namespace CommandBook

/-- The variables of an environment. -/
abbrev Environment := OrderedMap String String

namespace Template

/-- A reference to a variable: its name and the characters that it was written with. -/
structure VariableRef where
  name : String
  written : List Char
deriving DecidableEq, Repr

def isIdentifierStart (c : Char) : Bool := c.isAlpha || c == '_'

def isIdentifierPart (c : Char) : Bool := c.isAlphanum || c == '_'

/-- The reference at the start of a text: a name in braces, or an identifier. -/
def variableRef : Form VariableRef
  | '$' :: '\x7b' :: rest =>
    let name := rest.takeWhile (· != '\x7d')
    if name.isEmpty || (rest.drop name.length).isEmpty then none
    else some (⟨String.ofList name, '$' :: '\x7b' :: name ++ ['\x7d']⟩, name.length + 3)
  | '$' :: c :: rest =>
    if isIdentifierStart c then
      let name := c :: rest.takeWhile isIdentifierPart
      some (⟨String.ofList name, '$' :: name⟩, name.length + 1)
    else none
  | _ => none

/-- What a reference stands for: the variable's value, or its own characters. -/
def expandRef (env : Environment) (r : VariableRef) : List Char :=
  match env.get? r.name with
  | some v => v.toList
  | none => r.written

/-- A value with its environment references replaced. -/
def expand (env : Environment) (value : String) : String :=
  String.ofList (fill (expandRef env) (pieces variableRef value.toList))

end Template

end CommandBook
