import CommandBook.Json.Printer
import CommandBook.Response.Path
import CommandBook.Template.Basic

/-!
# References to a response

In the templates of a command `$data.path` stands for the value at a path of the response. On screen
a long text is cut and an absent value is called so; a captured value is kept as it is.

## Main definitions

* `capture` — a template filled with the values themselves
* `display` — a template filled for the screen
-/

namespace CommandBook.Response

open Template

/-- A character of a path inside a template. -/
def isPathChar (c : Char) : Bool := c.isAlphanum || c == '_' || c == '.' || c == '-'

/-- The reference at the start of a text: `$data.` and as many path characters as follow, one at
least. The reference is its path. -/
def dataRef : Form (List Char)
  | '$' :: 'd' :: 'a' :: 't' :: 'a' :: '.' :: rest =>
    let path := rest.takeWhile isPathChar
    if path.isEmpty then none else some (path, path.length + 6)
  | _ => none

/-- The text of a value inside a template: a text is itself, null is nothing, and any other value
is its JSON. -/
def textOf : Json → List Char
  | .str s => s.toList
  | .null => []
  | v => v.renderChars

/-- The most characters of a text that are shown. -/
def maxShown : Nat := 50

/-- A value as it is shown: long texts are cut and null is called undefined. -/
def shown : Json → Json
  | .str s =>
    if maxShown < s.length then .str (String.ofList (s.toList.take maxShown) ++ "...")
    else .str s
  | .null => .str "undefined"
  | v => v

/-- A template with its references to `body` replaced by the texts of their values, each changed by
`change` first. -/
def fillRefs (change : Json → Json) (body : Json) (template : String) : Except Fault String :=
  (fill? (fun path => (valueAt body path).map fun v => textOf (change v))
    (pieces dataRef template.toList)).map String.ofList

/-- A template filled with the values of a response. -/
def capture (template : String) (body : Json) : Except Fault String := fillRefs id body template

/-- A template filled for the screen. -/
def display (template : String) (body : Json) : Except Fault String := fillRefs shown body template

end CommandBook.Response
