import CommandBook.ConfigError
import CommandBook.OrderedMap
import CommandBook.Text.Blank
import CommandBook.Value.Text

/-!
# Command definitions

What a command does: the request it sends, what it shows, captures and runs. A definition is read
from an entry of the document, whose fields are checked in a fixed order, so that an entry with
several faults always gives the same error.
-/

namespace CommandBook

/-- What a command does when it is invoked. -/
structure CommandDefinition where
  name : String
  /-- Method and URL of the request with a blank between them. -/
  endpoint : Option String := none
  /-- The body of the request; null for none. -/
  body : Value := .null
  response : Option String := none
  set : OrderedMap String String := .empty
  execute : Option String := none
  description : Option String := none
  headers : OrderedMap String String := .empty

/-- A template that is there and not empty. -/
def given? (template : Option String) : Option String := template.filter (· != "")

namespace CommandDefinition

/-- The text of an optional field. -/
def textField (name : String) (fields : List (Leaf × Value)) (key : String) :
    Except ConfigError (Option String) :=
  match Value.field? key fields with
  | none | some (.leaf .null) => .ok none
  | some (.leaf (.str s)) => .ok (some s)
  | some _ => .error (.fieldNotText name key)

/-- The entries of an optional field. -/
def mappingField (name : String) (fields : List (Leaf × Value)) (key : String) :
    Except ConfigError (List (Leaf × Value)) :=
  match Value.field? key fields with
  | none | some (.leaf .null) => .ok []
  | some (.map entries) => .ok entries
  | some _ => .error (.fieldNotMapping name key)

/-- A row of entries with keys and values as texts; keys of one text become one. -/
def textEntries : List (Leaf × Value) → OrderedMap String String →
    Except Fault (OrderedMap String String)
  | [], acc => .ok acc
  | (k, v) :: rest, acc => do
    let key ← k.text?
    let value ← v.text?
    textEntries rest (acc.insert key value)

/-- An endpoint has a blank inside. -/
def checkEndpoint (name endpoint : String) : Except ConfigError String :=
  let trimmed := Text.trim endpoint
  if trimmed.toList.contains ' ' then .ok trimmed else .error (.endpointMalformed name endpoint)

/-- The definition that the fields of an entry give. -/
def ofFields (name : String) (fields : List (Leaf × Value)) :
    Except Rejection CommandDefinition := do
  let endpoint ← (textField name fields "endpoint").mapError .config
  let response ← (textField name fields "response").mapError .config
  let execute ← (textField name fields "execute").mapError .config
  let description ← (textField name fields "description").mapError .config
  let endpoint ← (endpoint.mapM (checkEndpoint name)).mapError .config
  let set ← (mappingField name fields "set").mapError .config
  let headers ← (mappingField name fields "headers").mapError .config
  let set ← Rejection.ofFault (textEntries set .empty)
  let headers ← Rejection.ofFault (textEntries headers .empty)
  return {
    name, endpoint, response, execute, description, set, headers
    body := (Value.field? "body" fields).getD .null }

/-- The definition that an entry gives; an entry that is null has no fields. -/
def ofValue (name : String) : Value → Except Rejection CommandDefinition
  | .leaf .null => ofFields name []
  | .map fields => ofFields name fields
  | _ => .error (.config (.commandNotMapping name))

end CommandDefinition

end CommandBook
