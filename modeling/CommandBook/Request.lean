import CommandBook.Decimal.Binary64
import CommandBook.Fault
import CommandBook.Json.Reader
import CommandBook.Text.Case
import CommandBook.Value.Text

/-!
# Requests

The one request of a command and what came of it. A request goes to a transport, which answers or
fails; the reply is the answer with its body read as JSON where that is possible.

## Main definitions

* `Request`, `Exchange`, `Reply`
* `Exchange.reply` — the reply to a request that had a given outcome
-/

namespace CommandBook

/-- A time limit in seconds. -/
inductive Seconds where
  | whole (n : Int)
  | real (x : Float)

namespace Seconds

def toLeaf : Seconds → Leaf
  | .whole n => .int n
  | .real x => .real x

def text (s : Seconds) : String := s.toLeaf.text

def toJson : Seconds → Json
  | .whole n => .int n
  | .real x => .real x

/-- The limit that holds where none is set. -/
def standard : Seconds := .whole 30

/-- No time at all, as a whole number or as a real one. -/
def isZero : Seconds → Bool
  | .whole n => n == 0
  | .real x => x == 0

/-- The limit that is set, and the standard one instead of no time at all. -/
def orStandard (s : Seconds) : Seconds := if s.isZero then standard else s

end Seconds

/-- A request as it is handed to the transport. -/
structure Request where
  method : String
  url : String
  headers : Option (List (String × String))
  /-- The body, sent as JSON. -/
  payload : Option Json
  timeout : Seconds

/-- An answer of the transport. The clock is read before and after. -/
structure Answer where
  status : Int
  headers : List (String × String)
  text : String
  clockBefore : Float
  clockAfter : Float

/-- What came of a request. -/
inductive Exchange where
  | answered (a : Answer)
  | timedOut
  | connectionFailed (reason : String)
  | failed (reason : String)
  /-- A failure that is none of the transport's own. -/
  | broken (f : Fault)

/-- What the rest of an invocation sees of a request's outcome. -/
structure Reply where
  status : Int := 0
  headers : List (String × String) := []
  body : Json := .null
  elapsedMs : Float := 0
  error : Option String := none
  text : String := ""

namespace Reply

/-- Answered, with a status that means success. -/
def ok (r : Reply) : Bool := r.error.isNone && 200 ≤ r.status && r.status < 300

end Reply

/-- Headers by name regardless of case: a name that occurs again keeps its place, but takes the
spelling and value of its last occurrence. -/
def mergeHeaders (headers : List (String × String)) : List (String × String) :=
  (headers.foldl (fun acc h => insertEntry (Text.lower h.1) h acc) []).map Prod.snd

/-- A text as JSON, or as itself when it is not JSON. -/
def bodyOf (text : String) : Json :=
  match Json.read text with
  | .ok v => v
  | .error _ => .str text

/-- The reply to a request that had this outcome. -/
def Exchange.reply (timeout : Seconds) : Exchange → Except Fault Reply
  | .answered a => .ok {
      status := a.status
      headers := mergeHeaders a.headers
      body := bodyOf a.text
      elapsedMs := (a.clockAfter - a.clockBefore) * 1000
      text := a.text }
  | .timedOut => .ok { error := some s!"Request timed out after {timeout.text}s" }
  | .connectionFailed reason => .ok { error := some s!"Connection error: {reason}" }
  | .failed reason => .ok { error := some s!"Request failed: {reason}" }
  | .broken f => .error f

/-- A request with its method in upper case. -/
def Request.make (method url : String) (headers : Option (List (String × String)))
    (payload : Option Json) (timeout : Seconds) : Request :=
  { method := Text.upper method, url, headers, payload, timeout }

end CommandBook
