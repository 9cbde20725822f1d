import CommandBook.Decimal.Numeral
import CommandBook.Fault
import CommandBook.Json.Basic
import CommandBook.Text.Blank
import CommandBook.Text.Digit

/-!
# Paths into a response

A path is a row of segments with dots between them; empty segments do not count. Each segment goes
one level down: into an object by name, into an array by index. Names are compared with some
tolerance for hyphens, so that `user-id` finds `userid` and the other way round.

## Main definitions

* `member?`, `element?` — one step into an object, into an array
* `walk` — a row of steps
* `Json.at?` — the value at a dotted path
-/

namespace CommandBook.Response

/-- A name without its first hyphen. -/
def withoutFirstHyphen (s : List Char) : List Char := s.erase '-'

/-- A name without any hyphen. -/
def withoutHyphens (s : List Char) : List Char := s.filter (· != '-')

/-- One step into an object: the member of that name; else of the name less its first hyphen; else
the first member whose name equals that up to hyphens of its own. -/
def member? (segment : List Char) (members : List (String × Json)) : Option Json :=
  let stripped := withoutFirstHyphen segment
  (members.lookup (String.ofList segment)).or <|
    (members.lookup (String.ofList stripped)).or <|
      (members.find? fun m => withoutHyphens m.1.toList == stripped).map Prod.snd

/-- A row of digit-like characters, one at least. -/
def isIndex (segment : List Char) : Bool := !segment.isEmpty && segment.all Text.isDigitLike

/-- The index that a segment writes, if it is one: a row of digits, perhaps with a hyphen in it.
Rows that are too long or hold a character that only looks like a digit are faults. -/
def index? (segment : List Char) : Option (Except Fault Nat) :=
  let digits := if isIndex segment then segment else withoutFirstHyphen segment
  if isIndex digits then
    match Text.numeralValue? digits with
    | none => some (.error .notADecimalDigit)
    | some n =>
      if Decimal.maxDigits < digits.length then some (.error .numeralTooLong) else some (.ok n)
  else none

/-- One step into an array. -/
def element? (segment : List Char) (items : List Json) : Except Fault (Option Json) :=
  match index? segment with
  | none => .ok none
  | some (.error e) => .error e
  | some (.ok i) => .ok items[i]?

/-- One step; values without parts have none below them. -/
def step (segment : List Char) : Json → Except Fault (Option Json)
  | .obj members => .ok (member? segment members)
  | .arr items => element? segment items
  | _ => .ok none

/-- A row of steps, which ends at the first that leads nowhere. -/
def walk : List (List Char) → Json → Except Fault (Option Json)
  | [], v => .ok (some v)
  | segment :: rest, v =>
    match step segment v with
    | .error e => .error e
    | .ok none => .ok none
    | .ok (some w) => walk rest w

/-- The segments of a path. -/
def segments (path : List Char) : List (List Char) :=
  (Text.splitWhere (· == '.') path).filter (!·.isEmpty)

/-- The value at a dotted path; null when the path leads nowhere. -/
def valueAt (root : Json) (path : List Char) : Except Fault Json :=
  (walk (segments path) root).map (·.getD .null)

end CommandBook.Response
