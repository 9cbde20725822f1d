import CommandBook.Decimal.Shortest
import CommandBook.Fault
import CommandBook.Json.Printer
import CommandBook.Value.Basic
import CommandBook.Value.Text

/-!
# Document values as JSON

The JSON form of a document value, where it has one. Numbers, truth values and null become names
when they are keys, so an encoded object may hold a name twice; it is up to the reader of its text
to merge them. Rows of pairs become arrays of two.
-/

namespace CommandBook

/-- The name that a key becomes; dates, times and bytes become none. -/
def Leaf.name? : Leaf → Except Fault String
  | .str s => .ok s
  | .null => .ok "null"
  | .bool b => .ok (if b then "true" else "false")
  | .int n =>
    if Decimal.fits n then .ok (String.ofList (Decimal.integer n)) else .error .numeralTooLong
  | .real x => .ok (Json.numberStyle.text x)
  | .bytes _ | .date _ | .time _ => .error .notEncodable

/-- The JSON form of a leaf. -/
def Leaf.toJson? : Leaf → Except Fault Json
  | .null => .ok .null
  | .bool b => .ok (.bool b)
  | .int n => if Decimal.fits n then .ok (.int n) else .error .numeralTooLong
  | .real x => .ok (.real x)
  | .str s => .ok (.str s)
  | .bytes _ | .date _ | .time _ => .error .notEncodable

namespace Value

mutual
/-- The JSON form of a value. -/
def toJson? : Value → Except Fault Json
  | .leaf l => l.toJson?
  | .list items => (itemsToJson? items).map .arr
  | .map entries => (entriesToJson? entries).map .obj
  | .set _ => .error .notEncodable
  | .pairs entries => (pairsToJson? entries).map .arr
  | .enclosing _ => .error .circular

def itemsToJson? : List Value → Except Fault (List Json)
  | [] => .ok []
  | v :: rest => do
    let w ← toJson? v
    return w :: (← itemsToJson? rest)

def entriesToJson? : List (Leaf × Value) → Except Fault (List (String × Json))
  | [] => .ok []
  | (k, v) :: rest => do
    let name ← k.name?
    let w ← toJson? v
    return (name, w) :: (← entriesToJson? rest)

def pairsToJson? : List (Value × Value) → Except Fault (List Json)
  | [] => .ok []
  | (a, b) :: rest => do
    let v ← toJson? a
    let w ← toJson? b
    return .arr [v, w] :: (← pairsToJson? rest)
end

end Value

end CommandBook
