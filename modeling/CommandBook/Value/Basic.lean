import CommandBook.Decimal.Binary64
import CommandBook.Json.Basic
import CommandBook.Value.Calendar

/-!
# Document values

What a command document can hold: the JSON kinds, and bytes, dates, points in time, sets and rows
of pairs besides. Keys and members of sets are leaves; other values cannot be told apart by content
and are no keys.

## Main definitions

* `Leaf`, `Value`
* `Value.ofJson` — JSON values among the document values
* `Value.holds` — the test for "given and not empty"
-/

namespace CommandBook

/-- A value without parts. -/
inductive Leaf where
  | null
  | bool (b : Bool)
  | int (n : Int)
  | real (x : Float)
  | str (s : String)
  | bytes (bs : List UInt8)
  | date (d : Date)
  | time (t : Timestamp)
deriving Inhabited

/-- A document value. -/
inductive Value where
  | leaf (l : Leaf)
  | list (items : List Value)
  | map (entries : List (Leaf × Value))
  | set (members : List Leaf)
  | pairs (entries : List (Value × Value))
  /-- A collection that holds this place: a mapping or a list. -/
  | enclosing (mapping : Bool)

instance : Inhabited Value := ⟨.leaf .null⟩

namespace Leaf

/-- Equality of keys: numbers are equal by value, whatever their kind, and truth values count as
one and zero. -/
def same : Leaf → Leaf → Bool
  | .null, .null => true
  | .str a, .str b => a == b
  | .bytes a, .bytes b => a == b
  | .date a, .date b => a == b
  | .time a, .time b => a.same b
  | .real x, .real y => x == y
  | .real x, .int n | .int n, .real x => Decimal.isInteger x n
  | .real x, .bool b | .bool b, .real x => Decimal.isInteger x b.toInt
  | .int n, .int m => n == m
  | .int n, .bool b | .bool b, .int n => n == b.toInt
  | .bool a, .bool b => a == b
  | _, _ => false

instance : BEq Leaf := ⟨same⟩

/-- A leaf that is neither absent nor empty, zero or false. -/
def holds : Leaf → Bool
  | .null => false
  | .bool b => b
  | .int n => n != 0
  | .real x => x != 0
  | .str s => s != ""
  | .bytes bs => !bs.isEmpty
  | .date _ | .time _ => true

end Leaf

namespace Value

def null : Value := .leaf .null
def str (s : String) : Value := .leaf (.str s)

/-- A value that is neither absent nor empty, zero or false. -/
def holds : Value → Bool
  | .leaf l => l.holds
  | .list items => !items.isEmpty
  | .map entries => !entries.isEmpty
  | .set members => !members.isEmpty
  | .pairs entries => !entries.isEmpty
  | .enclosing _ => true

def isNull : Value → Bool
  | .leaf .null => true
  | _ => false

/-- The value of a text key in a row of entries. -/
def field? (name : String) (entries : List (Leaf × Value)) : Option Value :=
  entries.lookup (.str name)

mutual
/-- A JSON value as a document value. -/
def ofJson : Json → Value
  | .null => .leaf .null
  | .bool b => .leaf (.bool b)
  | .int n => .leaf (.int n)
  | .real x => .leaf (.real x)
  | .str s => .leaf (.str s)
  | .arr items => .list (ofItems items)
  | .obj members => .map (ofMembers members)

def ofItems : List Json → List Value
  | [] => []
  | v :: rest => ofJson v :: ofItems rest

def ofMembers : List (String × Json) → List (Leaf × Value)
  | [] => []
  | (k, v) :: rest => (.str k, ofJson v) :: ofMembers rest
end

end Value

end CommandBook
