/-!
# JSON values

The values of the JSON data model, with unbounded integers apart from binary floating point
numbers, and objects as rows of members in document order.
-/

namespace CommandBook

/-- A JSON value. Readers keep the names of an object distinct. -/
inductive Json where
  | null
  | bool (b : Bool)
  | int (n : Int)
  | real (x : Float)
  | str (s : String)
  | arr (items : List Json)
  | obj (members : List (String × Json))
deriving Inhabited

namespace Json

/-- The characters that may stand between the tokens of a JSON text. -/
def isGap (c : Char) : Bool := c == ' ' || c == '\t' || c == '\n' || c == '\r'

end Json

end CommandBook
