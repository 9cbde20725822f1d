import CommandBook.Decimal.Shortest
import CommandBook.Json.Basic
import CommandBook.Text.Hex

/-!
# Writing JSON

Two layouts of the same tokens: on one line with `", "` and `": "` between them, and one item a
line with an indentation of two blanks a level. All characters outside printable ASCII are
escaped, those beyond the first plane as a pair of surrogates.

## Main definitions

* `Json.render` — on one line
* `Json.renderIndented` — one item a line
-/

namespace CommandBook.Json

open Decimal

/-- Numbers are written positionally from 0.0001 up to sixteen digits before the point; the three
values that are no numbers are written by name. -/
def numberStyle : Style :=
  { positionalFrom := -4, exponentFrom := 16, nan := "NaN", infinity := "Infinity" }

/-- A four-digit escape of a UTF-16 unit. -/
def unitEscape (n : Nat) : List Char := '\\' :: 'u' :: Text.hexDigits 4 n

/-- One character inside a string. -/
def escape (c : Char) : List Char :=
  if c == '"' then ['\\', '"']
  else if c == '\\' then ['\\', '\\']
  else if c == '\n' then ['\\', 'n']
  else if c == '\r' then ['\\', 'r']
  else if c == '\t' then ['\\', 't']
  else if c.toNat == 0x0C then ['\\', 'f']
  else if c.toNat == 0x08 then ['\\', 'b']
  else if 0x20 ≤ c.toNat && c.toNat < 0x7F then [c]
  else if c.toNat < 0x10000 then unitEscape c.toNat
  else
    let v := c.toNat - 0x10000
    unitEscape (0xD800 + v / 0x400) ++ unitEscape (0xDC00 + v % 0x400)

/-- A string with its quotes. -/
def renderString (s : String) : List Char := '"' :: s.toList.flatMap escape ++ ['"']

mutual
/-- A value on one line. -/
def renderChars : Json → List Char
  | .null => ['n', 'u', 'l', 'l']
  | .bool true => ['t', 'r', 'u', 'e']
  | .bool false => ['f', 'a', 'l', 's', 'e']
  | .int n => integer n
  | .real x => (numberStyle.text x).toList
  | .str s => renderString s
  | .arr items => '[' :: renderItems items ++ [']']
  | .obj members => '\x7b' :: renderMembers members ++ ['\x7d']

/-- Items with a comma and a blank between them. -/
def renderItems : List Json → List Char
  | [] => []
  | [v] => renderChars v
  | v :: rest => renderChars v ++ ',' :: ' ' :: renderItems rest

/-- Members with a comma and a blank between them. -/
def renderMembers : List (String × Json) → List Char
  | [] => []
  | [(k, v)] => renderString k ++ ':' :: ' ' :: renderChars v
  | (k, v) :: rest =>
    renderString k ++ ':' :: ' ' :: renderChars v ++ ',' :: ' ' :: renderMembers rest
end

/-- A value on one line. -/
def render (v : Json) : String := String.ofList (renderChars v)

/-- A line end and the indentation of a level. -/
def newLine (level : Nat) : List Char := '\n' :: List.replicate (2 * level) ' '

mutual
/-- A value at a level, one item a line; an empty collection stays on its line. -/
def indentedChars (level : Nat) : Json → List Char
  | .arr (v :: rest) =>
    '[' :: newLine (level + 1) ++ indentedChars (level + 1) v ++ indentedItems (level + 1) rest ++
      newLine level ++ [']']
  | .obj ((k, v) :: rest) =>
    '\x7b' :: newLine (level + 1) ++ renderString k ++ ':' :: ' ' :: indentedChars (level + 1) v ++
      indentedMembers (level + 1) rest ++ newLine level ++ ['\x7d']
  | .null => ['n', 'u', 'l', 'l']
  | .bool true => ['t', 'r', 'u', 'e']
  | .bool false => ['f', 'a', 'l', 's', 'e']
  | .int n => integer n
  | .real x => (numberStyle.text x).toList
  | .str s => renderString s
  | .arr [] => ['[', ']']
  | .obj [] => ['\x7b', '\x7d']

/-- The items after the first, each behind a comma on a line of its own. -/
def indentedItems (level : Nat) : List Json → List Char
  | [] => []
  | v :: rest => ',' :: newLine level ++ indentedChars level v ++ indentedItems level rest

/-- The members after the first, each behind a comma on a line of its own. -/
def indentedMembers (level : Nat) : List (String × Json) → List Char
  | [] => []
  | (k, v) :: rest =>
    ',' :: newLine level ++ renderString k ++ ':' :: ' ' :: indentedChars level v ++
      indentedMembers level rest
end

/-- A value with one item a line. -/
def renderIndented (v : Json) : String := String.ofList (indentedChars 0 v)

end CommandBook.Json
