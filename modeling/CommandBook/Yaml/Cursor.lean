import CommandBook.Yaml.Problem

/-!
# Places in a YAML text

The text that is still to be read, with the line, column and index of its first character, and the
classes of characters that decide where tokens end.

## Main definitions

* `Cursor` — a place
* `Cursor.skip`, `Cursor.skipWhile`, `Cursor.lineBreak?` — moving on
-/

namespace CommandBook.Yaml

/-- A character that ends a line. -/
def isBreak (c : Char) : Bool :=
  c == '\n' || c == '\r' || c.toNat == 0x85 || c.toNat == 0x2028 || c.toNat == 0x2029

/-- The end of the text or of a line. -/
def endsLine (c : Option Char) : Bool := c.all isBreak

/-- The end of the text, a line break, or a blank. -/
def endsWord (c : Option Char) : Bool := c.all fun c => c == ' ' || isBreak c

/-- The end of the text, a line break, a blank or a tab. -/
def endsToken (c : Option Char) : Bool := c.all fun c => c == ' ' || c == '\t' || isBreak c

/-- A character that may occur in a text at all. -/
def isAllowed (c : Char) : Bool :=
  let n := c.toNat
  n == 0x09 || n == 0x0A || n == 0x0D || (0x20 ≤ n && n ≤ 0x7E) || n == 0x85 ||
    (0xA0 ≤ n && n ≤ 0xD7FF) || (0xE000 ≤ n && n ≤ 0xFFFD) || 0x10000 ≤ n

/-- A letter, a digit, a hyphen or an underscore, all ASCII. -/
def isNameChar (c : Char) : Bool := c.isAlphanum || c == '-' || c == '_'

/-- A place in a text. -/
structure Cursor where
  rest : List Char
  line : Nat
  column : Nat
  index : Nat

namespace Cursor

/-- The start of a text. -/
def start (cs : List Char) : Cursor := ⟨cs, 0, 0, 0⟩

/-- The character `n` places on. -/
def peek (cur : Cursor) (n : Nat) : Option Char := cur.rest[n]?

/-- The place behind one character. A byte order mark takes no column. -/
def next (cur : Cursor) : Cursor :=
  match cur.rest with
  | [] => cur
  | c :: rest =>
    if isBreak c && !(c == '\r' && rest.head? == some '\n') then
      ⟨rest, cur.line + 1, 0, cur.index + 1⟩
    else ⟨rest, cur.line, if c == '\uFEFF' then cur.column else cur.column + 1, cur.index + 1⟩

/-- The place behind `n` characters. -/
def skip (cur : Cursor) : Nat → Cursor
  | 0 => cur
  | n + 1 => cur.next.skip n

/-- The characters from here on that satisfy `p`, and the place behind them. -/
def takeWhile (cur : Cursor) (p : Char → Bool) : List Char × Cursor :=
  let taken := cur.rest.takeWhile p
  (taken, cur.skip taken.length)

/-- The place behind the characters from here on that satisfy `p`. -/
def skipWhile (cur : Cursor) (p : Char → Bool) : Cursor := (cur.takeWhile p).2

/-- The place behind blanks. -/
def skipBlanks (cur : Cursor) : Cursor := cur.skipWhile (· == ' ')

/-- The place at the end of the line. -/
def skipLine (cur : Cursor) : Cursor := cur.skipWhile (!isBreak ·)

/-- The line break here, as it counts in a scalar, and the place behind it. -/
def lineBreak? (cur : Cursor) : Option (Char × Cursor) :=
  match cur.rest with
  | '\r' :: '\n' :: _ => some ('\n', cur.skip 2)
  | c :: _ =>
    if isBreak c then
      some (if c.toNat == 0x2028 || c.toNat == 0x2029 then c else '\n', cur.skip 1)
    else none
  | [] => none

/-- The place behind a line break, if there is one here. -/
def skipBreak (cur : Cursor) : Cursor :=
  match cur.lineBreak? with
  | some (_, next) => next
  | none => cur

/-- Whether three hyphens or three dots stand here as a word. -/
def atSeparator (cur : Cursor) : Bool :=
  let mark := cur.rest.take 3
  (mark == ['-', '-', '-'] || mark == ['.', '.', '.']) && endsToken (cur.peek 3)

end Cursor

end CommandBook.Yaml
