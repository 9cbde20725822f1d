import CommandBook.Decimal.Power
import CommandBook.Shell.Bytes

/-!
# Numbers in texts

Integers at the start of a text, as formulas, arguments and conditions write them: blanks, a sign,
and digits of a base that may show itself by a mark.

## Main definitions

* `Number.scan` — the integer at the start of a text
* `Number.whole?` — the integer that a whole text writes
* `Number.count?` — the same, where it must be a count
-/

namespace CommandBook.Shell

/-- An integer at the start of a text. -/
structure Number where
  value : Int
  rest : Bytes
  /-- There is at least one digit. -/
  found : Bool

namespace Number

/-- The largest integer of 64 bits with a sign. -/
def largest : Int := Decimal.pow2 63 - 1

/-- The least integer of 64 bits with a sign. -/
def least : Int := -(Decimal.pow2 63 : Int)

/-- The largest integer of 64 bits without a sign. -/
def largestUnsigned : Int := Decimal.pow2 64 - 1

/-- The integer of 64 bits with a sign that is nearest. -/
def clamp (n : Int) : Int := max least (min n largest)

/-- A number within 64 bits, of which the others are dropped. -/
def wrap (n : Int) : Int := n.bmod (Decimal.pow2 64)

def fits (n : Int) : Bool := clamp n == n

/-- The value of a letter or digit as a digit. -/
def digit (c : Char) : Nat :=
  if c.isDigit then c.toNat - 48
  else if 'a' ≤ c && c ≤ 'z' then c.toNat - 87
  else if 'A' ≤ c && c ≤ 'Z' then c.toNat - 55
  else 99

def digitsIn (base : Nat) (b : Bytes) : Bytes := b.takeWhile fun c => digit c < base

def valueIn (base : Nat) (ds : Bytes) : Nat := ds.foldl (fun n c => n * base + digit c) 0

/-- Digits behind the mark of their base: `0x`, `0b`, or a zero. A mark without digits is a zero. -/
def marked (b : Bytes) : Nat × Bytes :=
  match b with
  | '0' :: m :: d :: rest =>
    if (m == 'x' || m == 'X') && digit d < 16 then (16, d :: rest)
    else if (m == 'b' || m == 'B') && digit d < 2 then (2, d :: rest)
    else (8, b)
  | '0' :: _ => (8, b)
  | b => (10, b)

/-- The integer at the start of a text; base zero is the one that its mark shows. -/
def scan (base : Nat) (b : Bytes) : Number :=
  let t := b.dropWhile isSpacing
  let (negative, t) := match t with
    | '-' :: t => (true, t)
    | '+' :: t => (false, t)
    | t => (false, t)
  let (base, t) := if base = 0 then marked t else (base, t)
  let ds := digitsIn base t
  if ds.isEmpty then { value := 0, rest := b, found := false }
  else
    let n : Int := valueIn base ds
    { value := if negative then -n else n, rest := t.drop ds.length, found := true }

/-- The integer of 64 bits that a whole text writes, blanks around it allowed; nothing if the text
writes none, or one beyond. -/
def whole? (base : Nat) (b : Bytes) : Option Int :=
  let n := scan base b
  if (n.found || base = 0) && fits n.value && n.rest.all isSpacing then some n.value else none

/-- The count that a text writes, which is at least zero and has at most 31 bits. -/
def count? (b : Bytes) : Option Nat :=
  (whole? 10 b).bind fun n =>
    if 0 ≤ n && n < Decimal.pow2 31 then some n.toNat else none

/-- A number as it is written. -/
def text (n : Int) : Bytes := (toString n).toList

end Number

end CommandBook.Shell
