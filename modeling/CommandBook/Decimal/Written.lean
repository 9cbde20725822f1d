import CommandBook.Decimal.Numeral
import CommandBook.Text.Blank
import CommandBook.Text.Digit
import CommandBook.Text.Hex

/-!
# Written integers

Integers as people write them: blanks around them, a sign, digits of any script, and single
underscores between digits. Bases two, eight and sixteen have a mark that may stand in front of the
digits.

## Main definitions

* `writtenInteger?` — the integer that a text writes in a base
-/

namespace CommandBook.Decimal

/-- A character of any script as it counts in a number: an ASCII digit, a blank, or itself. The
ASCII separators do not count as blanks. -/
def plainChar (c : Char) : Char :=
  if c.toNat < 0x80 then c
  else if Text.isBlank c then ' '
  else ((Text.decimalValue? c).map fun d => Char.ofNat (0x30 + d)).getD '?'

/-- A blank of ASCII around a number. -/
def isPlainBlank (c : Char) : Bool := c == ' ' || (0x09 ≤ c.toNat && c.toNat ≤ 0x0D)

/-- The digits of any script as those of ASCII, without blanks around them. -/
def plainText (cs : List Char) : List Char :=
  let cs := (cs.map plainChar).dropWhile isPlainBlank
  Text.dropTrailing isPlainBlank cs

/-- The value of a digit of ASCII letters and digits in a base of up to sixteen. -/
def digitIn? (base : Nat) (c : Char) : Option Nat := (Text.hexValue? c).filter (· < base)

/-- The digits of a row that may hold single underscores, each between two digits. -/
def joinedDigits? (base : Nat) : List Char → Option (List Nat)
  | [] => none
  | [c] => (digitIn? base c).map ([·])
  | c :: '_' :: rest => do return (← digitIn? base c) :: (← joinedDigits? base rest)
  | c :: rest => do return (← digitIn? base c) :: (← joinedDigits? base rest)

/-- The letter of the mark of a base. -/
def isBaseLetter (base : Nat) (c : Char) : Bool :=
  (base == 16 && (c == 'x' || c == 'X')) || (base == 8 && (c == 'o' || c == 'O')) ||
    (base == 2 && (c == 'b' || c == 'B'))

/-- A row of digits without the mark of the base, behind which one underscore may stand. -/
def withoutBase (base : Nat) : List Char → List Char
  | '0' :: x :: '_' :: rest => if isBaseLetter base x then rest else '0' :: x :: '_' :: rest
  | '0' :: x :: rest => if isBaseLetter base x then rest else '0' :: x :: rest
  | cs => cs

/-- Whether a number of so many digits may be read; where the base is a power of two, any may. -/
def readable (base digits : Nat) : Bool := base != 10 || digits ≤ maxDigits

/-- The sign of a text and what is behind it. -/
def splitSign : List Char → Bool × List Char
  | '-' :: rest => (true, rest)
  | '+' :: rest => (false, rest)
  | cs => (false, cs)

/-- The integer that a text writes in a base of up to sixteen. -/
def writtenInteger? (base : Nat) (cs : List Char) : Option Int := do
  let (negative, body) := splitSign (plainText cs)
  let digits ← joinedDigits? base (withoutBase base body)
  if !readable base digits.length then none
  let n : Int := (digits.foldl (fun n d => n * base + d) 0 : Nat)
  return if negative then -n else n

end CommandBook.Decimal
