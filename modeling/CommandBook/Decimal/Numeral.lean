import CommandBook.Decimal.Power

/-!
# Decimal numerals

Whole numbers as rows of ASCII digits, and back.

## Main statements

* `numeral_ne_nil`, `isDigit_of_mem_numeral` — a numeral is a non-empty row of ASCII digits
-/

namespace CommandBook.Decimal

/-- The decimal digits of a number, most significant first, without leading zeros. -/
def numeral (n : Nat) : List Char := Nat.toDigits 10 n

theorem numeral_ne_nil (n : Nat) : numeral n ≠ [] := Nat.toDigits_ne_nil

theorem isDigit_of_mem_numeral {n : Nat} {c : Char} (h : c ∈ numeral n) : c.isDigit :=
  Nat.isDigit_of_mem_toDigits (by decide) (by decide) h

/-- The decimal text of an integer: a minus sign when negative, then the digits. -/
def integer : Int → List Char
  | .ofNat n => numeral n
  | .negSucc n => '-' :: numeral (n + 1)

/-- The number that a row of ASCII digits writes; other characters count as what their code point
is above the digit zero, so callers pass digits only. -/
def value (digits : List Char) : Nat :=
  digits.foldl (fun n c => n * 10 + (c.toNat - 0x30)) 0

/-- The most digits that the text of an integer may have, in either direction. -/
def maxDigits : Nat := 4300

/-- Whether the text of an integer stays within `maxDigits`. -/
def fits (n : Int) : Bool := n.natAbs < pow10 maxDigits

end CommandBook.Decimal
