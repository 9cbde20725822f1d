/-!
# Powers

The powers of the two bases between which numerals are converted.
-/

namespace CommandBook.Decimal

/-- A power of two. -/
def pow2 (n : Nat) : Nat := Nat.pow 2 n

/-- A power of ten. -/
def pow10 (n : Nat) : Nat := Nat.pow 10 n

end CommandBook.Decimal
