import CommandBook.Decimal.Power

/-!
# Binary floating point in exact arithmetic

A finite double is a whole number times a power of two. This module takes doubles apart into that
form and rounds an exact quotient to the nearest double, a tie going to the even neighbour.

## Main definitions

* `Parts`, `parts` — sign and magnitude of a double
* `nearest` — the bits of the double nearest to a quotient of whole numbers
* `ofDecimal` — the double nearest to a decimal
-/

namespace CommandBook.Decimal

/-- What a double's bits say apart from its sign. -/
inductive Magnitude where
  | nan
  | infinite
  /-- The value `m * 2 ^ q`. -/
  | finite (m : Nat) (q : Int)
deriving DecidableEq, Repr

/-- Sign and magnitude of a double. -/
structure Parts where
  negative : Bool
  magnitude : Magnitude
deriving DecidableEq, Repr

/-- A double taken apart. -/
def parts (x : Float) : Parts :=
  let bits : Nat := x.toBits.toNat
  let fraction : Nat := bits % pow2 52
  let exponent : Nat := bits / pow2 52 % pow2 11
  { negative := bits / pow2 63 == 1
    magnitude :=
      if exponent = 2047 then (if fraction = 0 then .infinite else .nan)
      else if exponent = 0 then .finite fraction (-1074)
      else .finite (fraction + pow2 52) ((exponent : Int) - 1075) }

/-- The bits of positive infinity. -/
def infinityBits : Nat := 2047 * pow2 52

/-- A quotient rounded to the nearest whole number, a tie to the even one. -/
def roundDiv (num den : Nat) : Nat :=
  let n := num / den
  let twice := 2 * (num % den)
  if twice < den then n else if den < twice then n + 1 else n + n % 2

/-- The bits of the non-negative double nearest to `num / den`; what is too large is infinite. The
exponent is the least one that leaves at most 53 significant bits, and a carry out of the
significand moves into the exponent by plain addition. -/
def nearest (num den : Nat) : Nat :=
  if num = 0 then 0
  else
    let guess : Int := (num.log2 : Int) - den.log2 - 53
    let wide (q : Int) : Bool :=
      pow2 53 * den * pow2 q.toNat ≤ num * pow2 (-q).toNat
    let q := max (-1074) (if wide guess then guess + 1 else guess)
    let n := roundDiv (num * pow2 (-q).toNat) (den * pow2 q.toNat)
    min infinityBits ((q + 1074).toNat * pow2 52 + n)

/-- The double nearest to `m * 10 ^ e`. Beyond the range of doubles no power is computed: the value
is infinite or zero. -/
def ofDecimal (negative : Bool) (m : Nat) (e : Int) : Float :=
  let size : Int := (Nat.toDigits 10 m).length + e
  let bits :=
    if m = 0 || size < -400 then 0
    else if 400 < size then infinityBits
    else nearest (m * pow10 e.toNat) (pow10 (-e).toNat)
  Float.ofBits (UInt64.ofNat (if negative then bits + pow2 63 else bits))

/-- The whole number next to a double on the side of zero; none for what is not finite. -/
def truncate? (x : Float) : Option Int :=
  match (parts x).magnitude with
  | .finite m q =>
    let n : Nat := m * pow2 q.toNat / pow2 (-q).toNat
    some (if (parts x).negative then -(n : Int) else n)
  | _ => none

/-- The double nearest to an integer. -/
def ofInteger (n : Int) : Float := ofDecimal (n < 0) n.natAbs 0

/-- Whether a double is exactly the integer `n`. -/
def isInteger (x : Float) (n : Int) : Bool :=
  match (parts x).magnitude with
  | .finite m q =>
    m * pow2 q.toNat == n.natAbs * pow2 (-q).toNat &&
      (m == 0 || (parts x).negative == decide (n < 0))
  | _ => false

end CommandBook.Decimal
