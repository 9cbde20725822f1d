import CommandBook.Decimal.Binary64
import CommandBook.Decimal.Numeral

/-!
# Shortest decimals

The decimal text of a double is the one with the fewest digits that still reads back as the same
double, and of those the nearest to its value.

The reals that round to `m * 2 ^ q` form an interval around it; on the grid of decimals with a given
number of digits only the two neighbours of the value can be the nearest point inside. Grids are
tried from one digit upward; seventeen digits always suffice.

## Main definitions

* `shortest` — digits and exponent
* `Style`, `Style.text` — how the digits are laid out
-/

namespace CommandBook.Decimal

/-- The decimal `digits * 10 ^ exponent`. -/
structure Scientific where
  digits : Nat
  exponent : Int
deriving DecidableEq, Repr

/-- The interval of reals that round to `m * 2 ^ q`, in quarters of `2 ^ q`. Below a power of two
the doubles lie twice as dense. -/
def lowerQuarters (m : Nat) (q : Int) : Nat :=
  if m = pow2 52 ∧ -1074 < q then 4 * m - 1 else 4 * m - 2

/-- Whether the decimal `d * 10 ^ p` rounds to `m * 2 ^ q`; both ends count when `m` is even. -/
def readsBack (m : Nat) (q : Int) (d : Nat) (p : Int) : Bool :=
  let quarter := pow2 (q - 2).toNat * pow10 (-p).toNat
  let point := d * (pow2 (2 - q).toNat * pow10 p.toNat)
  let low := lowerQuarters m q * quarter
  let high := (4 * m + 2) * quarter
  if m % 2 = 0 then low ≤ point && point ≤ high else low < point && point < high

/-- The exponent of the leading decimal digit of `m * 2 ^ q`. -/
def leadingExponent (m : Nat) (q : Int) : Int :=
  let num := m * pow2 q.toNat
  let den := pow2 (-q).toNat
  let guess : Int := (numeral num).length - (numeral den).length
  if den * pow10 guess.toNat ≤ num * pow10 (-guess).toNat then guess else guess - 1

/-- The neighbour of `m * 2 ^ q` on the grid of multiples of `10 ^ p` that reads back, the nearer
one if both do, the even one on a tie. -/
def onGrid (m : Nat) (q p : Int) : Option Nat :=
  let num := m * pow2 q.toNat * pow10 (-p).toNat
  let den := pow2 (-q).toNat * pow10 p.toNat
  let below := num / den
  let near := roundDiv num den
  let far := if near = below then below + 1 else below
  if readsBack m q near p then some near
  else if readsBack m q far p then some far
  else none

/-- Tries grids of ever more digits, `tries` at most. -/
def firstGrid (m : Nat) (q : Int) : (tries : Nat) → (p : Int) → Scientific
  | 0, p => ⟨(m * pow2 q.toNat * pow10 (-p).toNat) / (pow2 (-q).toNat * pow10 p.toNat), p⟩
  | tries + 1, p =>
    match onGrid m q p with
    | some d => ⟨d, p⟩
    | none => firstGrid m q tries (p - 1)

/-- The shortest decimal that reads back as `m * 2 ^ q`. -/
def shortest (m : Nat) (q : Int) : Scientific :=
  if m = 0 then ⟨0, 0⟩ else firstGrid m q 17 (leadingExponent m q)

/-- How the text of a double is laid out. -/
structure Style where
  /-- The least exponent of the leading digit that is still written positionally. -/
  positionalFrom : Int
  /-- The least exponent above it that is written in exponent form again. -/
  exponentFrom : Int
  nan : String
  infinity : String

/-- The digits without the zeros at their end, and how many there were. -/
def stripZeros (ds : List Char) : List Char := (ds.reverse.dropWhile (· == '0')).reverse

/-- The digits of a decimal laid out: positionally with at least one digit on either side of the
point, or with one digit before the point and a signed exponent of two digits or more. -/
def Style.layOut (style : Style) (s : Scientific) : List Char :=
  let all := numeral s.digits
  let lead : Int := all.length - 1 + s.exponent
  let ds := if s.digits = 0 then ['0'] else stripZeros all
  let lead := if s.digits = 0 then 0 else lead
  if style.positionalFrom ≤ lead && lead < style.exponentFrom then
    if lead < 0 then '0' :: '.' :: List.replicate (-lead - 1).toNat '0' ++ ds
    else
      let whole := ds.take (lead + 1).toNat
      let rest := ds.drop (lead + 1).toNat
      whole ++ List.replicate (lead.toNat + 1 - whole.length) '0' ++
        '.' :: (if rest.isEmpty then ['0'] else rest)
  else
    let size := numeral lead.natAbs
    ds.take 1 ++ (if ds.length ≤ 1 then [] else '.' :: ds.drop 1) ++
      'e' :: (if lead < 0 then '-' else '+') ::
        (if size.length < 2 then '0' :: size else size)

/-- The text of a double. -/
def Style.text (style : Style) (x : Float) : String :=
  let p := parts x
  let sign := if p.negative then "-" else ""
  match p.magnitude with
  | .nan => style.nan
  | .infinite => sign ++ style.infinity
  | .finite m q => sign ++ String.ofList (style.layOut (shortest m q))

end CommandBook.Decimal
