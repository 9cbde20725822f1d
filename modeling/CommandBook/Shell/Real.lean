import CommandBook.Decimal.Shortest
import CommandBook.Shell.Number

/-!
# Reals in texts

Doubles at the start of a text: decimal or hexadecimal digits with a point and an exponent, infinity
and what is no number.

## Main definitions

* `Real.scan` — the double at the start of a text
-/

namespace CommandBook.Shell

/-- A double at the start of a text. -/
structure Real where
  value : Float
  rest : Bytes
  /-- The text lies outside of what doubles can tell apart. -/
  beyond : Bool := false

namespace Real

/-- A number as digits write it: `digits` scaled by a power of ten or two. -/
structure Written where
  digits : Nat
  exponent : Int
  rest : Bytes

/-- Digits of a base with a point in or around them; the exponent counts digits behind the point. -/
def significand? (base : Nat) (b : Bytes) : Option Written :=
  let whole := Number.digitsIn base b
  let rest := b.drop whole.length
  let (fraction, rest) := match rest with
    | '.' :: r =>
      let f := Number.digitsIn base r
      if whole.isEmpty && f.isEmpty then ([], rest) else (f, r.drop f.length)
    | r => ([], r)
  if whole.isEmpty && fraction.isEmpty then none
  else some ⟨Number.valueIn base (whole ++ fraction), -fraction.length, rest⟩

/-- An exponent behind a letter, or zero where none stands there. -/
def exponent (letter : Char) (b : Bytes) : Int × Bytes :=
  match b with
  | c :: rest =>
    if c.toLower != letter then (0, b)
    else
      let (negative, ds) := match rest with
        | '-' :: ds => (true, ds)
        | '+' :: ds => (false, ds)
        | ds => (false, ds)
      let digits := ds.takeWhile Char.isDigit
      match decimal? digits with
      | some n => (if negative then -(n : Int) else n, ds.drop digits.length)
      | none => (0, b)
  | [] => (0, [])

/-- The largest exponent that is looked at closely. -/
def farAway : Int := 5000

/-- The double with the given sign that is nearest to a quotient, and whether it is that quotient. -/
def ofQuotient (negative : Bool) (num den : Nat) : Float × Bool :=
  let bits := Decimal.nearest num den
  let x := Float.ofBits (UInt64.ofNat (if negative then bits + Decimal.pow2 63 else bits))
  let exact := match (Decimal.parts x).magnitude with
    | .finite m q => m * Decimal.pow2 q.toNat * den == num * Decimal.pow2 (-q).toNat
    | _ => false
  (x, exact)

/-- Whether a double is so small that it has fewer digits than others. -/
def isSubnormal (x : Float) : Bool :=
  match (Decimal.parts x).magnitude with
  | .finite m _ => m < Decimal.pow2 52
  | _ => false

def isInfinite (x : Float) : Bool := (Decimal.parts x).magnitude == .infinite

/-- The double nearest to digits scaled by a power of a base. -/
def ofWritten (negative : Bool) (base : Nat) (w : Written) (rest : Bytes) : Real :=
  let power (n : Nat) : Nat := if base = 2 then Decimal.pow2 n else Decimal.pow10 n
  let size : Int := (Nat.toDigits base w.digits).length + w.exponent
  let (x, exact) :=
    if w.digits = 0 then ofQuotient negative 0 1
    else if size < -farAway then ((ofQuotient negative 0 1).1, false)
    else if farAway < size then ((ofQuotient negative (Decimal.pow2 1100) 1).1, false)
    else ofQuotient negative (w.digits * power w.exponent.toNat) (power (-w.exponent).toNat)
  { value := x
    rest
    beyond := (w.digits != 0 && isInfinite x) || (isSubnormal x && !exact) }

/-- A text without a word at its start, if it begins so without regard to case. -/
def behindWord? (word : String) (b : Bytes) : Option Bytes :=
  if (b.take word.length).map Char.toLower == word.toList then some (b.drop word.length) else none

/-- The signs behind the word for what is no number. -/
def behindNote (b : Bytes) : Bytes :=
  match b with
  | '(' :: rest =>
    match rest.dropWhile isNamePart with
    | ')' :: rest => rest
    | _ => b
  | b => b

/-- The double at the start of a text; a text that writes none is left as it is. -/
def scan (b : Bytes) : Real :=
  let t := b.dropWhile isSpacing
  let (negative, t) := match t with
    | '-' :: t => (true, t)
    | '+' :: t => (false, t)
    | t => (false, t)
  let special (bits : Nat) (rest : Bytes) : Real :=
    { value := Float.ofBits (UInt64.ofNat (if negative then bits + Decimal.pow2 63 else bits)), rest }
  let none_ : Real := { value := 0, rest := b }
  match behindWord? "infinity" t, behindWord? "inf" t, behindWord? "nan" t with
  | some rest, _, _ => special Decimal.infinityBits rest
  | none, some rest, _ => special Decimal.infinityBits rest
  | none, none, some rest => special (Decimal.infinityBits + Decimal.pow2 51) (behindNote rest)
  | none, none, none =>
    let hexadecimal := match behindWord? "0x" t with
      | some ds => significand? 16 ds
      | none => none
    match hexadecimal with
    | some w =>
      let (e, rest) := exponent 'p' w.rest
      ofWritten negative 2 { w with exponent := 4 * w.exponent + e } rest
    | none =>
      match significand? 10 t with
      | some w =>
        let (e, rest) := exponent 'e' w.rest
        ofWritten negative 10 { w with exponent := w.exponent + e } rest
      | none => none_

end Real

end CommandBook.Shell
