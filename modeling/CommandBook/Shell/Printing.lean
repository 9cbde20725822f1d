import CommandBook.Shell.Real

/-!
# Printed arguments

How the commands `echo` and `printf` turn their arguments into text: escape sequences, and the
conversions of a format, which is used again as long as arguments are left.

## Main definitions

* `unescape` — the text of an argument of `echo`
* `Printing.print` — the text of a format and its arguments, with what was wrong on the way
-/

namespace CommandBook.Shell

def isOctal (c : Char) : Bool := '0' ≤ c && c ≤ '7'

/-- The value of octal digits. -/
def octal (ds : Bytes) : Nat := ds.foldl (fun n c => n * 8 + (c.toNat - 48)) 0

/-- The escape sequence behind a backslash: the character that it writes and how many characters it
takes. A backslash that starts none stands for itself. -/
def escape (cs : Bytes) : Char × Nat :=
  match cs with
  | 'a' :: _ => ('\x07', 1)
  | 'b' :: _ => ('\x08', 1)
  | 'e' :: _ => ('\x1b', 1)
  | 'f' :: _ => ('\x0c', 1)
  | 'n' :: _ => ('\n', 1)
  | 'r' :: _ => ('\r', 1)
  | 't' :: _ => ('\t', 1)
  | 'v' :: _ => ('\x0b', 1)
  | '\\' :: _ => ('\\', 1)
  | cs =>
    let ds := (cs.take 3).takeWhile isOctal
    if ds.isEmpty then ('\\', 0) else (Bytes.ofNat (octal ds), ds.length)

/-- A text with its escape sequences replaced, and whether it asked to stop all output. Behind a
zero, three more octal digits count. -/
def unescapeWithin : Nat → Bytes → Bytes × Bool
  | 0, _ => ([], false)
  | n + 1, cs =>
    let next (c : Char) (rest : Bytes) : Bytes × Bool :=
      let r := unescapeWithin n rest
      (c :: r.1, r.2)
    match cs with
    | [] => ([], false)
    | '\\' :: 'c' :: _ => ([], true)
    | '\\' :: '0' :: rest =>
      let ds := (rest.take 3).takeWhile isOctal
      next (Bytes.ofNat (octal ds)) (rest.drop ds.length)
    | '\\' :: rest =>
      let (c, used) := escape rest
      next c (rest.drop used)
    | c :: rest => next c rest

/-- A text with its escape sequences replaced, and whether it asked to stop all output. -/
def unescape (cs : Bytes) : Bytes × Bool := unescapeWithin (cs.length + 1) cs

/-- The output of `echo` for its arguments. -/
def echoText (args : List Bytes) : Bytes :=
  let (silent, args) := match args with
    | ['-', 'n'] :: rest => (true, rest)
    | args => (false, args)
  let rec go : List Bytes → Bytes
    | [] => if silent then [] else ['\n']
    | [a] =>
      let (t, stop) := unescape a
      if stop || silent then t else t ++ ['\n']
    | a :: rest =>
      let (t, stop) := unescape a
      if stop then t else t ++ ' ' :: go rest
  go args

/-! ## Formats -/

namespace Printing

/-- A conversion: its flags, its least width, and the number of digits or characters that it
shows. -/
structure Conversion where
  flags : Bytes := []
  width : Int := 0
  precision : Option Nat := none

/-- What has been printed so far, which arguments are left, and what was wrong. -/
structure Progress where
  output : Bytes := []
  arguments : List Bytes
  complaints : List Bytes := []
  stopped : Bool := false
  /-- The format itself is wrong. -/
  malformed : Bool := false

/-- Fills a text up to a width, at the left unless the flags say otherwise. -/
def pad (c : Conversion) (text : Bytes) : Bytes :=
  let left := c.flags.contains '-' || c.width < 0
  let fill := List.replicate (c.width.natAbs - text.length) ' '
  if left then text ++ fill else fill ++ text

/-- The digits of a number in a base. -/
def digits (base : Nat) (upper : Bool) (n : Nat) : Bytes :=
  let ds := Nat.toDigits base n
  if upper then ds.map Char.toUpper else ds

/-- A number with sign and fill. -/
def number (c : Conversion) (sign mark ds : Bytes) : Bytes :=
  let ds := match c.precision with
    | some p =>
      let ds := if p = 0 && ds == ['0'] then [] else ds
      List.replicate (p - ds.length) '0' ++ ds
    | none => ds
  let left := c.flags.contains '-' || c.width < 0
  let zeros := if c.flags.contains '0' && !left && c.precision.isNone then
      List.replicate (c.width.natAbs - (sign.length + mark.length + ds.length)) '0'
    else []
  pad c (sign ++ mark ++ zeros ++ ds)

/-- The sign that a whole number shows. -/
def signOf (c : Conversion) (n : Int) : Bytes :=
  if n < 0 then ['-'] else if c.flags.contains '+' then ['+']
  else if c.flags.contains ' ' then [' '] else []

/-- Takes a complaint about an argument along that was only read in part. -/
def checked (a rest : Bytes) (beyond : Bool) (p : Progress) : Progress :=
  let complain (reason : String) : Progress :=
    { p with complaints := p.complaints ++ [a ++ ": ".toList ++ reason.toList] }
  if rest.isEmpty then if beyond then complain "Numerical result out of range" else p
  else if rest.length = a.length then complain "expected numeric value"
  else complain "not completely converted"

/-- The number of a character that stands behind a quote. -/
def quotedNumber? : Bytes → Option Nat
  | '\'' :: rest => some (rest.head?.getD '\x00').toNat
  | '"' :: rest => some (rest.head?.getD '\x00').toNat
  | _ => none

/-- The next argument as an integer of 64 bits: a character behind a quote, or a number. What is out
of range becomes the nearest number; without a sign, what is negative wraps. -/
def takeNumber (signed : Bool) (p : Progress) : Int × Progress :=
  match p.arguments with
  | [] => (0, p)
  | a :: rest =>
    let p := { p with arguments := rest }
    match quotedNumber? a with
    | some n => (n, p)
    | none =>
      let n := Number.scan 0 a
      let near :=
        if signed then Number.clamp n.value
        else if Number.largestUnsigned < n.value.natAbs then Number.largestUnsigned
        else n.value % (Decimal.pow2 64 : Int)
      let beyond := if signed then near != n.value else Number.largestUnsigned < n.value.natAbs
      (near, checked a n.rest beyond p)

/-- The next argument as a double. -/
def takeReal (p : Progress) : Float × Progress :=
  match p.arguments with
  | [] => (0, p)
  | a :: rest =>
    let p := { p with arguments := rest }
    match quotedNumber? a with
    | some n => (Decimal.ofInteger n, p)
    | none =>
      let x := Real.scan a
      (x.value, checked a x.rest x.beyond p)

/-- Digits with a point before the last of them. -/
def withPoint (c : Conversion) (places : Nat) (n : Nat) : Bytes :=
  let ds := Decimal.numeral n
  let ds := List.replicate (places + 1 - ds.length) '0' ++ ds
  ds.take (ds.length - places) ++
    (if places = 0 && !c.flags.contains '#' then [] else ['.']) ++ ds.drop (ds.length - places)

/-- The digits of `m * 2 ^ q` with a number of places behind the point. -/
def positional (c : Conversion) (places : Nat) (m : Nat) (q : Int) : Bytes :=
  withPoint c places (Decimal.roundDiv (m * Decimal.pow2 q.toNat * Decimal.pow10 places)
    (Decimal.pow2 (-q).toNat))

/-- One digit more than `places` of `m * 2 ^ q`, and the exponent of the first. -/
def leading (places : Nat) (m : Nat) (q : Int) : Nat × Int :=
  if m = 0 then (0, 0)
  else
    let e := Decimal.leadingExponent m q
    let scale : Int := e - places
    let n := Decimal.roundDiv (m * Decimal.pow2 q.toNat * Decimal.pow10 (-scale).toNat)
      (Decimal.pow2 (-q).toNat * Decimal.pow10 scale.toNat)
    if n = Decimal.pow10 (places + 1) then (Decimal.pow10 places, e + 1) else (n, e)

def exponentText (mark : Char) (e : Int) : Bytes :=
  let ds := Decimal.numeral e.natAbs
  mark :: (if e < 0 then '-' else '+') :: (if ds.length < 2 then '0' :: ds else ds)

/-- The digits of `m * 2 ^ q` with an exponent. -/
def exponential (c : Conversion) (mark : Char) (places : Nat) (m : Nat) (q : Int) : Bytes :=
  let (n, e) := leading places m q
  withPoint c places n ++ exponentText mark e

/-- A text with a point, without the zeros at its end. -/
def withoutZeros (c : Conversion) (b : Bytes) : Bytes :=
  if c.flags.contains '#' || !b.contains '.' then b
  else ((b.reverse.dropWhile (· == '0')).dropWhile (· == '.')).reverse

/-- The digits of `m * 2 ^ q` in the shorter of the two forms. -/
def general (c : Conversion) (mark : Char) (digits : Nat) (m : Nat) (q : Int) : Bytes :=
  let places := digits - 1
  let (n, e) := leading places m q
  if e < -4 || (places : Int) < e then withoutZeros c (withPoint c places n) ++ exponentText mark e
  else withoutZeros c (positional c ((places : Int) - e).toNat m q)

/-- The hexadecimal digits of `m * 2 ^ q`: the leading one, those behind the point, and the exponent
of two. -/
def hexadecimal (c : Conversion) (m : Nat) (q : Int) : Bytes :=
  let e : Int := if m = 0 then 0 else q + 52
  let places := min (c.precision.getD 13) 13
  let n := Decimal.roundDiv m (Decimal.pow2 (4 * (13 - places)))
  let one := Decimal.pow2 (4 * places)
  let ds := digits 16 false (n % one)
  let fraction := List.replicate (places - ds.length) '0' ++ if places = 0 then [] else ds
  let fraction := match c.precision with
    | none => (fraction.reverse.dropWhile (· == '0')).reverse
    | some p => fraction ++ List.replicate (p - 13) '0'
  digits 16 false (n / one) ++
    (if fraction.isEmpty && !c.flags.contains '#' then [] else '.' :: fraction) ++
    'p' :: (if e < 0 then '-' else '+') :: Decimal.numeral e.natAbs

/-- A double with sign and fill. -/
def real (c : Conversion) (letter : Char) (x : Float) : Bytes :=
  let parts := Decimal.parts x
  let cased (t : Bytes) : Bytes := if letter.isUpper then t.map Char.toUpper else t
  let sign := if parts.negative then ['-'] else signOf c 0
  let places := c.precision.getD 6
  let free := { c with precision := none }
  match parts.magnitude with
  | .nan => pad c (sign ++ cased "nan".toList)
  | .infinite => pad c (sign ++ cased "inf".toList)
  | .finite m q =>
    match letter.toLower with
    | 'a' => number free sign (cased ['0', 'x']) (cased (hexadecimal c m q))
    | 'f' => number free sign [] (positional c places m q)
    | 'e' => number free sign [] (exponential c letter places m q)
    | _ => number free sign [] (general c (if letter == 'G' then 'E' else 'e') (max places 1) m q)

def takeText (p : Progress) : Bytes × Progress :=
  match p.arguments with
  | [] => ([], p)
  | a :: rest => (a, { p with arguments := rest })

/-- The part of a text that a precision leaves. -/
def cut (c : Conversion) (t : Bytes) : Bytes :=
  match c.precision with
  | some p => t.take p
  | none => t

/-- The octal digits of a number; the flag for marks makes the first one a zero. -/
def octalDigits (c : Conversion) (n : Nat) : Bytes :=
  let padded := number { precision := c.precision } [] [] (digits 8 false n)
  if c.flags.contains '#' && padded.head? != some '0' then '0' :: padded else padded

/-- One conversion; nothing if its letter is none. -/
def convert (c : Conversion) (letter : Char) (p : Progress) : Option Progress :=
  let put (t : Bytes) (p : Progress) : Progress := { p with output := p.output ++ t }
  let unsigned (base : Nat) (mark : Bytes) : Progress :=
    let (v, p) := takeNumber false p
    let n := v.toNat
    put (number c [] (if c.flags.contains '#' && n != 0 then mark else [])
      (digits base (letter == 'X') n)) p
  match letter with
  | 's' =>
    let (t, p) := takeText p
    some (put (pad c (cut c t)) p)
  | 'b' =>
    let (t, p) := takeText p
    let (t, stop) := unescape t
    some { put (pad c (cut c t)) p with stopped := stop }
  | 'c' =>
    let (t, p) := takeText p
    some (put (pad c [t.head?.getD '\x00']) p)
  | 'd' | 'i' =>
    let (v, p) := takeNumber true p
    some (put (number c (signOf c v) [] (digits 10 false v.natAbs)) p)
  | 'u' => some (unsigned 10 [])
  | 'o' =>
    let (v, p) := takeNumber false p
    let ds := octalDigits c v.toNat
    -- the digits have used up the precision
    let c := if c.precision.isSome then { c with flags := c.flags.filter (· != '0') } else c
    some (put (number { c with precision := none } [] [] ds) p)
  | 'x' => some (unsigned 16 ['0', 'x'])
  | 'X' => some (unsigned 16 ['0', 'X'])
  | 'a' | 'A' | 'e' | 'E' | 'f' | 'F' | 'g' | 'G' =>
    let (x, p) := takeReal p
    some (put (real c letter x) p)
  | _ => none

/-- A width or precision: digits, or an argument. -/
def size (cs : Bytes) (p : Progress) : Int × Bytes × Progress :=
  match cs with
  | '*' :: rest =>
    let (v, p) := takeNumber true p
    (v.bmod (Decimal.pow2 32), rest, p)
  | cs =>
    let ds := cs.takeWhile fun c => c.isDigit || c == '*'
    ((decimal? ds).getD 0, cs.drop ds.length, p)

/-- Prints a format once; an unknown conversion ends everything. -/
def once : Nat → Bytes → Progress → Progress
  | 0, _, p => p
  | n + 1, cs, p =>
    if p.stopped then p
    else
      let put (c : Char) : Progress := { p with output := p.output ++ [c] }
      match cs with
      | [] => p
      | '\\' :: rest =>
        let (c, used) := escape rest
        once n (rest.drop used) (put c)
      | '%' :: '%' :: rest => once n rest (put '%')
      | '%' :: rest =>
        let flags := rest.takeWhile "#-+ 0".toList.contains
        let (width, rest', p) := size (rest.drop flags.length) p
        let (precision, rest', p) := match rest' with
          | '.' :: r =>
            let (v, r, p) := size r p
            (if v < 0 then none else some v.toNat, r, p)
          | r => (none, r, p)
        match rest' with
        | letter :: after =>
          match convert { flags, width, precision } letter p with
          | some p => once n after p
          | none =>
            let directive := '%' :: rest.take (rest.length - after.length)
            { p with
              stopped := true
              malformed := true
              complaints := p.complaints ++ [directive ++ ": invalid directive".toList] }
        | [] =>
          { p with
            stopped := true
            malformed := true
            complaints := p.complaints ++ ["missing format character".toList] }
      | c :: rest => once n rest (put c)

/-- Prints a format as often as it takes arguments. -/
def repeated : Nat → Bytes → Progress → Progress
  | 0, _, p => p
  | n + 1, format, p =>
    let q := once (format.length + 1) format p
    if q.stopped || q.arguments.isEmpty || q.arguments.length = p.arguments.length then q
    else repeated n format q

/-- What printing a format with its arguments comes to. -/
def print (format : Bytes) (arguments : List Bytes) : Progress :=
  repeated (arguments.length + 1) format { arguments }

end Printing

end CommandBook.Shell
