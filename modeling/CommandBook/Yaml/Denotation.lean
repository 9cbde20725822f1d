import CommandBook.Decimal.Binary64
import CommandBook.Decimal.Written
import CommandBook.Text.Case
import CommandBook.Value.Basic
import CommandBook.Yaml.Tag

/-!
# What YAML scalars denote

The value of a scalar's text by the kind of the scalar: integers in several bases and in sixtieths,
floating point numbers, bytes in base 64, days and points in time. The kind may be shown by the text
or given by a tag; a tagged text need not look like its kind, and then it denotes nothing.

## Main definitions

* `leafOf` — the value of a text of some kind
-/

namespace CommandBook.Yaml

open Decimal

/-- An integer that is written in a base. -/
def integerIn (base : Nat) (cs : List Char) : Except Fault Int :=
  (writtenInteger? base cs).elim (.error .notANumber) .ok

/-- The sum of numbers in sixtieths, most significant first. -/
def sexagesimal (parts : List Int) : Int := parts.foldl (fun n d => n * 60 + d) 0

/-- The value of an integer's text: underscores do not count, the first digits tell the base. -/
def integerOf (text : String) : Except Fault Int := do
  let cs := text.toList.filter (· != '_')
  if cs.isEmpty then throw .emptyNumber
  let body := Tag.unsigned cs
  let n ← match body with
    | ['0'] => pure 0
    | '0' :: 'b' :: rest => integerIn 2 rest
    | '0' :: 'x' :: rest => integerIn 16 rest
    | '0' :: _ => integerIn 8 body
    | [] => throw .emptyNumber
    | _ =>
      if body.contains ':' then do
        let parts ← (Text.splitWhere (· == ':') body).mapM (integerIn 10)
        pure (sexagesimal parts)
      else integerIn 10 body
  return if cs.head? == some '-' then -n else n

/-- The words for numbers that have no digits. -/
def wordOf? (negative : Bool) (word : String) : Option Float :=
  if word == "inf" || word == "infinity" then some (if negative then -1.0 / 0.0 else 1.0 / 0.0)
  else if word == "nan" then some (0.0 / 0.0)
  else none

/-- The power of ten at the end of a number. -/
def exponentOf? : List Char → Option Int
  | [] => some 0
  | 'e' :: digits =>
    let (negative, ds) := splitSign digits
    if ds.isEmpty || !ds.all Char.isDigit then none
    else some (if negative then -(value ds : Int) else value ds)
  | _ => none

/-- A floating point number without underscores, perhaps signed and with blanks around it. -/
def realOf (cs : List Char) : Except Fault Float :=
  let (negative, body) := splitSign (plainText cs)
  match wordOf? negative (String.ofList body) with
  | some x => .ok x
  | none =>
    let whole := body.takeWhile Char.isDigit
    let rest := body.drop whole.length
    let point := rest.head? == some '.'
    let fraction := if point then (rest.drop 1).takeWhile Char.isDigit else []
    let rest := if point then rest.drop (fraction.length + 1) else rest
    match whole ++ fraction, exponentOf? rest with
    | [], _ | _, none => .error .notANumber
    | digits, some e => .ok (ofDecimal negative (value digits) (e - fraction.length))

/-- The sum of floating point numbers in sixtieths, least significant first; a step may be too large
for a floating point number. -/
def sixtiethsFrom (sum : Float) (step : Nat) : List Float → Except Fault Float
  | [] => .ok sum
  | d :: rest =>
    let x := ofInteger step
    if x == 1.0 / 0.0 then .error .stepTooLarge else sixtiethsFrom (sum + d * x) (step * 60) rest

/-- The word for what is no number. -/
def notANumberWord : List Char := ['.', 'n', 'a', 'n']

/-- The value of a floating point number's text. -/
def floatOf (text : String) : Except Fault Float := do
  let cs := (Text.lower text).toList.filter (· != '_')
  if cs.isEmpty then throw .emptyNumber
  let negative := cs.head? == some '-'
  let body := Tag.unsigned cs
  let x ←
    if body == ['.', 'i', 'n', 'f'] then pure (1.0 / 0.0)
    else if body == notANumberWord then return 0.0 / 0.0
    else if body.contains ':' then do
      let parts ← (Text.splitWhere (· == ':') body).mapM realOf
      sixtiethsFrom 0.0 1 parts.reverse
    else realOf body
  return if negative then -1.0 * x else x

/-- The value of a digit of base 64. -/
def sextet? (c : Char) : Option Nat :=
  if 'A' ≤ c && c ≤ 'Z' then some (c.toNat - 0x41)
  else if 'a' ≤ c && c ≤ 'z' then some (c.toNat - 0x61 + 26)
  else if c.isDigit then some (c.toNat - 0x30 + 52)
  else if c == '+' then some 62
  else if c == '/' then some 63
  else none

/-- The bytes of a text in base 64: the sextets read since the last whole group are in `group`,
latest first. Characters that are no digits are skipped, and padding ends a group. -/
def base64 (group : List Nat) (pads : Nat) : List Char → Option (List UInt8)
  | [] => if group.isEmpty then some [] else none
  | '=' :: rest =>
    if 2 ≤ group.length && 4 ≤ group.length + pads + 1 then some []
    else base64 group (if 2 ≤ group.length then pads + 1 else pads) rest
  | c :: rest =>
    match sextet? c, group with
    | none, _ => base64 group pads rest
    | some d, [] => base64 [d] 0 rest
    | some d, [a] => (base64 [d, a] 0 rest).map (UInt8.ofNat (a * 4 + d / 16) :: ·)
    | some d, [b, a] => (base64 [d, b, a] 0 rest).map (UInt8.ofNat (b % 16 * 16 + d / 4) :: ·)
    | some d, b :: _ => (base64 [] 0 rest).map (UInt8.ofNat (b % 4 * 64 + d) :: ·)

/-- The day with these numbers, if the calendar has it. -/
def dateOf (year month day : Nat) : Except Fault Date :=
  let d : Date := { year, month, day }
  if d.isReal then .ok d else .error .impossibleDate

/-- The microseconds that a fraction of a second writes; further digits do not count. -/
def microseconds (digits : List Char) : Nat :=
  let ds := digits.take 6
  value ds * Decimal.pow10 (6 - ds.length)

/-- The value of a point in time's text. -/
def timestampOf (text : String) : Except Fault Leaf := do
  match Tag.timestamp? (Tag.withoutLineEnd text).toList with
  | none => throw .notATimestamp
  | some t =>
    let (year, month, day) := (value t.year, value t.month, value t.day)
    match t.clock with
    | none => return .date (← dateOf year month day)
    | some (hour, minute, second) =>
      let offset ← match t.zone with
        | none => pure none
        | some none => pure (some 0)
        | some (some (sign, hours, minutes)) =>
          let m : Int := value hours * 60 + value minutes
          if 1440 ≤ m then throw .impossibleDate
          else pure (some (if sign == '-' then -m else m))
      let date ← dateOf year month day
      let (hour, minute, second) := (value hour, value minute, value second)
      if 24 ≤ hour || 60 ≤ minute || 60 ≤ second then throw .impossibleDate
      return .time
        { date, hour, minute, second, microsecond := microseconds t.fraction, offset }

/-- The truth value of a text. -/
def truthOf (text : String) : Except Fault Bool :=
  let word := Text.lower text
  if ["yes", "true", "on"].contains word then .ok true
  else if ["no", "false", "off"].contains word then .ok false
  else .error .notATruthValue

/-- The value of a scalar of some kind. -/
def leafOf (tag : Tag) (text : String) : Except Failure Leaf :=
  match tag with
  | .null => .ok .null
  | .bool => ((truthOf text).map .bool).mapError .fault
  | .int => ((integerOf text).map .int).mapError .fault
  | .float => ((floatOf text).map .real).mapError .fault
  | .timestamp => (timestampOf text).mapError .fault
  | .binary =>
    match text.toList.all (·.toNat < 0x80), base64 [] 0 text.toList with
    | true, some bs => .ok (.bytes bs)
    | _, _ => .error (.problem .badBase64)
  | .str => .ok (.str text)
  | t => .error (.problem (.unknownTag t.uri))

end CommandBook.Yaml
