import CommandBook.Decimal.Shortest
import CommandBook.Fault
import CommandBook.Text.Quoted
import CommandBook.Value.Basic

/-!
# The text of a document value

A text stands for itself; any other value is written in a form that shows its kind: `None`, `True`,
`1.5`, `['a', 1]`, `{'k': None}`. Inside a collection texts are quoted.

## Main definitions

* `Value.text` — the text
* `Value.text?` — the same, refused when an integer in it has too many digits
-/

namespace CommandBook

open Decimal

/-- Numbers are written positionally from 0.0001 up to sixteen digits before the point. -/
def Value.numberStyle : Style :=
  { positionalFrom := -4, exponentFrom := 16, nan := "nan", infinity := "inf" }

/-- A number with zeros in front up to a width. -/
def padded (width n : Nat) : String :=
  let ds := numeral n
  String.ofList (List.replicate (width - ds.length) '0' ++ ds)

namespace Date

/-- Year, month and day with hyphens between them. -/
def text (d : Date) : String := s!"{padded 4 d.year}-{padded 2 d.month}-{padded 2 d.day}"

/-- The form inside a collection. -/
def detailed (d : Date) : String :=
  s!"datetime.date({toString d.year}, {toString d.month}, {toString d.day})"

end Date

namespace Timestamp

/-- The offset from universal time as hours and minutes. -/
def offsetText (minutes : Int) : String :=
  let sign := if minutes < 0 then "-" else "+"
  s!"{sign}{padded 2 (minutes.natAbs / 60)}:{padded 2 (minutes.natAbs % 60)}"

/-- Day and time of day with a blank between them; microseconds and offset where there are any. -/
def text (t : Timestamp) : String :=
  let fraction := if t.microsecond = 0 then "" else "." ++ padded 6 t.microsecond
  let offset := match t.offset with
    | none => ""
    | some m => offsetText m
  s!"{t.date.text} {padded 2 t.hour}:{padded 2 t.minute}:{padded 2 t.second}{fraction}{offset}"

/-- The zone inside a collection: whole days and the seconds above them. -/
def zoneDetailed (minutes : Int) : String :=
  if minutes = 0 then "datetime.timezone.utc"
  else
    let days := minutes / 1440
    let seconds := minutes % 1440 * 60
    let parts := (if days = 0 then [] else ["days=" ++ toString days]) ++
      (if seconds = 0 then [] else ["seconds=" ++ toString seconds])
    "datetime.timezone(datetime.timedelta(" ++ String.intercalate ", " parts ++ "))"

/-- The form inside a collection: trailing parts that are zero are left out. -/
def detailed (t : Timestamp) : String :=
  let seconds := if t.second = 0 && t.microsecond = 0 then [] else [t.second]
  let micros := if t.microsecond = 0 then [] else [t.microsecond]
  let fields := [t.date.year, t.date.month, t.date.day, t.hour, t.minute] ++ seconds ++ micros
  let zone := match t.offset with
    | none => []
    | some m => ["tzinfo=" ++ zoneDetailed m]
  "datetime.datetime(" ++ String.intercalate ", " (fields.map toString ++ zone) ++ ")"

end Timestamp

namespace Leaf

/-- The form inside a collection. -/
def detailed : Leaf → String
  | .null => "None"
  | .bool b => if b then "True" else "False"
  | .int n => String.ofList (integer n)
  | .real x => Value.numberStyle.text x
  | .str s => Text.quoted s
  | .bytes bs => Text.quotedBytes bs
  | .date d => d.detailed
  | .time t => t.detailed

/-- The text on its own. -/
def text : Leaf → String
  | .str s => s
  | .date d => d.text
  | .time t => t.text
  | l => l.detailed

/-- Whether the text of a leaf may be written out. -/
def fits : Leaf → Bool
  | .int n => Decimal.fits n
  | _ => true

end Leaf

namespace Value

/-- Texts with a comma and a blank between them. -/
def commas : List String → String := String.intercalate ", "

mutual
/-- The form inside a collection. -/
def detailed : Value → String
  | .leaf l => l.detailed
  | .list items => "[" ++ commas (detailedItems items) ++ "]"
  | .map entries => "\x7b" ++ commas (detailedEntries entries) ++ "\x7d"
  | .set members =>
    if members.isEmpty then "set()" else "\x7b" ++ commas (members.map Leaf.detailed) ++ "\x7d"
  | .pairs entries => "[" ++ commas (detailedPairs entries) ++ "]"
  | .enclosing mapping => if mapping then "\x7b...\x7d" else "[...]"

def detailedItems : List Value → List String
  | [] => []
  | v :: rest => detailed v :: detailedItems rest

def detailedEntries : List (Leaf × Value) → List String
  | [] => []
  | (k, v) :: rest => (k.detailed ++ ": " ++ detailed v) :: detailedEntries rest

def detailedPairs : List (Value × Value) → List String
  | [] => []
  | (a, b) :: rest => ("(" ++ detailed a ++ ", " ++ detailed b ++ ")") :: detailedPairs rest
end

/-- The text of a value on its own. -/
def text : Value → String
  | .leaf l => l.text
  | v => v.detailed

mutual
/-- Whether no integer in a value has too many digits to be written. -/
def fits : Value → Bool
  | .leaf l => l.fits
  | .list items => fitsItems items
  | .map entries => fitsEntries entries
  | .set members => members.all Leaf.fits
  | .pairs entries => fitsPairs entries
  | .enclosing _ => true

def fitsItems : List Value → Bool
  | [] => true
  | v :: rest => fits v && fitsItems rest

def fitsEntries : List (Leaf × Value) → Bool
  | [] => true
  | (k, v) :: rest => k.fits && fits v && fitsEntries rest

def fitsPairs : List (Value × Value) → Bool
  | [] => true
  | (a, b) :: rest => fits a && fits b && fitsPairs rest
end

/-- The text of a value on its own, unless an integer in it is too long to write. -/
def text? (v : Value) : Except Fault String :=
  if v.fits then .ok v.text else .error .numeralTooLong

@[simp] theorem text_str (s : String) : (str s).text = s := rfl

@[simp] theorem text?_str (s : String) : (str s).text? = .ok s := rfl

end Value

/-- The text of a key. -/
def Leaf.text? (l : Leaf) : Except Fault String := (Value.leaf l).text?

end CommandBook
