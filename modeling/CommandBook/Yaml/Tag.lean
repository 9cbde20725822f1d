import CommandBook.Yaml.Cursor

/-!
# YAML tags

The kinds of nodes, and which kind a plain scalar has when it carries no tag: the notations of YAML
1.1 for null, truth values, integers, floating point numbers and points in time; any other text is
a text.

## Main definitions

* `Tag`, `Tag.ofUri`
* `Tag.ofPlain` — the kind that a plain scalar shows by its text
-/

namespace CommandBook.Yaml

/-- The kind of a node. -/
inductive Tag where
  | null
  | bool
  | int
  | float
  | binary
  | timestamp
  | omap
  | pairs
  | set
  | str
  | seq
  | map
  | merge
  | value
  | other (uri : String)
deriving DecidableEq, Repr

/-- The common beginning of the standard tags. -/
def standardLeader : String := "tag:yaml.org,2002:"

/-- The standard tags. -/
def standardTags : List (String × Tag) := [
  ("null", .null), ("bool", .bool), ("int", .int), ("float", .float), ("binary", .binary),
  ("timestamp", .timestamp), ("omap", .omap), ("pairs", .pairs), ("set", .set), ("str", .str),
  ("seq", .seq), ("map", .map), ("merge", .merge), ("value", .value)]

namespace Tag

/-- The tag of a full name. -/
def ofUri (uri : String) : Tag :=
  ((standardTags.find? fun e => standardLeader ++ e.1 == uri).map Prod.snd).getD (.other uri)

/-- The full name of a tag. -/
def uri : Tag → String
  | .other uri => uri
  | t => standardLeader ++ ((standardTags.find? fun e => e.2 == t).map Prod.fst).getD ""

/-! ## Notations -/

def nullWords : List String := ["", "~", "null", "Null", "NULL"]

def boolWords : List String :=
  ["yes", "Yes", "YES", "no", "No", "NO", "true", "True", "TRUE", "false", "False", "FALSE",
    "on", "On", "ON", "off", "Off", "OFF"]

/-- A text without its sign. -/
def unsigned : List Char → List Char
  | '+' :: rest => rest
  | '-' :: rest => rest
  | cs => cs

def isDigitOr_ (c : Char) : Bool := c.isDigit || c == '_'

/-- A row of digits and underscores that begins with a digit, and what is behind it. -/
def digitsAt? (cs : List Char) : Option (List Char × List Char) :=
  if cs.head?.any Char.isDigit then some (cs.takeWhile isDigitOr_, cs.dropWhile isDigitOr_)
  else none

/-- A signed exponent at the end of a number, or nothing. -/
def isExponent : List Char → Bool
  | [] => true
  | e :: s :: ds =>
    (e == 'e' || e == 'E') && (s == '+' || s == '-') && !ds.isEmpty && ds.all Char.isDigit
  | _ => false

/-- One or two digits for sixty steps. -/
def isSixtieth : List Char → Bool
  | [d] => d.isDigit
  | [c, d] => '0' ≤ c && c ≤ '5' && d.isDigit
  | _ => false

/-- The parts of a row of sixtieths, each behind a colon; none if there is anything else. -/
def sixtieths? (fuel : Nat) (cs : List Char) : Option Nat :=
  match fuel, cs with
  | _, [] => some 0
  | fuel + 1, ':' :: rest =>
    let part := rest.takeWhile (· != ':')
    if isSixtieth part then (sixtieths? fuel (rest.drop part.length)).map (· + 1) else none
  | _, _ => none

/-- A row of sixtieths, one at least. -/
def areSixtieths (cs : List Char) : Bool := (sixtieths? cs.length cs).any (0 < ·)

/-- A floating point number. -/
def isFloat (cs : List Char) : Bool :=
  let body := unsigned cs
  let word := String.ofList body
  match body with
  | '.' :: rest =>
    [".inf", ".Inf", ".INF"].contains word ||
      (body.length == cs.length &&
        ([".nan", ".NaN", ".NAN"].contains word ||
          (digitsAt? rest).any fun d => isExponent d.2))
  | _ =>
    match digitsAt? body with
    | some (_, '.' :: rest) => isExponent (rest.dropWhile isDigitOr_)
    | some (_, rest) =>
      let sixties := rest.takeWhile (· != '.')
      let fraction := rest.drop sixties.length
      areSixtieths sixties && fraction.head? == some '.' && (fraction.drop 1).all isDigitOr_
    | none => false

/-- An integer: binary, octal, decimal, hexadecimal, or in sixtieths. -/
def isInteger (cs : List Char) : Bool :=
  match unsigned cs with
  | '0' :: 'b' :: rest => !rest.isEmpty && rest.all fun c => c == '0' || c == '1' || c == '_'
  | '0' :: 'x' :: rest =>
    !rest.isEmpty && rest.all fun c =>
      c.isDigit || ('a' ≤ c && c ≤ 'f') || ('A' ≤ c && c ≤ 'F') || c == '_'
  | ['0'] => true
  | '0' :: rest => rest.all fun c => ('0' ≤ c && c ≤ '7') || c == '_'
  | body =>
    match digitsAt? body with
    | some (_, rest) => rest.isEmpty || areSixtieths rest
    | none => false

/-- The parts of a point in time, as rows of digits. -/
structure TimestampText where
  year : List Char
  month : List Char
  day : List Char
  /-- Hour, minute and second. -/
  clock : Option (List Char × List Char × List Char) := none
  fraction : List Char := []
  /-- Sign, hours and minutes of the offset; universal time has none. -/
  zone : Option (Option (Char × List Char × List Char)) := none

/-- Between `least` and `most` digits at the start of a text. -/
def digitRun? (least most : Nat) (cs : List Char) : Option (List Char × List Char) :=
  let ds := (cs.take most).takeWhile Char.isDigit
  if least ≤ ds.length then some (ds, cs.drop ds.length) else none

/-- A text without a given first character. -/
def after? (c : Char) : List Char → Option (List Char)
  | d :: rest => if c == d then some rest else none
  | [] => none

def isSpaceOrTab (c : Char) : Bool := c == ' ' || c == '\t'

/-- The offset from universal time at the end of a point in time. -/
def zone? (t : TimestampText) (cs : List Char) : Option TimestampText :=
  match cs with
  | [] => some t
  | _ =>
    match cs.dropWhile isSpaceOrTab with
    | ['Z'] => some { t with zone := some none }
    | s :: rest =>
      if s == '+' || s == '-' then do
        let (hours, rest) ← digitRun? 1 2 rest
        match rest with
        | [] => some { t with zone := some (some (s, hours, [])) }
        | _ =>
          let (minutes, rest) ← digitRun? 2 2 (← after? ':' rest)
          if rest.isEmpty then some { t with zone := some (some (s, hours, minutes)) } else none
      else none
    | [] => none

/-- The time of day behind a date. -/
def clock? (t : TimestampText) (cs : List Char) : Option TimestampText := do
  let (hour, rest) ← digitRun? 1 2 cs
  let (minute, rest) ← digitRun? 2 2 (← after? ':' rest)
  let (second, rest) ← digitRun? 2 2 (← after? ':' rest)
  let t := { t with clock := some (hour, minute, second) }
  match rest with
  | '.' :: rest =>
    zone? { t with fraction := rest.takeWhile Char.isDigit } (rest.dropWhile Char.isDigit)
  | _ => zone? t rest

/-- The parts of a point in time: a date, and perhaps a time of day behind a `T` or blanks. -/
def timestamp? (cs : List Char) : Option TimestampText := do
  let (year, rest) ← digitRun? 4 4 cs
  let (month, rest) ← digitRun? 1 2 (← after? '-' rest)
  let (day, rest) ← digitRun? 1 2 (← after? '-' rest)
  let t : TimestampText := { year, month, day }
  match rest with
  | [] => some t
  | c :: more =>
    if c == 'T' || c == 't' then clock? t more
    else if isSpaceOrTab c then clock? t (more.dropWhile isSpaceOrTab)
    else none

/-- Whether a text without a tag is a point in time: a date alone needs all its digits. -/
def isTimestamp (cs : List Char) : Bool :=
  match timestamp? cs with
  | some t => t.clock.isSome || (t.month.length == 2 && t.day.length == 2)
  | none => false

/-- A text without the line end behind it, unless it is nothing else. -/
def withoutLineEnd (text : String) : String :=
  match text.toList.reverse with
  | '\n' :: c :: rest => String.ofList (c :: rest).reverse
  | _ => text

/-- The marks that are no scalars. -/
def markWords : List String := ["!", "&", "*"]

/-- The kind that a scalar shows by its text; a line end behind it does not count. -/
def ofPlain (text : String) : Tag :=
  let text := withoutLineEnd text
  let cs := text.toList
  if boolWords.contains text then .bool
  else if isFloat cs then .float
  else if isInteger cs then .int
  else if text == "<<" then .merge
  else if nullWords.contains text then .null
  else if isTimestamp cs then .timestamp
  else if text == "=" then .value
  else if markWords.contains text then .other (standardLeader ++ "yaml")
  else .str

end Tag

end CommandBook.Yaml
