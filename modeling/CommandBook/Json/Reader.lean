import CommandBook.Decimal.Binary64
import CommandBook.Decimal.Numeral
import CommandBook.Json.Basic
import CommandBook.OrderedMap
import CommandBook.Text.Hex

/-!
# Reading JSON

A pushdown machine that takes one character at a time. Its stack holds the collections that are
open, its mode says what may come next, so reading a text that was put together from parts is
running the machine over the parts in turn.

The language is JSON with three more numbers, `NaN`, `Infinity` and `-Infinity`. A name that occurs
twice in an object keeps its first place and its last value. An error tells its cause and the
number of characters before the place where it lies.

Two things are left out. A text is a row of characters here, so an escape that writes a surrogate on
its own, which a text of code points would keep, gives the replacement character: whatever is said
of texts that are read is said of texts without such escapes. And collections may be nested to any
depth, where a reader that calls itself stops at the limit of its recursion.

## Main definitions

* `State`, `State.step`, `State.finish` — the machine
* `read` — the value of a text
* `ReadError.message` — the report of an error, with line and column

## Main statements

* `run_append` — reading goes part by part
-/

namespace CommandBook.Json

open Decimal

/-! ## Errors -/

/-- What is wrong at some place of a text. -/
inductive ReadCause where
  | byteOrderMark
  | valueExpected
  | nameExpected
  | colonExpected
  | commaExpected
  | extraData
  | controlCharacter
  | unterminatedString
  | badEscape
  | badUnicodeEscape
deriving DecidableEq, Repr

/-- Why a text has no value: it is not JSON, or one of its integers is too long to read. -/
inductive ReadFailure where
  | malformed (cause : ReadCause) (offset : Nat)
  | numeralTooLong
deriving DecidableEq, Repr

/-- A text that is not JSON: the cause and its place, lines and columns counted from one. -/
structure ReadError where
  cause : ReadCause
  line : Nat
  column : Nat
  offset : Nat
deriving DecidableEq, Repr

def ReadCause.message : ReadCause → String
  | .byteOrderMark => "Unexpected UTF-8 BOM (decode using utf-8-sig)"
  | .valueExpected => "Expecting value"
  | .nameExpected => "Expecting property name enclosed in double quotes"
  | .colonExpected => "Expecting ':' delimiter"
  | .commaExpected => "Expecting ',' delimiter"
  | .extraData => "Extra data"
  | .controlCharacter => "Invalid control character at"
  | .unterminatedString => "Unterminated string starting at"
  | .badEscape => "Invalid \\escape"
  | .badUnicodeEscape => "Invalid \\uXXXX escape"

/-- The place behind the first `offset` characters of a text. -/
def ReadError.locate (cause : ReadCause) (cs : List Char) (offset : Nat) : ReadError :=
  let before := cs.take offset
  { cause, offset
    line := before.count '\n' + 1
    column := (before.reverse.takeWhile (· != '\n')).length + 1 }

def ReadError.message (e : ReadError) : String :=
  s!"{e.cause.message}: line {e.line} column {e.column} (char {e.offset})"

/-! ## Numbers -/

/-- The number at the start of a row of characters and how many characters it takes. -/
def numberAt? (cs : List Char) : Option (Except ReadFailure Json × Nat) :=
  let negative := cs.head? == some '-'
  let body := if negative then cs.drop 1 else cs
  -- nothing goes on behind a leading zero
  let whole := if body.head? == some '0' then ['0'] else body.takeWhile Char.isDigit
  if whole.isEmpty then none
  else
    let rest := body.drop whole.length
    let fraction := if rest.head? == some '.' then (rest.drop 1).takeWhile Char.isDigit else []
    -- a point without digits behind it is no part of the number, nor is such an `e` below
    let rest := if fraction.isEmpty then rest else rest.drop (fraction.length + 1)
    let marked := rest.head? == some 'e' || rest.head? == some 'E'
    let sign := ((rest.drop 1).take 1).filter fun c => c == '-' || c == '+'
    let exponent := if marked then (rest.drop (1 + sign.length)).takeWhile Char.isDigit else []
    let rest := if exponent.isEmpty then rest else rest.drop (1 + sign.length + exponent.length)
    let used := cs.length - rest.length
    if fraction.isEmpty && exponent.isEmpty then
      if maxDigits < whole.length then some (.error .numeralTooLong, used)
      else
        let n : Int := value whole
        some (.ok (.int (if negative then -n else n)), used)
    else
      let e : Int := value exponent
      let e := (if sign == ['-'] then -e else e) - fraction.length
      some (.ok (.real (ofDecimal negative (value (whole ++ fraction)) e)), used)

/-! ## Strings -/

/-- The text of a row of code points in which characters beyond the first plane may be written as
a high and a low surrogate. A surrogate on its own is no character; the replacement character
stands for it. -/
def joinSurrogates : List Nat → List Char
  | [] => []
  | [n] => [if 0xD800 ≤ n && n < 0xE000 then '\uFFFD' else Char.ofNat n]
  | n :: m :: rest =>
    if 0xD800 ≤ n && n < 0xDC00 && 0xDC00 ≤ m && m < 0xE000 then
      Char.ofNat (0x10000 + (n - 0xD800) * 0x400 + (m - 0xDC00)) :: joinSurrogates rest
    else
      (if 0xD800 ≤ n && n < 0xE000 then '\uFFFD' else Char.ofNat n) :: joinSurrogates (m :: rest)

/-- The character that a one-letter escape stands for. -/
def escaped? (c : Char) : Option Char :=
  match c with
  | '"' => some '"'
  | '\\' => some '\\'
  | '/' => some '/'
  | 'b' => some '\x08'
  | 'f' => some '\x0C'
  | 'n' => some '\n'
  | 'r' => some '\r'
  | 't' => some '\t'
  | _ => none

/-! ## The machine -/

/-- A collection that is open, its latest entry first in an array. -/
inductive Frame where
  | items (done : List Json)
  /-- The members so far and the name of the one being read. -/
  | member (done : List (String × Json)) (name : String)

/-- What a string that is being read will be: a value, or the next name of an object. -/
inductive Owner where
  | value
  | name (done : List (String × Json))

/-- How far an escape has been read. -/
inductive Escape where
  | none
  | slash
  /-- The offset of the letter `u` and the value and number of the digits so far. -/
  | unicode (start : Nat) (value count : Nat)

/-- What may come next. -/
inductive Mode where
  /-- A value, or the closing bracket of an array that has just been opened. -/
  | value (closable : Bool)
  /-- A name, or the closing brace of an object that has just been opened. -/
  | name (done : List (String × Json)) (closable : Bool)
  | colon (done : List (String × Json)) (name : String)
  /-- A comma or the end of the innermost collection. -/
  | next
  /-- Nothing more. -/
  | complete (v : Json)
  /-- The rest of a string that began at offset `start`; code points latest first. -/
  | string (owner : Owner) (start : Nat) (points : List Nat) (escape : Escape)
  /-- The rest of a number that began at offset `start`; characters latest first. -/
  | number (start : Nat) (digits : List Char)
  /-- The letters `left` of a word that began at offset `start` and stands for `v`. -/
  | word (start : Nat) (left : List Char) (v : Json)
  | failed (e : ReadFailure)

/-- The machine: how many characters it has taken, the open collections and the mode. -/
structure State where
  offset : Nat
  stack : List Frame
  mode : Mode

namespace State

/-- The machine before the first character. -/
def initial : State := ⟨0, [], .value false⟩

def fail (s : State) (cause : ReadCause) (offset : Nat) : State :=
  { s with mode := .failed (.malformed cause offset) }

/-- Puts a finished value where it belongs. -/
def deliver (s : State) (v : Json) : State :=
  match s.stack with
  | [] => { s with mode := .complete v }
  | .items done :: rest => { s with stack := .items (v :: done) :: rest, mode := .next }
  | .member done name :: rest =>
    { s with stack := .member (insertEntry name v done) name :: rest, mode := .next }

/-- The first character of a value. -/
def begin (s : State) (closable : Bool) (c : Char) : State :=
  if isGap c then s
  else
    match c with
    | '"' => { s with mode := .string .value s.offset [] .none }
    | '[' => { s with stack := .items [] :: s.stack, mode := .value true }
    | '\x7b' => { s with mode := .name [] true }
    | 'n' => { s with mode := .word s.offset ['u', 'l', 'l'] .null }
    | 't' => { s with mode := .word s.offset ['r', 'u', 'e'] (.bool true) }
    | 'f' => { s with mode := .word s.offset ['a', 'l', 's', 'e'] (.bool false) }
    | 'N' => { s with mode := .word s.offset ['a', 'N'] (.real (0.0 / 0.0)) }
    | 'I' =>
      { s with mode := .word s.offset ['n', 'f', 'i', 'n', 'i', 't', 'y'] (.real (1.0 / 0.0)) }
    | ']' =>
      match closable, s.stack with
      | true, .items _ :: rest => { s with stack := rest }.deliver (.arr [])
      | _, _ => s.fail .valueExpected s.offset
    | _ =>
      if c == '-' || c.isDigit then { s with mode := .number s.offset [c] }
      else s.fail .valueExpected s.offset

/-- A character where a name is due. -/
def beginName (s : State) (done : List (String × Json)) (closable : Bool) (c : Char) : State :=
  if isGap c then s
  else if c == '"' then { s with mode := .string (.name done) s.offset [] .none }
  else if c == '\x7d' && closable then s.deliver (.obj [])
  else s.fail .nameExpected s.offset

/-- A character behind an entry of a collection. -/
def afterEntry (s : State) (c : Char) : State :=
  if isGap c then s
  else
    match c, s.stack with
    | ',', .items _ :: _ => { s with mode := .value false }
    | ']', .items done :: rest => { s with stack := rest }.deliver (.arr done.reverse)
    | ',', .member done _ :: rest => { s with stack := rest, mode := .name done false }
    | '\x7d', .member done _ :: rest => { s with stack := rest }.deliver (.obj done)
    | _, _ => s.fail .commaExpected s.offset

/-- A character of a string that is not part of an escape. -/
def plain (s : State) (owner : Owner) (start : Nat) (points : List Nat) (c : Char) : State :=
  if c == '"' then
    let text := String.ofList (joinSurrogates points.reverse)
    match owner with
    | .value => s.deliver (.str text)
    | .name done => { s with mode := .colon done text }
  else if c == '\\' then { s with mode := .string owner start points .slash }
  else if c.toNat < 0x20 then s.fail .controlCharacter s.offset
  else { s with mode := .string owner start (c.toNat :: points) .none }

/-- A character of a string. An escape of four digits ends with the character behind it. -/
def inString (s : State) (owner : Owner) (start : Nat) (points : List Nat) (c : Char) :
    Escape → State
  | .none => s.plain owner start points c
  | .slash =>
    if c == 'u' then { s with mode := .string owner start points (.unicode s.offset 0 0) }
    else
      match escaped? c with
      | some d => { s with mode := .string owner start (d.toNat :: points) .none }
      | none => s.fail .badEscape (s.offset - 1)
  | .unicode opened v count =>
    if count = 4 then s.plain owner start (v :: points) c
    else
      match Text.hexValue? c with
      | some d =>
        { s with mode := .string owner start points (.unicode opened (v * 16 + d) (count + 1)) }
      | none => s.fail .badUnicodeEscape opened

/-- A character behind the last one of a value or of a name. -/
def between (s : State) (c : Char) : State :=
  match s.mode with
  | .next => s.afterEntry c
  | .complete _ => if isGap c then s else s.fail .extraData s.offset
  | _ => s

/-- Ends a number. Characters that look like more of it but are not are an error at the first of
them, as any other character would be there. -/
def closeNumber (s : State) (start : Nat) (digits : List Char) : State :=
  match numberAt? digits with
  | none => s.fail .valueExpected start
  | some (.error e, _) => { s with mode := .failed e }
  | some (.ok v, used) =>
    match digits.drop used with
    | [] => s.deliver v
    | c :: _ =>
      let there := ({ s with offset := start + used }.deliver v).between c
      { there with offset := s.offset }

/-- Characters that may stand in a number. -/
def isNumberPart (c : Char) : Bool :=
  c.isDigit || c == '.' || c == 'e' || c == 'E' || c == '+' || c == '-'

/-- Takes one character, before the count goes up. -/
def take (s : State) (c : Char) : State :=
  match s.mode with
  | .failed _ => s
  | .value closable => s.begin closable c
  | .name done closable => s.beginName done closable c
  | .colon done name =>
    if isGap c then s
    else if c == ':' then { s with stack := .member done name :: s.stack, mode := .value false }
    else s.fail .colonExpected s.offset
  | .next => s.between c
  | .complete _ => s.between c
  | .string owner start points escape => s.inString owner start points c escape
  | .number start digits =>
    if c == 'I' && digits == ['-'] then
      { s with mode := .word start ['n', 'f', 'i', 'n', 'i', 't', 'y'] (.real (-1.0 / 0.0)) }
    else if isNumberPart c then { s with mode := .number start (c :: digits) }
    else (s.closeNumber start digits.reverse).between c
  | .word start left v =>
    match left with
    | d :: more =>
      if c == d then
        if more.isEmpty then s.deliver v else { s with mode := .word start more v }
      else s.fail .valueExpected start
    | [] => s

/-- Takes one character. -/
def step (s : State) (c : Char) : State :=
  let t := s.take c
  { t with offset := s.offset + 1 }

/-- Takes a row of characters. -/
def run (s : State) (cs : List Char) : State := cs.foldl step s

theorem run_append (s : State) (as bs : List Char) : s.run (as ++ bs) = (s.run as).run bs :=
  List.foldl_append

/-- What the machine has read when the text ends. -/
def finish (s : State) : Except ReadFailure Json :=
  let s := match s.mode with
    | .number start digits => s.closeNumber start digits.reverse
    | _ => s
  match s.mode with
  | .failed e => .error e
  | .complete v => .ok v
  | .value _ => .error (.malformed .valueExpected s.offset)
  | .name _ _ => .error (.malformed .nameExpected s.offset)
  | .colon _ _ => .error (.malformed .colonExpected s.offset)
  | .next => .error (.malformed .commaExpected s.offset)
  | .string _ start _ escape =>
    match escape with
    | .unicode opened _ _ => .error (.malformed .badUnicodeEscape opened)
    | _ => .error (.malformed .unterminatedString start)
  | .number start _ => .error (.malformed .valueExpected start)
  | .word start _ _ => .error (.malformed .valueExpected start)

end State

/-- The value of a row of characters. -/
def readChars (cs : List Char) : Except ReadFailure Json :=
  if cs.head? == some '\uFEFF' then .error (.malformed .byteOrderMark 0)
  else (State.initial.run cs).finish

/-- The value of a text. -/
def read (s : String) : Except ReadFailure Json := readChars s.toList

end CommandBook.Json
