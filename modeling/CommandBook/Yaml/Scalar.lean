import CommandBook.Decimal.Power
import CommandBook.Text.Hex
import CommandBook.Yaml.Cursor

/-!
# YAML scalars

The text of a scalar in each of its written forms: plain, between quotes, and as an indented block.
Line ends inside a scalar are folded: one becomes a blank, more than one lose the first; a block may
keep them all.

## Termination

Each loop takes at least one character a round, so the number of characters that are left bounds
the rounds. The loops count down from it.

## Main definitions

* `plainScalar`, `quotedScalar`, `blockScalar`
-/

namespace CommandBook.Yaml

/-- What a scalar's line break and the breaks behind it amount to when lines are folded. -/
def foldBreaks (first : Char) (more : List Char) : List Char :=
  if first != '\n' then first :: more else if more.isEmpty then [' '] else more

/-! ## Plain scalars -/

/-- A mark that ends a plain scalar inside brackets. -/
def isFlowMark (c : Char) : Bool :=
  c == ',' || c == '[' || c == ']' || c == '\x7b' || c == '\x7d'

/-- How many characters a plain scalar takes on a line before a blank or its end. -/
def plainRun (flow : Bool) : List Char → Nat
  | [] => 0
  | c :: rest =>
    if endsToken (some c) then 0
    else if c == ':' && (endsToken rest.head? || (flow && rest.head?.any isFlowMark)) then 0
    else if flow && (isFlowMark c || c == '?') then 0
    else plainRun flow rest + 1

/-- The line breaks from here on, with blanks between them skipped; none when a document separator
comes first. -/
def plainBreaks : (fuel : Nat) → Cursor → List Char → Option (List Char) × Cursor
  | 0, cur, breaks => (some breaks, cur)
  | fuel + 1, cur, breaks =>
    let cur := cur.skipBlanks
    match cur.lineBreak? with
    | none => (some breaks, cur)
    | some (b, next) =>
      if next.atSeparator then (none, next) else plainBreaks fuel next (breaks ++ [b])

/-- What stands between two runs of a plain scalar. -/
structure PlainGap where
  /-- The characters it contributes; none where the scalar cannot go on. -/
  text : Option (List Char)
  /-- Whether it crosses the end of a line. -/
  crossed : Bool
  behind : Cursor

/-- The gap behind a run of a plain scalar. -/
def plainGap (cur : Cursor) : PlainGap :=
  let (blanks, behind) := cur.takeWhile (· == ' ')
  match behind.lineBreak? with
  | none => ⟨if blanks.isEmpty then none else some blanks, false, behind⟩
  | some (first, next) =>
    if next.atSeparator then ⟨none, true, next⟩
    else
      let (more, behind) := plainBreaks (next.rest.length + 1) next []
      ⟨more.map (foldBreaks first), true, behind⟩

/-- A plain scalar: its text, whether it ended behind the end of a line, and the place there. -/
structure PlainScalar where
  text : List Char
  crossed : Bool
  behind : Cursor

/-- The runs of a plain scalar from here on, behind the text read so far. -/
def plainRuns (flow : Bool) (indent : Int) : (fuel : Nat) → List Char → List Char → PlainScalar →
    PlainScalar
  | 0, _, _, read => read
  | fuel + 1, text, gap, read =>
    let cur := read.behind
    let run := plainRun flow cur.rest
    if run = 0 || cur.peek 0 == some '#' then read
    else
      let text := text ++ gap ++ cur.rest.take run
      let gap := plainGap (cur.skip run)
      let read := { text, crossed := gap.crossed, behind := gap.behind }
      match gap.text with
      | none => read
      | some t =>
        if gap.behind.peek 0 == some '#' || (!flow && (gap.behind.column : Int) < indent) then read
        else plainRuns flow indent fuel text t read

/-- The plain scalar here. Outside brackets a further line belongs to it only when indented by
`indent` columns or more. -/
def plainScalar (flow : Bool) (indent : Int) (cur : Cursor) : PlainScalar :=
  plainRuns flow indent (cur.rest.length + 1) [] [] ⟨[], false, cur⟩

/-! ## Quoted scalars -/

/-- The character that an escape of one letter stands for. -/
def simpleEscape? : Char → Option Char
  | '0' => some '\x00'
  | 'a' => some '\x07'
  | 'b' => some '\x08'
  | 't' => some '\t'
  | '\t' => some '\t'
  | 'n' => some '\n'
  | 'v' => some '\x0B'
  | 'f' => some '\x0C'
  | 'r' => some '\r'
  | 'e' => some '\x1B'
  | ' ' => some ' '
  | '"' => some '"'
  | '\\' => some '\\'
  | '/' => some '/'
  | 'N' => some '\x85'
  | '_' => some '\xA0'
  | 'L' => some '\u2028'
  | 'P' => some '\u2029'
  | _ => none

/-- The number of digits behind the letter of a hexadecimal escape. -/
def escapeWidth? : Char → Option Nat
  | 'x' => some 2
  | 'u' => some 4
  | 'U' => some 8
  | _ => none

/-- The line breaks from here on, with blanks and tabs between them skipped. -/
def quotedBreaks : (fuel : Nat) → Cursor → List Char → Except Failure (List Char × Cursor)
  | 0, cur, breaks => .ok (breaks, cur)
  | fuel + 1, cur, breaks =>
    if cur.atSeparator then .error (.problem .separatorInScalar)
    else
      let cur := cur.skipWhile fun c => c == ' ' || c == '\t'
      match cur.lineBreak? with
      | some (b, next) => quotedBreaks fuel next (breaks ++ [b])
      | none => .ok (breaks, cur)

/-- The escape at a backslash: the characters it contributes and the place behind it. -/
def escape (cur : Cursor) : Except Failure (List Char × Cursor) :=
  let cur := cur.skip 1
  match cur.peek 0 with
  | none => .error (.problem .badEscape)
  | some c =>
    match simpleEscape? c, escapeWidth? c with
    | some d, _ => .ok ([d], cur.skip 1)
    | none, some width =>
      let cur := cur.skip 1
      let digits := cur.rest.take width
      match Text.hexNumber? digits with
      | some n =>
        if digits.length < width then .error (.problem .badEscape)
        else if Decimal.pow2 31 ≤ n then .error (.fault .codePointTooLarge)
        else if 0x110000 ≤ n then .error (.fault .notACharacter)
        else .ok ([Char.ofNat n], cur.skip width)
      | none => .error (.problem .badEscape)
    | none, none =>
      if isBreak c then quotedBreaks (cur.rest.length + 1) cur.skipBreak []
      else .error (.problem .badEscape)

/-- Blanks inside a quoted scalar: kept within a line, folded at its end. -/
def quotedGap (cur : Cursor) : Except Failure (List Char × Cursor) :=
  let (blanks, cur) := cur.takeWhile fun c => c == ' ' || c == '\t'
  match cur.rest, cur.lineBreak? with
  | [], _ => .error (.problem .unterminatedScalar)
  | _, none => .ok (blanks, cur)
  | _, some (first, next) => do
    let (more, cur) ← quotedBreaks (next.rest.length + 1) next []
    return (foldBreaks first more, cur)

/-- The rest of a quoted scalar, behind the text read so far. -/
def quotedRest (double : Bool) : (fuel : Nat) → Cursor → List Char →
    Except Failure (List Char × Cursor)
  | 0, _, _ => .error (.problem .unterminatedScalar)
  | fuel + 1, cur, text =>
    match cur.rest with
    | [] => .error (.problem .unterminatedScalar)
    | c :: more =>
      if c == '\'' && !double then
        if more.head? == some '\'' then quotedRest double fuel (cur.skip 2) (text ++ ['\''])
        else .ok (text, cur.skip 1)
      else if c == '"' && double then .ok (text, cur.skip 1)
      else if c == '\\' && double then do
        let (t, cur) ← escape cur
        quotedRest double fuel cur (text ++ t)
      else if endsToken (some c) then do
        let (t, cur) ← quotedGap cur
        quotedRest double fuel cur (text ++ t)
      else quotedRest double fuel (cur.skip 1) (text ++ [c])

/-- The quoted scalar whose opening quote stands here. -/
def quotedScalar (double : Bool) (cur : Cursor) : Except Failure (List Char × Cursor) :=
  quotedRest double (cur.rest.length + 1) (cur.skip 1) []

/-! ## Block scalars -/

/-- What happens to the line breaks at the end of a block. -/
inductive Chomping where
  | clip
  | strip
  | keep
deriving DecidableEq

/-- The indicator of a chomping. -/
def chomping? : Option Char → Option Chomping
  | some '+' => some .keep
  | some '-' => some .strip
  | _ => none

/-- The digit of an indentation, if one stands here; zero is none. -/
def indentation? (c : Option Char) : Except Failure (Option Nat) :=
  match c with
  | some d =>
    if d == '0' then .error (.problem .badBlockHeader)
    else if d.isDigit then .ok (some (d.toNat - 0x30))
    else .ok none
  | none => .ok none

/-- The indicators behind a block mark, in either order, and the rest of that line. -/
def blockHeader (cur : Cursor) : Except Failure (Chomping × Option Nat × Cursor) := do
  let (chomping, indent, cur) ← match chomping? (cur.peek 0) with
    | some chomping => do
      let cur := cur.skip 1
      let indent ← indentation? (cur.peek 0)
      pure (chomping, indent, cur.skip indent.toList.length)
    | none => do
      let indent ← indentation? (cur.peek 0)
      let cur := cur.skip indent.toList.length
      match indent, chomping? (cur.peek 0) with
      | some _, some chomping => pure (chomping, indent, cur.skip 1)
      | _, _ => pure (.clip, indent, cur)
  if !endsWord (cur.peek 0) then throw (.problem .badBlockHeader)
  let cur := cur.skipBlanks
  let cur := if cur.peek 0 == some '#' then cur.skipLine else cur
  if !endsLine (cur.peek 0) then throw (.problem .badBlockHeader)
  return (chomping, indent, cur.skipBreak)

/-- The blank lines from here on and the widest of their indentations. -/
def leadingBreaks : (fuel : Nat) → Cursor → List Char → Nat → List Char × Nat × Cursor
  | 0, cur, breaks, widest => (breaks, widest, cur)
  | fuel + 1, cur, breaks, widest =>
    match cur.lineBreak? with
    | some (b, next) => leadingBreaks fuel next (breaks ++ [b]) widest
    | none =>
      if cur.peek 0 == some ' ' then
        let next := cur.skip 1
        leadingBreaks fuel next breaks (max widest next.column)
      else (breaks, widest, cur)

/-- The place behind blanks, but not beyond a column. -/
def skipIndent (indent : Nat) (cur : Cursor) : Cursor :=
  let blanks := (cur.rest.takeWhile (· == ' ')).length
  cur.skip (min blanks (indent - cur.column))

/-- The blank lines from here on, up to the indentation of the next line. -/
def blockBreaks (indent : Nat) : (fuel : Nat) → Cursor → List Char → List Char × Cursor
  | 0, cur, breaks => (breaks, cur)
  | fuel + 1, cur, breaks =>
    let cur := skipIndent indent cur
    match cur.lineBreak? with
    | some (b, next) => blockBreaks indent fuel next (breaks ++ [b])
    | none => (breaks, cur)

/-- The lines of a block from here on, behind the text read so far and blank lines `breaks`. -/
def blockLines (folded : Bool) (indent : Nat) : (fuel : Nat) → Cursor → List Char → List Char →
    Option Char → List Char × Option Char × List Char × Cursor
  | 0, cur, text, breaks, last => (text, last, breaks, cur)
  | fuel + 1, cur, text, breaks, last =>
    if cur.column != indent || cur.rest.isEmpty then (text, last, breaks, cur)
    else
      let text := text ++ breaks
      let leading := !(cur.peek 0).any fun c => c == ' ' || c == '\t'
      let (line, cur) := cur.takeWhile (!isBreak ·)
      let text := text ++ line
      let last := cur.lineBreak?.map Prod.fst
      let (breaks, cur) := blockBreaks indent (cur.rest.length + 1) cur.skipBreak []
      if cur.column == indent && !cur.rest.isEmpty then
        let indented := (cur.peek 0).any fun c => c == ' ' || c == '\t'
        let joint :=
          if folded && last == some '\n' && leading && !indented then
            if breaks.isEmpty then [' '] else []
          else last.toList
        blockLines folded indent fuel cur (text ++ joint) breaks last
      else (text, last, breaks, cur)

/-- The block scalar whose mark stands here, inside a collection indented by `indent` columns. -/
def blockScalar (folded : Bool) (indent : Int) (cur : Cursor) :
    Except Failure (List Char × Cursor) := do
  let (chomping, increment, cur) ← blockHeader (cur.skip 1)
  let least := (max (indent + 1) 1).toNat
  let fuel := cur.rest.length + 1
  let (indent, breaks, cur) := match increment with
    | none =>
      let (breaks, widest, cur) := leadingBreaks fuel cur [] 0
      (max least widest, breaks, cur)
    | some n =>
      let indent := least + n - 1
      let (breaks, cur) := blockBreaks indent fuel cur []
      (indent, breaks, cur)
  let (text, last, breaks, cur) := blockLines folded indent fuel cur [] breaks none
  let ending := match chomping with
    | .strip => []
    | .clip => last.toList
    | .keep => last.toList ++ breaks
  return (text ++ ending, cur)

end CommandBook.Yaml
