import CommandBook.Decimal.Numeral
import CommandBook.Text.Hex
import CommandBook.Yaml.Cursor
import CommandBook.Yaml.Scalar
import CommandBook.Yaml.Token

/-!
# From a YAML text to its tokens

Most tokens show by their first character. Two things do not. Block collections open and close by
indentation, so the columns of the open ones are kept. And a key of a mapping is known as such only
by the colon behind it, so the places where one may have begun are kept as candidates, one for each
depth of brackets; when the colon comes, a key token goes in at that place. The tokens behind the
first candidate are therefore not settled, and when the next token fails they are never used.

## Termination

Every token but the last takes at least one character, so a text has no more tokens than that.

## Main definitions

* `Lexer`, `Lexer.token` — the state and one token
* `Lexer.settled` — how many tokens can be used before the next one is known
* `Token.ofText` — the tokens of a text
-/

namespace CommandBook.Yaml

/-- A place where a key may have begun. -/
structure KeyCandidate where
  /-- The number of tokens before it. -/
  position : Nat
  /-- Whether only a key can stand there. -/
  required : Bool
  index : Nat
  line : Nat
  column : Nat

/-- The tokens so far and what is needed to go on. -/
structure Lexer where
  cur : Cursor
  tokens : Array Token
  /-- The number of brackets that are open. -/
  flow : Nat
  /-- The column of the innermost block collection, -1 outside all. -/
  indent : Int
  /-- The columns of the block collections around it, innermost first. -/
  outer : List Int
  /-- Whether a key may begin here. -/
  keyAllowed : Bool
  /-- The candidates by depth of brackets. -/
  candidates : List (Nat × KeyCandidate)

namespace Lexer

abbrev Result (α : Type) := Except Failure α

def refuse {α : Type} (p : Problem) : Result α := .error (.problem p)

def emit (l : Lexer) (t : Token) : Lexer := { l with tokens := l.tokens.push t }

/-- A token of `n` characters. -/
def mark (l : Lexer) (t : Token) (n : Nat) : Lexer := { l.emit t with cur := l.cur.skip n }

/-! ## Candidates and indentation -/

/-- Drops candidates on other lines and those too far back; one that must be a key is an error. -/
def dropStale (l : Lexer) : Result Lexer :=
  let stale := fun (e : Nat × KeyCandidate) =>
    e.2.line != l.cur.line || 1024 < l.cur.index - e.2.index
  if l.candidates.any fun e => stale e && e.2.required then refuse .keyWithoutColon
  else .ok { l with candidates := l.candidates.filter fun e => !stale e }

/-- Drops the candidate at this depth; one that must be a key is an error. -/
def dropCandidate (l : Lexer) : Result Lexer :=
  match l.candidates.lookup l.flow with
  | none => .ok l
  | some k =>
    if k.required then refuse .keyWithoutColon
    else .ok { l with candidates := l.candidates.filter fun e => e.1 != l.flow }

/-- Takes this place as a candidate, if a key may begin here. -/
def saveCandidate (l : Lexer) : Result Lexer :=
  if l.keyAllowed then do
    let l ← l.dropCandidate
    let k : KeyCandidate :=
      { position := l.tokens.size, required := l.flow = 0 && l.indent == l.cur.column
        index := l.cur.index, line := l.cur.line, column := l.cur.column }
    return { l with candidates := (l.flow, k) :: l.candidates }
  else .ok l

/-- Closes the block collections that are indented by more than `column`. -/
def closeTo (l : Lexer) (column : Int) : Lexer :=
  let closed := (l.indent :: l.outer).takeWhile fun i => column < i
  match (l.indent :: l.outer).drop closed.length with
  | [] => l
  | indent :: outer =>
    { l with
      indent, outer
      tokens := l.tokens ++ (closed.map fun _ => Token.blockEnd).toArray }

/-- Closes block collections by indentation, which counts outside brackets only. -/
def unwind (l : Lexer) (column : Int) : Lexer := if l.flow = 0 then l.closeTo column else l

/-- Opens a block collection at a column, if it is indented by more than the innermost one; its
token goes in at `position`. -/
def openAt (l : Lexer) (column : Int) (t : Token) (position : Nat) : Lexer :=
  if l.indent < column then
    { l with
      indent := column, outer := l.indent :: l.outer
      tokens := l.tokens.insertIdxIfInBounds position t }
  else l

/-! ## Blanks, directives and tags -/

/-- Skips blanks, comments and line breaks; outside brackets a key may begin on a new line. -/
def skipGaps : (fuel : Nat) → Lexer → Lexer
  | 0, l => l
  | fuel + 1, l =>
    let cur := l.cur.skipBlanks
    let cur := if cur.peek 0 == some '#' then cur.skipLine else cur
    match cur.lineBreak? with
    | some (_, next) =>
      skipGaps fuel { l with cur := next, keyAllowed := l.keyAllowed || l.flow = 0 }
    | none => { l with cur }

/-- A name of letters, digits, hyphens and underscores. -/
def nameAt (cur : Cursor) (p : Problem) : Result (String × Cursor) :=
  let (name, cur) := cur.takeWhile isNameChar
  if name.isEmpty then refuse p else .ok (String.ofList name, cur)

/-- A row of digits. -/
def numberAt (cur : Cursor) : Result (Nat × Cursor) :=
  let (digits, cur) := cur.takeWhile Char.isDigit
  if digits.isEmpty then refuse .badDirective
  else if Decimal.maxDigits < digits.length then .error (.fault .numeralTooLong)
  else .ok (Decimal.value digits, cur)

/-- A tag's handle: an exclamation mark, perhaps a name, and another exclamation mark. -/
def handleAt (cur : Cursor) : Result (String × Cursor) :=
  if cur.peek 0 != some '!' then refuse .badTag
  else if cur.peek 1 == some ' ' then .ok ("!", cur.skip 1)
  else
    let (name, behind) := (cur.skip 1).takeWhile isNameChar
    if behind.peek 0 == some '!' then
      .ok (String.ofList ('!' :: name ++ ['!']), behind.skip 1)
    else refuse .badTag

/-- A character of a tag that stands for itself. -/
def isUriChar (c : Char) : Bool :=
  c.isAlphanum || "-;/?:@&=+$,_.!~*'()[]".toList.contains c

/-- The bytes of a row of percent escapes. -/
def percentBytes : List Char → Option (List UInt8)
  | [] => some []
  | '%' :: a :: b :: rest => do
    let n ← Text.hexNumber? [a, b]
    return UInt8.ofNat n :: (← percentBytes rest)
  | _ => none

/-- How many characters a row of percent escapes takes. -/
def percentRun : List Char → Nat
  | '%' :: _ :: _ :: rest => percentRun rest + 3
  | '%' :: rest => rest.length + 1
  | _ => 0

/-- The text of a tag, percent escapes decoded. -/
def uriAt : (fuel : Nat) → Cursor → List Char → Result (List Char × Cursor)
  | 0, cur, text => .ok (text, cur)
  | fuel + 1, cur, text =>
    match cur.peek 0 with
    | none => .ok (text, cur)
    | some c =>
      if c == '%' then
        let n := percentRun cur.rest
        match (percentBytes (cur.rest.take n)).bind fun bs => String.fromUTF8? bs.toByteArray with
        | some s => uriAt fuel (cur.skip n) (text ++ s.toList)
        | none => refuse .badTag
      else if isUriChar c then uriAt fuel (cur.skip 1) (text ++ [c])
      else .ok (text, cur)

/-- The text of a tag, which must not be empty. -/
def uri (cur : Cursor) : Result (String × Cursor) := do
  let (text, behind) ← uriAt (cur.rest.length + 1) cur []
  if text.isEmpty then refuse .badTag else return (String.ofList text, behind)

/-- The directive here and the end of its line. -/
def directive (cur : Cursor) : Result (Token × Cursor) := do
  let (name, cur) ← nameAt (cur.skip 1) .badDirective
  if !endsWord (cur.peek 0) then refuse .badDirective
  let (t, cur) ← match name with
    | "YAML" => do
      let (major, cur) ← numberAt cur.skipBlanks
      if cur.peek 0 != some '.' then refuse .badDirective
      let (minor, cur) ← numberAt (cur.skip 1)
      if !endsWord (cur.peek 0) then refuse .badDirective
      pure (Token.versionDirective major minor, cur)
    | "TAG" => do
      let (handle, cur) ← handleAt cur.skipBlanks
      if cur.peek 0 != some ' ' then refuse .badDirective
      let (leader, cur) ← uri cur.skipBlanks
      if !endsWord (cur.peek 0) then refuse .badDirective
      pure (Token.tagDirective handle leader, cur)
    | _ => pure (Token.otherDirective, cur.skipLine)
  let cur := cur.skipBlanks
  let cur := if cur.peek 0 == some '#' then cur.skipLine else cur
  if !endsLine (cur.peek 0) then refuse .badDirective
  return (t, cur.skipBreak)

/-- Whether a further exclamation mark stands in the word here, behind its first character. -/
def hasHandle (cur : Cursor) : Bool :=
  ((cur.rest.drop 1).takeWhile fun c => !endsWord (some c)).contains '!'

/-- The tag here. -/
def tag (cur : Cursor) : Result (Token × Cursor) := do
  let (t, cur) ←
    if cur.peek 1 == some '<' then do
      let (suffix, cur) ← uri (cur.skip 2)
      if cur.peek 0 != some '>' then refuse .badTag
      pure (Token.tag none suffix, cur.skip 1)
    else if endsToken (cur.peek 1) then pure (Token.tag none "!", cur.skip 1)
    else do
      let (handle, cur) ← if hasHandle cur then handleAt cur else pure ("!", cur.skip 1)
      let (suffix, cur) ← uri cur
      pure (Token.tag (some handle) suffix, cur)
  if !endsWord (cur.peek 0) then refuse .badTag
  return (t, cur)

/-- The name of an anchor or alias, behind its mark. -/
def anchorName (cur : Cursor) : Result (String × Cursor) := do
  let (name, cur) ← nameAt (cur.skip 1) .badAnchor
  let ends := (cur.peek 0).all fun c => endsToken (some c) || "?:,]\x7d%@`".toList.contains c
  if ends then return (name, cur) else refuse .badAnchor

/-! ## Tokens -/

/-- Marks that end all block collections: directives and document separators. -/
def atMargin (l : Lexer) : Result Lexer := do
  let l ← (l.unwind (-1)).dropCandidate
  return { l with keyAllowed := false }

/-- An opening bracket. -/
def openBracket (l : Lexer) (t : Token) : Result Lexer := do
  let l ← l.saveCandidate
  return { l.mark t 1 with flow := l.flow + 1, keyAllowed := true }

/-- A closing bracket. -/
def closeBracket (l : Lexer) (t : Token) : Result Lexer := do
  let l ← l.dropCandidate
  if l.flow = 0 then refuse .unbalancedBracket
  else return { l.mark t 1 with flow := l.flow - 1, keyAllowed := false }

/-- The hyphen of a sequence entry, or the question mark of a key. -/
def entryMark (l : Lexer) (t start : Token) (p : Problem) (keyAllowed : Bool) : Result Lexer := do
  let l ←
    if l.flow = 0 then
      if l.keyAllowed then pure (l.openAt l.cur.column start l.tokens.size) else refuse p
    else pure l
  let l ← { l with keyAllowed }.dropCandidate
  return l.mark t 1

/-- The colon of a value. With a candidate at this depth the key goes in there, and the mapping if
it begins with that key. -/
def colon (l : Lexer) : Result Lexer :=
  match l.candidates.lookup l.flow with
  | some k =>
    let l := { l with
      candidates := l.candidates.filter fun e => e.1 != l.flow
      tokens := l.tokens.insertIdxIfInBounds k.position .key }
    let l := if l.flow = 0 then l.openAt k.column .blockMappingStart k.position else l
    .ok { l.mark .value 1 with keyAllowed := false }
  | none => do
    if l.flow = 0 && !l.keyAllowed then refuse .valueNotAllowed
    let l := if l.flow = 0 then l.openAt l.cur.column .blockMappingStart l.tokens.size else l
    let l ← { l with keyAllowed := l.flow = 0 }.dropCandidate
    return l.mark .value 1

/-- A token that may be a key and behind which none can begin. -/
def node (l : Lexer) (read : Cursor → Result (Token × Cursor)) : Result Lexer := do
  let l ← l.saveCandidate
  let (t, cur) ← read l.cur
  return { l.emit t with cur, keyAllowed := false }

/-- A plain scalar. Behind a line end a key may begin. -/
def plain (l : Lexer) : Result Lexer := do
  let l ← l.saveCandidate
  let s := plainScalar (l.flow != 0) (l.indent + 1) l.cur
  return { l.emit (.scalar (String.ofList s.text) true) with
    cur := s.behind, keyAllowed := s.crossed }

/-- A block scalar. -/
def block (l : Lexer) (folded : Bool) : Result Lexer := do
  let l ← { l with keyAllowed := true }.dropCandidate
  let (text, cur) ← blockScalar folded l.indent l.cur
  return { l.emit (.scalar (String.ofList text) false) with cur }

/-- A quoted scalar as a token. -/
def quoted (double : Bool) (cur : Cursor) : Result (Token × Cursor) := do
  let (text, cur) ← quotedScalar double cur
  return (.scalar (String.ofList text) false, cur)

/-- A character that cannot begin a plain scalar, or only with a word behind it. -/
def isIndicator (c : Char) : Bool := "-?:,[]\x7b\x7d#&*!|>'\"%@`".toList.contains c

/-- Whether a plain scalar begins here. -/
def beginsPlain (l : Lexer) (c : Char) : Bool :=
  (!endsToken (some c) && !isIndicator c) ||
    (!endsToken (l.cur.peek 1) && (c == '-' || (l.flow = 0 && (c == '?' || c == ':'))))

/-- The token that begins with `c`. -/
def tokenAt (l : Lexer) (c : Char) : Result Lexer :=
  let wordEnds := endsToken (l.cur.peek 1)
  let margin := l.cur.column = 0
  if c == '%' && margin then do
    let l ← l.atMargin
    let (t, cur) ← directive l.cur
    return { l.emit t with cur }
  else if margin && l.cur.atSeparator then do
    let l ← l.atMargin
    return l.mark (if c == '-' then .documentStart else .documentEnd) 3
  else
    match c with
    | '[' => l.openBracket .flowSequenceStart
    | '\x7b' => l.openBracket .flowMappingStart
    | ']' => l.closeBracket .flowSequenceEnd
    | '\x7d' => l.closeBracket .flowMappingEnd
    | ',' => do
      let l ← { l with keyAllowed := true }.dropCandidate
      return l.mark .flowEntry 1
    | '*' => l.node fun cur => do
      let (name, cur) ← anchorName cur
      return (.aliasOf name, cur)
    | '&' => l.node fun cur => do
      let (name, cur) ← anchorName cur
      return (.anchor name, cur)
    | '!' => l.node tag
    | '\'' => l.node (quoted false)
    | '"' => l.node (quoted true)
    | _ =>
      -- outside flow collections `-`, `?` and `:` are marks only in front of a blank
      if c == '-' && wordEnds then
        l.entryMark .blockEntry .blockSequenceStart .entryNotAllowed true
      else if c == '?' && (l.flow != 0 || wordEnds) then
        l.entryMark .key .blockMappingStart .keyNotAllowed (l.flow = 0)
      else if c == ':' && (l.flow != 0 || wordEnds) then l.colon
      else if (c == '|' || c == '>') && l.flow = 0 then l.block (c == '>')
      else if l.beginsPlain c then l.plain
      else refuse (.strayCharacter c)

/-- The next token, or nothing at the end of the text. -/
def token (l : Lexer) : Result (Option Lexer) := do
  let l ← (skipGaps (l.cur.rest.length + 1) l).dropStale
  let l := l.unwind l.cur.column
  match l.cur.peek 0 with
  | some c => return some (← l.tokenAt c)
  | none => return none

/-- The number of tokens that are settled: a later colon can put no token in front of them. -/
def settled (l : Lexer) : Nat :=
  let fresh := (l.dropStale.toOption.getD l).candidates
  (fresh.map (·.2.position)).min?.getD l.tokens.size

/-- What there is when the next token fails: the settled tokens and the failure. -/
def failing (l : Lexer) (f : Failure) : TokenRow :=
  { tokens := (l.tokens.take l.settled).toList, failure := some f }

/-- The end of the text: what is open is closed. -/
def finish (l : Lexer) : Result Lexer := do
  let l ← (skipGaps (l.cur.rest.length + 1) l).dropStale
  let l ← (l.unwind (-1)).dropCandidate
  return l.emit .streamEnd

/-- All tokens from here on. -/
def run : (fuel : Nat) → Lexer → TokenRow
  | 0, l => l.failing (.problem .unexpectedToken)
  | fuel + 1, l =>
    match l.token with
    | .error e => l.failing e
    | .ok (some next) => run fuel next
    | .ok none =>
      match l.finish with
      | .ok l => { tokens := l.tokens.toList }
      | .error e => l.failing e

end Lexer

/-- The tokens of a text whose characters are all allowed. A byte order mark in front does not
count. -/
def Token.ofAllowed (cs : List Char) : TokenRow :=
  let cs := if cs.head? == some '\uFEFF' then cs.drop 1 else cs
  Lexer.run (cs.length + 1)
    { cur := .start cs, tokens := #[], flow := 0, indent := -1, outer := [], keyAllowed := true
      candidates := [] }

/-- The number of characters in front of the part that holds the character with this number. A text
is read in parts: first two pages, then one at a time. -/
def partStart (n : Nat) : Nat :=
  let page := 4096
  if n < 2 * page then 0 else n / page * page

/-- The tokens of a text. Characters that are not allowed are found when their part of the text is
read, so the tokens in front of it come first. -/
def Token.ofText (cs : List Char) : TokenRow :=
  let allowed := (cs.takeWhile isAllowed).length
  if allowed = cs.length then ofAllowed cs
  else
    let row := ofAllowed (cs.take (partStart allowed))
    { tokens := row.tokens.filter (· != .streamEnd)
      failure := some (row.failure.getD (.problem .unprintableCharacter)) }

end CommandBook.Yaml
