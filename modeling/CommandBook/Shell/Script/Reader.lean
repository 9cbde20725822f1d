import CommandBook.Shell.Script.Source

/-!
# Reading scripts

The grammar of the shell. A script is read one complete command at a time, because what a word means
may depend on the commands before it.

A word is read character by character under a *mode*: plain, in double or single quotes, or in a
formula. Substitutions in braces and formulas nest, each with a mode of its own, so that the modes
form a stack.

## Main definitions

* `Source.nextCommand` — the next complete command of a script
* `Source.readPrompt` — a whole text as the inside of double quotes

## Termination

Every function of the group takes a bound on the depth of its calls, which no script reaches whose
length is below it.
-/

namespace CommandBook.Shell

/-- How characters are read inside a word. -/
inductive Mode where
  | plain
  | double
  | single
  | formula
deriving DecidableEq

/-- What a character does in a word. -/
inductive Role where
  | newline
  | word
  /-- Stands for itself, but would mean more without quotes. -/
  | control
  | backslash
  | singleQuote
  | doubleQuote
  | endQuote
  | dollar
  | closingBrace
  | openingParenthesis
  | closingParenthesis
  | backquote
  | ending
  | special

/-- What a character does in a word under a mode. -/
def Mode.role (m : Mode) : Option Char → Role
  | none => .ending
  | some '\n' => .newline
  | some c =>
    let marks := 0x81 ≤ c.toNat && c.toNat ≤ 0x88
    let pattern := "!*?[=~:/-]".toList.contains c
    match m with
    | .plain =>
      match c with
      | '\\' => .backslash
      | '\'' => .singleQuote
      | '"' => .doubleQuote
      | '`' => .backquote
      | '$' => .dollar
      | '\x7d' => .closingBrace
      | c =>
        if "<>();&| \t".toList.contains c then .special
        else if marks then .control else .word
    | .double =>
      match c with
      | '\\' => .backslash
      | '"' => .endQuote
      | '`' => .backquote
      | '$' => .dollar
      | '\x7d' => .closingBrace
      | _ => if pattern || marks then .control else .word
    | .single =>
      if c == '\'' then .endQuote
      else if pattern || marks || c == '\\' then .control else .word
    | .formula =>
      match c with
      | '\\' => .backslash
      | '`' => .backquote
      | '$' => .dollar
      | '\x7d' => .closingBrace
      | '(' => .openingParenthesis
      | ')' => .closingParenthesis
      | _ => if marks then .control else .word

/-- The state inside one substitution. -/
structure Level where
  mode : Mode
  /-- Double quotes around or in the substitution count. -/
  inDouble : Bool := false
  /-- An odd number of double quotes has been read in the substitution. -/
  innerDouble : Bool := false
  /-- The level ends with its last brace. -/
  ownBrace : Bool := false
  braces : Nat := 0
  quotedBraces : Nat := 0
  parentheses : Nat := 0

/-- What ends the text that is being read as a word. -/
inductive WordEnd where
  /-- The end of a word of the grammar. -/
  | word
  /-- The end of the script. -/
  | script
  /-- A line that is a mark. -/
  | line (mark : Bytes) (strip : Bool)

def WordEnd.isWord : WordEnd → Bool
  | .word => true
  | _ => false

/-- A substitution of which the end has not been read. -/
inductive OpenPiece where
  | parameter (name : Bytes) (null : Bool) (use : Treatment)
  | formula

/-- A word that is being read. -/
structure Growing where
  level : Level
  outer : List Level := []
  /-- The open substitutions, each with the pieces before it, the last piece first. -/
  opened : List (OpenPiece × List Piece) := []
  /-- The pieces so far, the last first. -/
  pieces : List Piece := []
  quoted : Bool := false

namespace Growing

def push (g : Growing) (p : Piece) : Growing := { g with pieces := p :: g.pieces }

def put (g : Growing) (c : Char) : Growing := g.push (.char c)

/-- Begins a substitution. -/
def openPiece (g : Growing) (o : OpenPiece) : Growing :=
  { g with opened := (o, g.pieces) :: g.opened, pieces := [] }

/-- Ends the innermost substitution. -/
def closePiece (g : Growing) : Growing :=
  match g.opened with
  | [] => g
  | (o, before) :: opened =>
    let inner := g.pieces.reverse
    let added : List Piece := match o with
      | .formula => [.formula inner]
      | .parameter name null .plain => .stop :: inner.reverse ++ [.parameter name null .plain []]
      | .parameter name null use => [.parameter name null use inner]
    { g with opened, pieces := added ++ before }

def pushLevel (g : Growing) (l : Level) : Growing :=
  { g with level := l, outer := g.level :: g.outer }

def popLevel (g : Growing) : Growing :=
  match g.outer with
  | l :: outer => { g with level := l, outer }
  | [] => g

/-- A quotation begins or ends. -/
def mark (g : Growing) (e : WordEnd) : Growing := if e.isWord then g.push .mark else g

/-- A quotation begins or ends with a double quote. -/
def doubleMark (g : Growing) (e : WordEnd) : Growing :=
  let l := g.level
  let g := if l.braces = 0 then g
    else { g with level := { l with innerDouble := !l.innerDouble } }
  g.mark e

/-- A brace closes. -/
def closeBrace (g : Growing) : Growing :=
  let l := { g.level with braces := g.level.braces - 1 }
  let g := { g with level := l }
  let g := if l.braces = 0 && l.ownBrace then g.popLevel
    else { g with level := { l with quotedBraces := l.quotedBraces - 1 } }
  g.closePiece

/-- A quoted character; before one that a backslash does not quote, the backslash stays. -/
def backslashed (g : Growing) (e : WordEnd) (c : Char) : Growing :=
  let l := g.level
  let quotes := c == '\\' || c == '`' || c == '$' ||
    (c == '"' && (e.isWord || l.braces ≠ 0)) || (c == '\x7d' && l.braces ≠ 0)
  let g := if l.inDouble && !quotes then g.push (.escaped '\\') else g
  { g.push (.escaped c) with quoted := true }

end Growing

/-- The parameters that are one sign. -/
def isSign (c : Char) : Bool := "$#!*@-?".toList.contains c

open Reading

/-- The rest of a line; the line end is not taken. -/
def skipComment : Nat → Reading Unit
  | 0 => fail .tooDeep
  | n + 1 => do
    let c ← next
    if c == none || c == some '\n' then unread c else skipComment n

/-- Takes characters joined to one that has been taken, as long as they pass a test: they and the
first that does not. -/
def takeJoined : Nat → (Char → Bool) → Option Char → Bytes → Reading (Bytes × Option Char)
  | 0, _, _, _ => fail .tooDeep
  | n + 1, p, c, taken => do
    match c with
    | some c =>
      if p c then takeJoined n p (← nextJoined n) (c :: taken) else return (taken.reverse, some c)
    | none => return (taken.reverse, none)

/-- A character where the line of a document begins. If the line is the mark that ends the document,
the mark is taken and there is no character. -/
def documentLine : Nat → WordEnd → Option Char → Reading (Option Char)
  | 0, _, _ => fail .tooDeep
  | n + 1, e, c =>
    match e with
    | .line mark strip => do matchMark n mark (← if strip then behindTabs n c else pure c) []
    | _ => return c
where
  /-- The first character from this one on that is no tab. -/
  behindTabs : Nat → Option Char → Reading (Option Char)
    | 0, _ => fail .tooDeep
    | n + 1, c => if c == some '\t' then do behindTabs n (← next) else return c
  /-- Compares a line with the mark; what has been taken is put back where they differ. -/
  matchMark : Nat → Bytes → Option Char → Bytes → Reading (Option Char)
    | 0, _, _, _ => fail .tooDeep
    | n + 1, mark, c, taken => do
      match mark with
      | [] =>
        if c == none || c == some '\n' then
          newLine
          return none
        else backTo c taken
      | m :: mark =>
        if c == some m then matchMark n mark (← next) (m :: taken) else backTo c taken
  /-- The first character of what has been taken; the others are put back. -/
  backTo (c : Option Char) (taken : Bytes) : Reading (Option Char) := do
    match taken.reverse with
    | [] => return c
    | first :: others =>
      unreadAll (others ++ c.toList)
      return some first

/-- The text inside backquotes. Some backslashes in it are taken away. -/
def backquoted : Nat → Bool → Bytes → Reading Bytes
  | 0, _, _ => fail .tooDeep
  | n + 1, inDouble, taken => do
    match ← nextJoined n with
    | none => fail .openBackquote
    | some '`' => return taken.reverse
    | some '\\' =>
      let c ← next
      let quotes := c == some '\\' || c == some '`' || c == some '$' || (inDouble && c == some '"')
      match c with
      | some c => backquoted n inDouble (if quotes then c :: taken else c :: '\\' :: taken)
      | none => fail .openBackquote
    | some c =>
      if c == '\n' then newLine
      backquoted n inDouble (c :: taken)

/-- The name of a parameter and what is to become of it, as far as they stand before a word. -/
structure ParameterHead where
  name : Bytes
  null : Bool := false
  use : Treatment
  /-- The mode of the word. -/
  mode : Mode

/-- What a sign behind a name asks for. -/
def treatment? : Option Char → Option Treatment
  | some '\x7d' => some .plain
  | some '-' => some .orElse
  | some '+' => some .replaced
  | some '?' => some .orFail
  | some '=' => some .orAssign
  | _ => none

/-- The name at a dollar sign, and the character behind it. For a name in braces a number sign may
ask for the length. -/
def parameterName (n : Nat) (braces : Bool) (c : Option Char) :
    Reading (Bytes × Option Treatment × Option Char) := do
  match c with
  | none => return ([], some .unknown, none)
  | some first =>
    if isNameStart first then
      let (name, c) ← takeJoined n isNamePart (some first) []
      return (name, if braces then none else some .plain, c)
    else if first.isDigit then
      if braces then
        let (name, c) ← takeJoined n Char.isDigit (some first) []
        return (name, none, c)
      else return ([first], some .plain, ← nextJoined n)
    else if first == '\x7d' then return ([], some .unknown, some first)
    else
      let c ← nextJoined n
      -- a number sign asks for a length, unless it is the name itself
      if braces && first == '#' then
        match c with
        | some d =>
          if isNameStart d then
            let (name, c) ← takeJoined n isNamePart (some d) []
            return (name, some .length, c)
          else if d.isDigit then
            let (name, c) ← takeJoined n Char.isDigit (some d) []
            return (name, some .length, c)
          else
            let e ← nextJoined n
            if d == '\x7d' || e != some '\x7d' then
              unread e
              return (['#'], none, some d)
            else if isSign d then return ([d], some .length, e)
            else return ([], some .unknown, e)
        | none =>
          return (['#'], none, none)
      else if isSign first then return ([first], if braces then none else some .plain, c)
      else return ([], some .unknown, c)

/-- The head of a parameter; `mode` is the one around it. -/
def parameterHead (n : Nat) (mode : Mode) (c : Option Char) : Reading ParameterHead := do
  let braces := c == some '\x7b'
  let c ← if braces then nextJoined n else pure c
  let (name, use?, c) ← parameterName n braces c
  match use? with
  | some .length =>
    unread c
    return { name, use := if c == some '\x7d' then .length else .unknown, mode }
  | some use =>
    unread c
    return { name, use, mode }
  | none =>
    match c with
    | some ':' =>
      return { name, null := true, use := (treatment? (← nextJoined n)).getD .unknown, mode }
    | some '%' => trimmed name false '%'
    | some '#' => trimmed name true '#'
    | c => return { name, use := (treatment? c).getD .unknown, mode }
where
  /-- A pattern behind a sign, which stands twice where the longest part is meant. -/
  trimmed (name : Bytes) (front : Bool) (sign : Char) : Reading ParameterHead := do
    let c ← nextJoined n
    let longest := c == some sign
    if !longest then unread c
    return { name, use := .trimmed front longest, mode := .plain }

/-- The token of an operator of redirection, whose first sign has been taken. -/
def redirectionToken (n : Nat) (channel : Option Nat) (sign : Char) : Reading Token := do
  let c ← nextJoined n
  let (kind, taken) : RedirectionKind × Bool :=
    if sign == '>' then
      match c with
      | some '>' => (.file .append, true)
      | some '|' => (.file .overwrite, true)
      | some '&' => (.copy, true)
      | _ => (.file .output, false)
    else
      match c with
      | some '<' => (.document false, true)
      | some '&' => (.copy, true)
      | some '>' => (.file .both, true)
      | _ => (.file .input, false)
  if !taken then unread c
  let kind ← match kind with
    | .document _ => do
      let d ← nextJoined n
      if d != some '-' then unread d
      pure (RedirectionKind.document (d == some '-'))
    | kind => pure kind
  return .redirection (channel.getD (if sign == '>' then 1 else 0)) kind

/-- The commands that the shell treats as its own and that no function can replace. -/
def specialBuiltins : List String :=
  [".", ":", "break", "continue", "eval", "exec", "exit", "export", "local", "readonly", "return",
    "set", "shift", "times", "trap", "unset"]

mutual

/-- Reads a text as a word until it ends; `c` is its first character. -/
def wordLine : Nat → WordEnd → Growing → Option Char → Reading (Growing × Option Char)
  | 0, _, _, _ => fail .tooDeep
  | n + 1, e, g, c => do
    let c ← documentLine n e c
    wordCharacter n e g c

/-- Reads on in a word from a character. -/
def wordCharacter : Nat → WordEnd → Growing → Option Char → Reading (Growing × Option Char)
  | 0, _, _, _ => fail .tooDeep
  | n + 1, e, g, c => do
    let l := g.level
    let proceed (g : Growing) : Reading (Growing × Option Char) := do
      wordCharacter n e g (← if g.level.mode = .single then next else nextJoined n)
    let put (c : Option Char) : Growing := match c with
      | some c => g.put c
      | none => g
    match l.mode.role c, c with
    | .newline, c =>
      -- inside quotes or braces a word goes on behind the line
      if l.mode = .plain && l.braces = 0 then return (g, c)
      newLine
      let d ← if l.mode = .single then next else nextJoined n
      wordLine n e (put c) d
    | .ending, c => return (g, c)
    | .control, some c =>
      proceed (g.push (if e.isWord || l.inDouble || l.braces ≠ 0 then .escaped c else .char c))
    | .backslash, _ =>
      match ← next with
      | none => proceed (g.push (.escaped '\\'))
      | some c => proceed (g.backslashed e c)
    | .singleQuote, _ => proceed ({ g with level := { l with mode := .single } }.mark e)
    | .doubleQuote, _ =>
      proceed ({ g with level := { l with mode := .double, inDouble := true } }.doubleMark e)
    | .endQuote, c =>
      if !e.isWord && l.braces = 0 then proceed (put c)
      else
        let l := if l.quotedBraces = 0 then { l with mode := .plain, inDouble := false } else l
        let g := { g with level := l, quoted := true }
        proceed (if c == some '"' then g.doubleMark e else g.mark e)
    | .dollar, _ => do proceed (← substitution n g)
    | .closingBrace, c =>
      proceed (if !l.innerDouble && l.braces ≠ 0 then g.closeBrace else put c)
    | .openingParenthesis, c =>
      let g := put c
      proceed { g with level := { l with parentheses := l.parentheses + 1 } }
    | .closingParenthesis, c =>
      if l.parentheses ≠ 0 then
        let g := put c
        proceed { g with level := { l with parentheses := l.parentheses - 1 } }
      else
        let d ← nextJoined n
        -- two parentheses close a formula, one on its own is text
        if d == some ')' then proceed g.popLevel.closePiece
        else
          unread d
          proceed (put c)
    | .backquote, c =>
      if (← get).expected.mark then proceed (put c)
      else
        let text ← backquoted n l.inDouble []
        let body ← quotedCommand n text
        proceed (g.push (.command body))
    | .special, c => if l.braces = 0 then return (g, c) else proceed (put c)
    | _, c => proceed (put c)

/-- What stands behind a dollar sign. -/
def substitution : Nat → Growing → Reading Growing
  | 0, _ => fail .tooDeep
  | n + 1, g => do
    let c ← nextJoined n
    let starts := c.any fun c => c == '(' || c == '\x7b' || isNameStart c || isSign c || c.isDigit
    if (← get).expected.mark || !starts then
      unread c
      return g.put '$'
    else if c == some '(' then
      let d ← nextJoined n
      if d == some '(' then
        return (g.openPiece .formula).pushLevel { mode := .formula, inDouble := true }
      else
        unread d
        return g.push (.command (← enclosedCommand n))
    else
      let h ← parameterHead n g.level.mode c
      match h.null, h.use with
      | false, .plain => return g.push (.parameter h.name false .plain [])
      | null, use =>
        let mode := if h.mode = .formula then .double else h.mode
        let g := if mode ≠ g.level.mode || g.level.innerDouble then
            g.pushLevel { mode, inDouble := mode ≠ .plain, ownBrace := true }
          else g
        let l := g.level
        let g := { g with level := { l with
          braces := l.braces + 1
          quotedBraces := if l.inDouble then l.quotedBraces + 1 else l.quotedBraces } }
        return g.openPiece (.parameter h.name null use)

/-- The command inside backquotes, which is read as a script of its own. -/
def quotedCommand : Nat → Bytes → Reading Command
  | 0, _ => fail .tooDeep
  | n + 1, text => do
    let outer ← get
    modify ({ · with passages := [{ rest := text }], ended := [], line := 1, pending := [] })
    let body ← commandList n false true
    documentTexts n
    modify ({ · with
      passages := outer.passages, ended := outer.ended, line := outer.line
      pending := outer.pending, again := false })
    return body

/-- The command inside parentheses. A document whose text has not begun there has none. -/
def enclosedCommand : Nat → Reading Command
  | 0 => fail .tooDeep
  | n + 1 => do
    let outer ← get
    modify ({ · with pending := [] })
    let body ← commandList n false true
    if !(← token n).isOperator ")" then unexpected (some (.operator ")"))
    let inner ← get
    modify ({ · with passages := [{ rest := [] }], ended := [], line := 1 })
    documentTexts n
    modify ({ · with
      passages := inner.passages, ended := inner.ended, line := inner.line
      pending := outer.pending })
    return body

/-- Reads a text as a word, and checks that it is complete. -/
def wholeWord : Nat → WordEnd → Mode → Option Char → Reading (Growing × Option Char)
  | 0, _, _, _ => fail .tooDeep
  | n + 1, e, mode, c => do
    let (g, c) ← wordLine n e { level := { mode, inDouble := mode = .double } } c
    if g.level.mode = .formula then fail .openFormula
    if g.level.mode ≠ .plain && e.isWord then fail .openQuote
    if g.level.braces ≠ 0 then fail .openBrace
    modify ({ · with word := g.pieces.reverse, quoted := g.quoted })
    return (g, c)

/-- The texts of the documents that begin here. -/
def documentTexts : Nat → Reading Unit
  | 0 => fail .tooDeep
  | n + 1 => do
    let pending := (← get).pending
    modify ({ · with pending := [] })
    eachDocument n pending

def eachDocument : Nat → List PendingDocument → Reading Unit
  | 0, _ => fail .tooDeep
  | _ + 1, [] => return
  | n + 1, d :: rest => do
    let c ← if d.verbatim then next else nextJoined n
    let _ ← wholeWord n (.line d.mark d.strip) (if d.verbatim then .single else .double) c
    modify fun s => { s with
      documents := s.documents.setIfInBounds d.number { verbatim := d.verbatim, text := s.word } }
    eachDocument n rest

/-- The next token as it stands. -/
def plainToken : Nat → Reading Token
  | 0 => fail .tooDeep
  | n + 1 => do
    let s ← get
    if s.again then
      modify ({ · with again := false })
      return s.last
    match ← nextJoined n with
    | some ' ' => plainToken n
    | some '\t' => plainToken n
    | some '#' =>
      skipComment n
      plainToken n
    | some '\n' =>
      newLine
      found .newline
    | none => found .ending
    | some '&' => doubled n '&' "&" "&&"
    | some '|' => doubled n '|' "|" "||"
    | some ';' => doubled n ';' ";" ";;"
    | some '(' => found (.operator "(")
    | some ')' => found (.operator ")")
    | c =>
      let (g, c) ← wholeWord n .word .plain c
      -- a digit right before an angle bracket is a channel
      let channel? : Option (Option Nat) := match g.pieces with
        | [] => some none
        | [.char d] => if d.isDigit then some (some (d.toNat - 48)) else none
        | _ => none
      match c, channel? with
      | some '<', some channel =>
        if g.quoted then
          unread c
          found .word
        else do found (← redirectionToken n channel '<')
      | some '>', some channel =>
        if g.quoted then
          unread c
          found .word
        else do found (← redirectionToken n channel '>')
      | c, _ =>
        unread c
        found .word

/-- A sign that may stand twice. -/
def doubled : Nat → Char → String → String → Reading Token
  | 0, _, _, _ => fail .tooDeep
  | n + 1, sign, one, two => do
    let c ← nextJoined n
    if c == some sign then found (.operator two)
    else
      unread c
      found (.operator one)

/-- The next token as it is expected here. -/
def token : Nat → Reading Token
  | 0 => fail .tooDeep
  | n + 1 => do expectedToken n (← get).expected

def expectedToken : Nat → Expectation → Reading Token
  | 0, _ => fail .tooDeep
  | n + 1, e => do
    let t ← plainToken n
    let t ← if e.newlines then belowNewlines n t else pure t
    let s ← get
    let e := e.or s.expected
    expect {}
    if !t.isWord || s.quoted then return t
    match if e.keywords then Token.keyword? s.word else none with
    | some name => found (.keyword name)
    | none =>
      match if e.aliases then s.alias? s.word else none with
      | some (name, text) =>
        if !text.isEmpty then
          let p : Passage := {
            rest := text, standsFor := some name, waiting := s.ended
            blankAtEnd := text.getLast?.any fun c => c == ' ' || c == '\t' }
          modify ({ · with passages := p :: s.passages, ended := [] })
        expectedToken n e
      | none => return t

/-- A token, or the first behind line ends. -/
def belowNewlines : Nat → Token → Reading Token
  | 0, _ => fail .tooDeep
  | n + 1, t => do
    if t.isNewline then
      documentTexts n
      expect {}
      belowNewlines n (← plainToken n)
    else return t

/-- The redirection whose operator is the last token. -/
def redirection : Nat → Nat → RedirectionKind → Reading Redirection
  | 0, _, _ => fail .tooDeep
  | n + 1, channel, kind => do
    if let .document _ := kind then expect { mark := true }
    if !(← token n).isWord then unexpected none
    let s ← get
    match kind with
    | .document strip =>
      -- the text follows behind the line, until then its place is kept empty
      let number := s.documents.size
      let mark := s.word.filterMap fun
        | .char c => some c
        | .escaped c => some c
        | _ => none
      modify ({ · with
        documents := s.documents.push { verbatim := true, text := [] }
        pending := s.pending ++ [{ number, verbatim := s.quoted, strip, mark }] })
      return .document channel number
    | .copy =>
      match s.word.plain? with
      | some ['-'] => return .copy channel none
      | some [d] =>
        if d.isDigit then return .copy channel (some (d.toNat - 48))
        else return .copyNamed channel s.word
      | _ => return .copyNamed channel s.word
    | .file access => return .file channel access s.word

/-- The redirections at this place; the token behind them is to be read again. -/
def redirections : Nat → List Redirection → Reading (List Redirection)
  | 0, _ => fail .tooDeep
  | n + 1, before => do
    match ← token n with
    | .redirection channel kind => do redirections n ((← redirection n channel kind) :: before)
    | _ =>
      again
      return before.reverse

/-- Commands one behind another. `lineOnly` says that they end with their line, `maybeEmpty` that
there need not be one. -/
def commandList : Nat → Bool → Bool → Reading Command
  | 0, _, _ => fail .tooDeep
  | n + 1, lineOnly, maybeEmpty => do
    return (← commandsBelow n lineOnly maybeEmpty none).getD .nothing

/-- Commands behind others, if there are any; nothing stands for a script that has ended. -/
def commandsBelow : Nat → Bool → Bool → Option Command → Reading (Option Command)
  | 0, _, _, _ => fail .tooDeep
  | n + 1, lineOnly, mayEnd, before => do
    expect { Expectation.command with newlines := !lineOnly }
    let t ← token n
    if t.isNewline then
      documentTexts n
      return before.getD .nothing
    if t.isEnding then return ← atEnd n before
    again
    if !lineOnly && mayEnd && t.endsList then return before
    let c ← condition n
    let t ← token n
    let c := if t.isOperator "&" then c.inBackground else c
    let all := match before with
      | some b => .sequence b c
      | none => c
    if t.isEnding then return ← atEnd n (some all)
    if t.isNewline then
      again
      commandsBelow n lineOnly true (some all)
    else if t.isOperator "&" || t.isOperator ";" then commandsBelow n lineOnly true (some all)
    else
      if lineOnly then unexpected none
      again
      return some all

/-- The commands before the end of a script. -/
def atEnd : Nat → Option Command → Reading (Option Command)
  | 0, _ => fail .tooDeep
  | n + 1, before => do
    documentTexts n
    modify ({ · with again := true, last := .ending })
    return before

/-- Pipelines that are joined by whether they succeed. -/
def condition : Nat → Reading Command
  | 0 => fail .tooDeep
  | n + 1 => do
    let c ← pipeline n
    conditionFrom n c

def conditionFrom : Nat → Command → Reading Command
  | 0, _ => fail .tooDeep
  | n + 1, left => do
    let t ← token n
    if t.isOperator "&&" then
      expect .commandBelow
      let right ← pipeline n
      conditionFrom n (.both left right)
    else if t.isOperator "||" then
      expect .commandBelow
      let right ← pipeline n
      conditionFrom n (.either left right)
    else
      again
      return left

/-- Commands that pass their output on. -/
def pipeline : Nat → Reading Command
  | 0 => fail .tooDeep
  | n + 1 => do
    let t ← token n
    let negated := t.isKeyword "!"
    if negated then expect .command else again
    let first ← command n
    let c ← if (← token n).isOperator "|" then do
        let stages ← stagesBelow n [first]
        pure (.pipeline false stages)
      else pure first
    again
    return if negated then .negated c else c

/-- The stages of a pipeline from the next one on; the token behind them has been read. -/
def stagesBelow : Nat → List Command → Reading (List Command)
  | 0, _ => fail .tooDeep
  | n + 1, before => do
    expect .commandBelow
    let stages := (← command n) :: before
    if (← token n).isOperator "|" then stagesBelow n stages else return stages.reverse

/-- One command. -/
def command : Nat → Reading Command
  | 0 => fail .tooDeep
  | n + 1 => do
    let line := (← get).line
    match ← token n with
    | .keyword "if" =>
      let c ← choice n
      closed n line (.keyword "fi") c
    | .keyword "while" =>
      let c ← loop n false
      closed n line (.keyword "done") c
    | .keyword "until" =>
      let c ← loop n true
      closed n line (.keyword "done") c
    | .keyword "for" =>
      let c ← each n line
      closed n line (.keyword "done") c
    | .keyword "case" =>
      let c ← select n line
      withRedirections n line c
    | .operator "(" =>
      let body ← commandList n false false
      closed n line (.operator ")") (.subshell line body [])
    | .keyword "\x7b" =>
      let body ← commandList n false false
      closed n line (.keyword "\x7d") body
    | .word =>
      again
      simple n
    | .redirection _ _ =>
      again
      simple n
    | _ => unexpected none

/-- A command behind which a token closes it. -/
def closed : Nat → Nat → Token → Command → Reading Command
  | 0, _, _, _ => fail .tooDeep
  | n + 1, line, wanted, c => do
    let t ← token n
    let same := match wanted with
      | .keyword name => t.isKeyword name
      | .operator sign => t.isOperator sign
      | _ => false
    if !same then unexpected (some wanted)
    withRedirections n line c

/-- A command with the redirections behind it. -/
def withRedirections : Nat → Nat → Command → Reading Command
  | 0, _, _ => fail .tooDeep
  | n + 1, line, c => do
    expect .command
    return c.withRedirections line (← redirections n [])

/-- A condition and the commands for its outcomes, from the condition on. -/
def choice : Nat → Reading Command
  | 0 => fail .tooDeep
  | n + 1 => do
    let condition ← commandList n false false
    if !(← token n).isKeyword "then" then unexpected (some (.keyword "then"))
    let thenPart ← commandList n false false
    match ← token n with
    | .keyword "elif" => do return .choice condition thenPart (← choice n)
    | .keyword "else" => do return .choice condition thenPart (← commandList n false false)
    | _ =>
      again
      return .choice condition thenPart .nothing

/-- A loop from its condition on. -/
def loop : Nat → Bool → Reading Command
  | 0, _ => fail .tooDeep
  | n + 1, untilTrue => do
    let condition ← commandList n false false
    if !(← token n).isKeyword "do" then unexpected (some (.keyword "do"))
    return .loop untilTrue condition (← commandList n false false)

/-- A loop over words from its variable on. -/
def each : Nat → Nat → Reading Command
  | 0, _ => fail .tooDeep
  | n + 1, line => do
    let t ← token n
    let s ← get
    let name := s.word.plain?
    if !t.isWord || s.quoted || !name.any isNameOrEmpty then fail .badLoopVariable
    expect .commandBelow
    let words ← if (← token n).isKeyword "in" then do
        let words ← wordsBelow n []
        let t := (← get).last
        if !t.isNewline && !t.isOperator ";" then unexpected none
        pure words
      else do
        if !(← get).last.isOperator ";" then again
        pure [Word.allParameters]
    expect .commandBelow
    if !(← token n).isKeyword "do" then unexpected (some (.keyword "do"))
    return .each line (name.getD []) words (← commandList n false false)

/-- The words at this place; the token behind them has been read. -/
def wordsBelow : Nat → List Word → Reading (List Word)
  | 0, _ => fail .tooDeep
  | n + 1, before => do
    if (← token n).isWord then wordsBelow n ((← get).word :: before) else return before.reverse

/-- A selection from its subject on. -/
def select : Nat → Nat → Reading Command
  | 0, _ => fail .tooDeep
  | n + 1, line => do
    if !(← token n).isWord then unexpected (some .word)
    let subject := (← get).word
    expect .commandBelow
    if !(← token n).isKeyword "in" then unexpected (some (.keyword "in"))
    return .select line subject (← arms n)

/-- The arms of a selection from here on. -/
def arms : Nat → Reading (List (List Word × Command))
  | 0 => fail .tooDeep
  | n + 1 => do
    expect { newlines := true, keywords := true }
    let t ← token n
    if t.isKeyword "esac" then return []
    if t.isOperator "(" then
      let _ ← token n
    let patterns ← patternsBelow n []
    if !(← get).last.isOperator ")" then unexpected (some (.operator ")"))
    let body ← commandList n false true
    expect { newlines := true, keywords := true }
    let t ← token n
    if t.isKeyword "esac" then return [(patterns, body)]
    if !t.isOperator ";;" then unexpected (some (.operator ";;"))
    return (patterns, body) :: (← arms n)

/-- The patterns of an arm, the first of which has been read; so will be the token behind them. -/
def patternsBelow : Nat → List Word → Reading (List Word)
  | 0, _ => fail .tooDeep
  | n + 1, before => do
    let before := (← get).word :: before
    if (← token n).isOperator "|" then
      let _ ← token n
      patternsBelow n before
    else return before.reverse

/-- A simple command, or the definition of a function. -/
def simple : Nat → Reading Command
  | 0 => fail .tooDeep
  | n + 1 => do
    let line := (← get).line
    simpleFrom n line true [] [] []

/-- The rest of a simple command; what has been read of it stands in reverse order. -/
def simpleFrom : Nat → Nat → Bool → List Word → List Word → List Redirection → Reading Command
  | 0, _, _, _, _, _ => fail .tooDeep
  | n + 1, line, leading, assignments, words, redirected => do
    expect { aliases := leading }
    match ← token n with
    | .word =>
      let w := (← get).word
      if leading && w.isAssignment then
        simpleFrom n line true (w :: assignments) words redirected
      else simpleFrom n line false assignments (w :: words) redirected
    | .redirection channel kind =>
      let r ← redirection n channel kind
      simpleFrom n line leading assignments words (r :: redirected)
    | .operator "(" =>
      match assignments, words, redirected with
      | [], [w], [] => definition n w
      | _, _, _ =>
        again
        return .simple line assignments.reverse words.reverse redirected.reverse
    | _ =>
      again
      return .simple line assignments.reverse words.reverse redirected.reverse

/-- The definition of a function from its opening parenthesis on. -/
def definition : Nat → Word → Reading Command
  | 0, _ => fail .tooDeep
  | n + 1, w => do
    if !(← token n).isOperator ")" then unexpected (some (.operator ")"))
    match w.plain? with
    | some name =>
      if !isNameOrEmpty name || specialBuiltins.contains (Bytes.toName name) then
        fail .badFunctionName
      expect .commandBelow
      let line := (← get).line
      return .define line name (← command n)
    | none => fail .badFunctionName

end

namespace Source

/-- A bound on the depth of calls while a script is being read. -/
def depthLimit : Nat := 10000000

/-- The next complete command of a script, and the script behind it; nothing at its end. -/
def nextCommand (s : Source) : Except ScriptError (Option Command × Source) :=
  (commandsBelow depthLimit true false none).run
    { s with again := false, expected := {}, pending := [] }

/-- A whole text as the inside of double quotes: its pieces, and the documents in it. -/
def readPrompt (s : Source) : Except ScriptError (Word × Source) := do
  let reading : Reading Word := do
    let c ← nextJoined depthLimit
    let _ ← wholeWord depthLimit .script .double c
    return (← get).word
  reading.run s

end Source

end CommandBook.Shell
