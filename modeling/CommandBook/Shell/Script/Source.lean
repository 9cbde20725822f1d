import CommandBook.Shell.Script.Token

/-!
# Sources of scripts

A script that has been read up to some place. A word that is an alias is read anew as the text that
it stands for, and while that text is being read it stands for nothing more: the texts form a stack,
and an alias is free again as soon as a character behind its text has been asked for.

## Main definitions

* `Source` — the place, what is expected there, and what is still to be read
* `Reading` — reading a part of a script
* `Reading.next`, `Reading.unread` — one character forward and back
-/

namespace CommandBook.Shell

/-- A text that is being read: the script, or the text of an alias. -/
structure Passage where
  rest : Bytes
  /-- The alias that it stands for. -/
  standsFor : Option Bytes := none
  /-- The text ends with a blank, so that the next word may be an alias, too. -/
  blankAtEnd : Bool := false
  /-- Aliases whose texts had just ended where this one began. -/
  waiting : List Bytes := []

namespace Passage

/-- The aliases that are not free while a text is being read. -/
def names (p : Passage) : List Bytes := p.standsFor.toList ++ p.waiting

end Passage

/-- A document of which only the end is known. -/
structure PendingDocument where
  number : Nat
  verbatim : Bool
  strip : Bool
  mark : Bytes

/-- A script that has been read up to some place. -/
structure Source where
  /-- The texts that are being read, the innermost first. -/
  passages : List Passage
  /-- Aliases whose texts have just ended. -/
  ended : List Bytes := []
  /-- Aliases that stand for nothing in the whole script. -/
  held : List Bytes := []
  aliases : List (Bytes × Bytes) := []
  line : Nat := 1
  /-- The last token; `again` says that it is to be read once more. -/
  last : Token := .newline
  again : Bool := false
  expected : Expectation := {}
  /-- The last word, and whether it holds a quotation. -/
  word : Word := []
  quoted : Bool := false
  /-- The documents whose texts begin at the next line. -/
  pending : List PendingDocument := []
  documents : Array Document := #[]

namespace Source

/-- A script of which nothing has been read. -/
def ofBytes (text : Bytes) (documents : Array Document) (held : List Bytes) : Source :=
  { passages := [{ rest := text }], documents, held }

/-- The aliases that stand for nothing at this place. -/
def inUse (s : Source) : List Bytes :=
  s.passages.flatMap Passage.names ++ s.ended ++ s.held

/-- The text that a word stands for as an alias. -/
def alias? (s : Source) (w : Word) : Option (Bytes × Bytes) :=
  w.plain?.bind fun name =>
    if s.inUse.contains name then none
    else (s.aliases.lookup name).map fun text => (name, text)

/-- Whether the script has been read to its end. -/
def isDone (s : Source) : Bool := s.again && s.last.isEnding

end Source

/-- Reading a part of a script. -/
abbrev Reading := StateT Source (Except ScriptError)

namespace Reading

def fail {α : Type} (flaw : ScriptFlaw) : Reading α := do
  throw ⟨(← get).line, flaw⟩

/-- Fails at the last token. -/
def unexpected {α : Type} (wanted : Option Token) : Reading α := do
  fail (.unexpected (← get).last.describe (wanted.map Token.describe))

/-- What taking a character comes to. -/
structure Taken where
  char : Option Char
  passages : List Passage
  /-- Aliases whose texts have ended. -/
  ended : List Bytes
  /-- The last of these texts ends with a blank. -/
  blank : Bool

/-- Takes a character from the innermost text that has one. -/
def take : List Passage → (ended : List Bytes) → (blank : Bool) → Taken
  | [], ended, blank => ⟨none, [], ended, blank⟩
  | p :: outer, ended, blank =>
    match p.rest, outer with
    | c :: rest, _ => ⟨some c, { p with rest } :: outer, ended, blank⟩
    | [], [] => ⟨none, [p], ended, blank⟩
    | [], _ :: _ => take outer (p.names ++ ended) (blank || p.blankAtEnd)

/-- The next character. -/
def next : Reading (Option Char) := do
  let s ← get
  let t := take s.passages [] false
  set { s with
    passages := t.passages
    ended := t.ended
    expected := if t.blank then { s.expected with aliases := true } else s.expected }
  return t.char

/-- Puts characters back. -/
def unreadAll (cs : Bytes) : Reading Unit :=
  modify fun s =>
    match s.passages with
    | p :: outer => { s with passages := { p with rest := cs ++ p.rest } :: outer }
    | [] => { s with passages := [{ rest := cs }] }

/-- Puts a character back; the end of a script needs no putting back. -/
def unread : Option Char → Reading Unit
  | some c => unreadAll [c]
  | none => return

def newLine : Reading Unit := modify fun s => { s with line := s.line + 1 }

/-- The next character behind line ends that a backslash hides. -/
def nextJoined : Nat → Reading (Option Char)
  | 0 => next
  | n + 1 => do
    let c ← next
    if c == some '\\' then
      let d ← next
      if d == some '\n' then
        newLine
        nextJoined n
      else
        unread d
        return c
    else return c

def again : Reading Unit := modify ({ · with again := true })

def expect (e : Expectation) : Reading Unit := modify ({ · with expected := e })

/-- Notes the last token. -/
def found (t : Token) : Reading Token := do
  modify ({ · with last := t })
  return t

end Reading

end CommandBook.Shell
