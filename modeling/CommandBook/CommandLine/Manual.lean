import CommandBook.CommandLine.Flaw
import CommandBook.Text.Cased
import CommandBook.Text.Controls
import CommandBook.Text.Filling

/-!
# Manuals

What can be shown about a command: its usage, a text about it, its options and its subcommands, laid
out in lines of eighty columns.

## Main definitions

* `Manual`, `Manual.usage`, `Manual.text`
* `Manual.complaint` — the report of a flaw
* `summary` — the beginning of a text that fits into a line
-/

namespace CommandBook

/-! ## Texts about commands -/

/-- The lines of a text without the indent that all but the first have in common. -/
def outdent : List (List Char) → List (List Char)
  | [] => []
  | first :: rest =>
    let indents := rest.filterMap fun l =>
      let text := l.dropWhile Text.isBlank
      if text.isEmpty then none else some (l.length - text.length)
    let margin := indents.min?.getD 0
    first.dropWhile Text.isBlank :: rest.map (List.drop margin)

/-- A text about a command as the manual shows it: tabs expanded, without a common indent, without
empty lines around it, and without what stands behind a form feed. -/
def cleaned (text : List Char) : List Char :=
  let lines := outdent (Text.splitWhere (· == '\n') (Text.expandTabs 0 text))
  let lines := (lines.reverse.dropWhile List.isEmpty).reverse.dropWhile List.isEmpty
  (Text.joinLines lines).takeWhile (· != '\x0c')

/-- The part of a text before the first empty line. -/
def firstParagraph : List Char → List Char
  | '\n' :: '\n' :: _ => []
  | c :: rest => c :: firstParagraph rest
  | [] => []

/-- The length of words with a blank between each two. -/
def joinedLength (ws : List (List Char)) : Nat := (List.intercalate [' '] ws).length

/-- As many words as fit with the mark of omission behind them. -/
def takeWords (room : Nat) (ws : List (List Char)) : List Char :=
  let fits (n : Nat) : Bool := joinedLength (ws.take n) + 3 ≤ room
  let n := ((List.range ws.length).reverse.find? fits).getD 0
  List.intercalate [' '] (ws.take n) ++ ['.', '.', '.']

/-- Whether a word ends a sentence, given the word behind it: a small letter goes on with the
sentence, as behind an abbreviation. -/
def endsSentence (word : List Char) (next : Option (List Char)) : Bool :=
  word.getLast? == some '.' && !next.any (·.head?.any Text.isLowercase)

/-- The words of a text up to the end of its first sentence, if that fits into the room; all of
them, if the text has no sentence and fits; otherwise nothing. -/
def firstSentence (room : Nat) : (before after : List (List Char)) → Option (List (List Char))
  | before, [] => some before
  | before, w :: rest =>
    let words := before ++ [w]
    if joinedLength words > room then none
    else if endsSentence w rest.head? then some words
    else if joinedLength words == room && !rest.isEmpty then none
    else firstSentence room words rest

/-- The beginning of a text in one line: the first sentence, or as many words as there is room
for. -/
def summary (room : Nat) (text : List Char) : List Char :=
  let ws := Text.words (firstParagraph text)
  let ws := if ws.head? == some Text.keepMark then ws.tail else ws
  match firstSentence room [] ws with
  | some words => List.intercalate [' '] words
  | none => takeWords room ws

/-! ## Layout -/

/-- The number of columns. -/
def columns : Nat := 80

/-- The widest first column of a list. -/
def widestTerm : Nat := 30

/-- The indent of texts and lists. -/
def indent : List Char := [' ', ' ']

def spaces (n : Nat) : List Char := List.replicate n ' '

/-- One entry of a list of terms, with the room of the first column and the space behind it. -/
def termLines (room : Nat) (row : String × String) : List (List Char) :=
  let term := indent ++ row.1.toList
  if row.2.isEmpty then [term]
  else
    let text := Text.splitLines (Text.fillParagraphs (max (columns - room - 2) 10) [] row.2.toList)
    let hang := indent ++ spaces room
    let start := spaces (room - Text.width row.1)
    let (before, start) :=
      if Text.width row.1 + 2 ≤ room then ([], term ++ start) else ([term], hang)
    match text with
    | [] => before ++ [start]
    | l :: rest => before ++ (start ++ l) :: rest.map (hang ++ ·)

/-- A list of terms with what they mean, under a heading; nothing without entries. -/
def termList (heading : String) (rows : List (String × String)) : List (List Char) :=
  match (rows.map fun r => Text.width r.1).max? with
  | none => []
  | some widest =>
    let room := min widest widestTerm + 2
    [Text.joinLines ((heading.toList ++ [':']) :: rows.flatMap (termLines room))]

/-! ## Manuals -/

/-- A subcommand in a manual: its name and a text about it, which may be empty. -/
structure ManualEntry where
  name : String
  about : String

/-- What can be shown about a command. -/
structure Manual where
  /-- The words that lead to the command. -/
  path : String
  /-- What may stand behind these words. -/
  pieces : List String
  about : String := ""
  options : List (String × String) := []
  commands : List ManualEntry := []

namespace Manual

/-- The option that shows the manual. -/
def helpName : String := "--help"

/-- The usage: the path, and the pieces beside it, or below it when the path is long. -/
def usage (m : Manual) : String :=
  let start := "Usage: " ++ m.path ++ " "
  let pieces := Text.expandTabs 0 (String.intercalate " " m.pieces).toList
  let width := Text.width start
  if width + 20 ≤ columns then
    String.ofList (Text.fill columns start.toList (spaces width) pieces)
  else
    let hang := spaces ("Usage: ".length + 4)
    start ++ "\n" ++ String.ofList (Text.fill columns hang hang pieces)

/-- The room for the texts about subcommands. -/
def summaryRoom (m : Manual) : Nat :=
  columns - 6 - ((m.commands.map (·.name.length)).max?.getD 0)

/-- The list of subcommands. -/
def commandRows (m : Manual) : List (String × String) :=
  m.commands.map fun c => (c.name, String.ofList (summary m.summaryRoom c.about.toList))

/-- The parts of a manual, which stand in paragraphs of their own. -/
def parts (m : Manual) : List (List Char) :=
  let about := cleaned m.about.toList
  [m.usage.toList] ++ (if about.isEmpty then [] else [Text.fillParagraphs columns indent about]) ++
    termList "Options" m.options ++ termList "Commands" m.commandRows

/-- The whole manual. -/
def text (m : Manual) : String :=
  String.ofList (Text.dropTrailing (· == '\n') (List.intercalate ['\n', '\n'] m.parts))

/-- Whether the manual can be asked for. -/
def isOffered (m : Manual) : Bool := m.options.any (·.1 == helpName)

/-- The report of a flaw, as texts of one line or more. -/
def complaint (m : Manual) (flaw : UsageFlaw) : List String :=
  let hint := if m.isOffered then s!"Try '{m.path} {helpName}' for help.\n" else ""
  (if flaw.showsUsage then [m.usage ++ "\n" ++ hint] else []) ++ ["Error: " ++ flaw.message]

end Manual

end CommandBook
