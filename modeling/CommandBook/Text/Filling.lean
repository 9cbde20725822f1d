import CommandBook.Text.Alphanumeric
import CommandBook.Text.Blank
import CommandBook.Text.Controls
import CommandBook.Text.Lines

/-!
# Filled paragraphs

Text laid out in lines of limited width. A text falls apart into chunks, between which a line may be
broken: blanks, words, and the parts of a word that is joined by hyphens. Lines are filled with as
many chunks as they hold; blanks at a break are dropped, and a word wider than a line is cut.

## Main definitions

* `chunks` — the places where a line may be broken
* `fill` — one paragraph
* `fillParagraphs` — paragraphs between empty lines, each with the indent of its first line
-/

namespace CommandBook.Text

/-! ## Chunks -/

/-- The blanks at which a line may be broken; a no-break space is not among them. -/
def isBreakable (c : Char) : Bool := (0x09 ≤ c.toNat && c.toNat ≤ 0x0D) || c == ' '

/-- The characters that can stand before a dash between two words. -/
def isWordMark (c : Char) : Bool := isIdentifierChar c || "!\"'&.,?".toList.contains c

/-- Two hyphens or more with a word behind them. -/
def startsDash (cs : List Char) : Bool :=
  let hyphens := cs.takeWhile (· == '-')
  2 ≤ hyphens.length && (cs.drop hyphens.length).head?.any isIdentifierChar

/-- A hyphen with two letters behind it, which may have a hyphen between them. -/
def startsJoint : List Char → Bool
  | '-' :: a :: '-' :: b :: _ => isIdentifierLetter a && isIdentifierLetter b
  | '-' :: a :: b :: _ => isIdentifierLetter a && isIdentifierLetter b
  | _ => false

/-- Whether a hyphen joins what stands before it (nearest first): two letters, which may have a
hyphen between them. -/
def endsJoint : List Char → Bool
  | a :: '-' :: b :: _ => isIdentifierLetter a && isIdentifierLetter b
  | a :: b :: _ => isIdentifierLetter a && isIdentifierLetter b
  | _ => false

inductive ChunkKind where
  | blank | dash | word
  /-- A word that ends with the next character, a hyphen. -/
  | joined

/-- The kind of the chunk that begins here, after the characters `before` (nearest first). -/
def kindAt (before cs : List Char) : ChunkKind :=
  if cs.head?.any isBreakable then .blank
  else if before.head?.any isWordMark && startsDash cs then .dash
  else .word

/-- The kind of a chunk that goes on after the characters `before`; none if it ends there. -/
def continued? (kind : ChunkKind) (before rest : List Char) : Option ChunkKind :=
  match kind with
  | .blank => if rest.head?.any isBreakable then some .blank else none
  | .dash => if rest.head? == some '-' then some .dash else none
  | .joined => none
  | .word =>
    if startsJoint rest && endsJoint before then some .joined
    else if rest.isEmpty || rest.head?.any isBreakable then none
    else if before.head?.any isWordMark && startsDash rest then none
    else some .word

/-- The chunks of a text after the characters `before`; `current` is the chunk that has begun, with
its kind (both nearest first). -/
def chunksFrom (before : List Char) (kind : Option ChunkKind) (current : List Char) :
    List Char → List (List Char)
  | [] => if current.isEmpty then [] else [current.reverse]
  | c :: rest =>
    match continued? (kind.getD (kindAt before (c :: rest))) (c :: before) rest with
    | some k => chunksFrom (c :: before) (some k) (c :: current) rest
    | none => (c :: current).reverse :: chunksFrom (c :: before) none [] rest

/-- The chunks of a text. -/
def chunks (cs : List Char) : List (List Char) := chunksFrom [] none [] cs

/-! ## Lines -/

def isBlankChunk (cs : List Char) : Bool := cs.all isBlank

/-- The chunks that a line of some width still holds, and the others. -/
def takeFitting (width : Nat) : List (List Char) → List (List Char) × List (List Char)
  | [] => ([], [])
  | c :: rest =>
    if room c ≤ width then
      let r := takeFitting (width - room c) rest
      (c :: r.1, r.2)
    else ([], c :: rest)

/-- The chunks of one line of some width, and the others. A chunk that is wider than any line is
cut. -/
def takeLine (width : Nat) (cs : List (List Char)) : List (List Char) × List (List Char) :=
  match takeFitting width cs with
  | (line, c :: rest) =>
    if room c ≤ width then (line, c :: rest)
    else
      let (start, left) := splitRoom (max (width - room line.flatten) 1) c
      (line ++ [start], left :: rest)
  | r => r

/-- The text of a line: its chunks without a blank one at the end. -/
def lineText (cs : List (List Char)) : List Char :=
  (if cs.getLast?.any isBlankChunk then cs.dropLast else cs).flatten

/-- Lines of chunks, `steps` at most; all but the first line of the text drop a blank at their
start. -/
def linesFrom (width : Nat) (first others : List Char) :
    (steps : Nat) → (started : Bool) → List (List Char) → List (List Char)
  | 0, _, _ => []
  | _ + 1, _, [] => []
  | steps + 1, started, c :: rest =>
    let cs := if started && isBlankChunk c then rest else c :: rest
    let indent := if started then others else first
    let (line, left) := takeLine (width - indent.length) cs
    let text := lineText line
    if text.isEmpty then linesFrom width first others steps started left
    else (indent ++ text) :: linesFrom width first others steps true left

/-- The text with tabs up to the next multiple of eight columns, from a column on. -/
def expandTabs (column : Nat) : List Char → List Char
  | [] => []
  | '\t' :: rest =>
    let n := 8 - column % 8
    List.replicate n ' ' ++ expandTabs (column + n) rest
  | c :: rest => c :: expandTabs (if c == '\n' || c == '\r' then 0 else column + 1) rest

/-- Lines of text joined. -/
def joinLines (ls : List (List Char)) : List Char := List.intercalate ['\n'] ls

/-- A paragraph in lines of some width, with an indent for the first line and one for the others.
Each line takes a character or drops a chunk, which bounds their number. -/
def fill (width : Nat) (first others : List Char) (cs : List Char) : List Char :=
  joinLines (linesFrom width first others (2 * cs.length + 2) false (chunks cs))

/-! ## Paragraphs -/

/-- A paragraph: its indent and its lines, the first without its indent. -/
structure Paragraph where
  indent : Nat
  lines : List (List Char)

/-- The paragraphs of lines, after the lines of one that has begun. -/
def paragraphsFrom (current : Option Paragraph) : List (List Char) → List Paragraph
  | [] => current.toList
  | l :: rest =>
    if l.isEmpty then current.toList ++ paragraphsFrom none rest
    else
      match current with
      | some p => paragraphsFrom (some { p with lines := p.lines ++ [l] }) rest
      | none =>
        let text := l.dropWhile isBlank
        paragraphsFrom (some { indent := l.length - text.length, lines := [text] }) rest

/-- The mark on a line of its own that keeps the lines of a paragraph as they are. -/
def keepMark : List Char := ['\x08']

/-- A paragraph with an indent before all its lines. -/
def Paragraph.text (width : Nat) (indent : List Char) (p : Paragraph) : List Char :=
  let indent := indent ++ List.replicate p.indent ' '
  match p.lines with
  | l :: rest =>
    if trimChars l == keepMark then joinLines (rest.map (indent ++ ·))
    else fill width indent indent (List.intercalate [' '] p.lines)
  | [] => []

/-- Paragraphs in lines of some width, with an indent before all lines. -/
def fillParagraphs (width : Nat) (indent : List Char) (cs : List Char) : List Char :=
  List.intercalate ['\n', '\n']
    ((paragraphsFrom none (splitLines (expandTabs 0 cs))).map (Paragraph.text width indent))

end CommandBook.Text
