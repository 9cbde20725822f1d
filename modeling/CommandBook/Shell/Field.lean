import CommandBook.Shell.Pattern
import CommandBook.Shell.Place

/-!
# Fields

Expanded text, how it falls apart into fields, and the files that a field selects. Expanded text is
a row of cells, in which *regions* note what came out of substitutions: only there do separators
divide it.

## Main definitions

* `Cell`, `Region` — expanded text
* `Field.split` — the fields of expanded text
* `Field.select` — the paths that a field selects as a pattern
* `Field.trim` — text without a part that a pattern selects
-/

namespace CommandBook.Shell

/-- An item of expanded text. -/
inductive Cell where
  /-- A character; one that is escaped stands for itself in a pattern. -/
  | char (c : Char) (escaped : Bool)
  /-- A place where a quotation begins or ends. -/
  | mark
deriving DecidableEq

namespace Cell

/-- The character of a cell; a mark has none that a text could hold. -/
def char? : Cell → Option Char
  | .char c _ => some c
  | .mark => none

def isNul : Cell → Bool
  | .char c _ => c.toNat == 0
  | .mark => false

/-- The characters of expanded text. -/
def text (cells : List Cell) : Bytes := cells.filterMap char?

/-- Whether a character would mean more in a pattern, or is a sign by which shells mark text. -/
def isControl (quoted : Bool) (c : Char) : Bool :=
  (0x81 ≤ c.toNat && c.toNat ≤ 0x88) || (quoted && "!*?[=~:/-]\\".toList.contains c)

/-- The cells of a value; `guarded` says that quoted characters are to stand for themselves. -/
def ofBytes (quoted guarded : Bool) (b : Bytes) : List Cell :=
  b.map fun c => .char c (guarded && isControl quoted c)

/-- Expanded text as a pattern: escaped characters stand behind a backslash, unless one stands there
already. -/
def pattern (cells : List Cell) : Bytes := go cells false true
where
  go : List Cell → (inQuotes bare : Bool) → Bytes
    | [], _, _ => []
    | .mark :: rest, inQuotes, bare => go rest (!inQuotes) bare
    | .char c escaped :: rest, inQuotes, bare =>
      if c == '\\' && !escaped then c :: go rest inQuotes false
      else if !escaped then c :: go rest inQuotes true
      else if bare then '\\' :: c :: go rest inQuotes true
      else if inQuotes then '\\' :: '\\' :: c :: go rest inQuotes true
      else c :: go rest inQuotes true

end Cell

/-- A part of expanded text that separators divide; in one that is `borders` only, nothing does but
the borders between parameters, which are zeros. -/
structure Region where
  start : Nat
  stop : Nat
  borders : Bool

/-- The separators where none are given. -/
def defaultSeparators : Bytes := [' ', '\t', '\n']

namespace Field

/-- The state of a division: where the present field starts, whether a blank separator has just been
passed, how many fields may still be made, and from where on the last of them is to be cut. -/
structure Division where
  start : Nat := 0
  blank : Bool := false
  left : Option Nat
  cut : Option Nat := none
  /-- Start and end of the fields so far, the last first. -/
  fields : List (Nat × Nat) := []

namespace Division

/-- Goes over a character of a region. -/
def step (separators : Bytes) (quiet : Bool) (d : Division) (i : Nat) (c : Option Char) :
    Division :=
  let border := c == some '\x00'
  let separates := border || c.any separators.contains
  let blank := separates && (border || c.any defaultSeparators.contains)
  if d.left == some 0 then
    if blank then { d with cut := d.cut.or (some i) }
    else { d with cut := if separates && d.blank then d.cut else none, blank := false }
  else
    let place := if d.blank && separates then i + 1 else i
    let d' := if d.blank then { d with start := place } else d
    if d.blank && blank then d'
    else if separates && !d.blank then
      let d' := if quiet then d' else { d' with blank }
      if place == d'.start && d'.blank then { d' with start := i + 1, blank := false }
      else if d'.left == some 1 then { d' with left := some 0, cut := some place }
      else
        { d' with
          fields := (d'.start, place) :: d'.fields
          start := i + 1
          left := d'.left.map (· - 1) }
    else { d' with blank := false }

/-- Goes over a region; `after` says that the one before had nothing but borders. -/
def region (separators : Bytes) (cells : Array Cell) (after : Bool) (r : Region) (d : Division) :
    Division :=
  (List.range' r.start (r.stop - r.start)).foldl
    (fun d i => d.step (if r.borders then [] else separators) (after || r.borders) i
      (cells[i]?.bind Cell.char?))
    { d with blank := false }

def regions (separators : Bytes) (cells : Array Cell) : Bool → List Region → Division → Division
  | _, [], d => d
  | after, r :: rest, d => regions separators cells r.borders rest (d.region separators cells after r)

end Division

/-- The fields of expanded text, at most as many as given. -/
def split (separators : Bytes) (limit : Option Nat) (cells : Array Cell) (regions : List Region) :
    List (List Cell) :=
  let d := Division.regions separators cells false regions { left := limit }
  let borders := regions.getLast?.any (·.borders)
  let part (start stop : Nat) : List Cell :=
    (cells.extract start stop).toList.takeWhile fun c => !c.isNul
  let last := part d.start (if borders then cells.size else d.cut.getD cells.size)
  let made := d.fields.reverse.map fun (start, stop) => part start stop
  if !borders && last.isEmpty then made else made ++ [last]

/-- Whether a text could be a pattern at all. -/
def maySelect (b : Bytes) : Bool := b.any "*?[".toList.contains

/-- A pattern without its backslashes. -/
def unescape : Bytes → Bytes
  | '\\' :: c :: rest => c :: unescape rest
  | c :: rest => c :: unescape rest
  | [] => []

/-- Whether a bracket closes behind its opening one. -/
def closes : Bytes → Bool
  | [] => false
  | '\\' :: _ :: rest => rest.head? == some ']' || closes rest
  | _ :: rest => rest.head? == some ']' || closes rest

/-- Whether one name in a path is a pattern. -/
def isPattern : Bytes → Bool
  | [] => false
  | '*' :: _ => true
  | '?' :: _ => true
  | '[' :: '!' :: rest => closes rest || isPattern rest
  | '[' :: rest => closes rest || isPattern rest
  | '\\' :: _ :: rest => isPattern rest
  | _ :: rest => isPattern rest

/-- The names in a pattern for paths. A backslash before a slash is dropped. -/
def namesOf : Bytes → List Bytes
  | [] => [[]]
  | '\\' :: '/' :: rest => [] :: namesOf rest
  | '\\' :: c :: rest =>
    match namesOf rest with
    | name :: names => ('\\' :: c :: name) :: names
    | [] => [['\\', c]]
  | '/' :: rest => [] :: namesOf rest
  | c :: rest =>
    match namesOf rest with
    | name :: names => (c :: name) :: names
    | [] => [[c]]

/-- The names in a directory that a pattern selects. One that starts with a dot is only selected by
a pattern that does. -/
def selectNames (files : FileTree) (directory pattern : Bytes) : List Bytes :=
  match Place.directoryAt files (if directory.isEmpty then ['.'] else directory) with
  | .error _ => []
  | .ok l =>
    let start := match pattern with
      | '\\' :: c :: _ => some c
      | c :: _ => some c
      | [] => none
    let p := Pattern.ofBytes pattern
    (['.'] :: ['.', '.'] :: Place.namesIn files l).filter fun name =>
      (start == some '.' || name.head? != some '.') && p.selects name

/-- The paths that names select, the first of which lie in `directory` behind `plain`; `within` says
that a pattern stands before them. -/
def selectWithin (files : FileTree) : List Bytes → (directory : Bytes) → (within : Bool) →
    (plain : Bytes) → List Bytes
  | [], _, _, _ => []
  | name :: rest, directory, within, plain =>
    let place := directory ++ plain
    if isPattern name then
      (selectNames files place name).flatMap fun found =>
        if rest.isEmpty then [place ++ found]
        else selectWithin files rest (place ++ found ++ ['/']) true []
    else if rest.isEmpty then
      let path := place ++ unescape name
      if within && (Place.find? files path).isSome then [path] else []
    else selectWithin files rest directory within (plain ++ unescape name ++ ['/'])

/-- The paths that a field selects as a pattern, in order. -/
def select (files : FileTree) (field : List Cell) : List Bytes :=
  if !maySelect (Cell.text field) then []
  else
    (selectWithin files (namesOf (Bytes.untilNul (Cell.pattern field))) [] false []).mergeSort
      Bytes.before

/-- What a part of expanded text is compared in. The text, the pattern and, if the text before its
first border holds escaped characters, a copy of that text without escapes lie one behind another,
each with a zero at its end. Places in the text and places of comparison go side by side, both from
the start or both from the end; so, where there are borders, what is compared may begin in front of
the copy. -/
structure Comparison where
  memory : Array Char
  pattern : Bytes
  patternStart : Nat
  /-- Where the compared text starts, and where it ends. -/
  start : Nat
  stop : Nat

namespace Comparison

/-- The sign before an escaped character. -/
def escapeSign : Char := '\x81'

def ofCells (pattern : Bytes) (cells : List Cell) : Comparison :=
  let raw := cells.flatMap fun
    | .char c true => [escapeSign, c]
    | .char c false => [c]
    | .mark => []
  let first := cells.takeWhile fun c => !c.isNul
  let text := Cell.text first
  let isCopied := first.any fun
    | .char _ escaped => escaped
    | .mark => false
  let patternStart := raw.length + 1
  let copyStart := patternStart + pattern.length + 1
  { memory := (raw ++ '\x00' :: pattern ++ '\x00' ::
      if isCopied then text ++ ['\x00'] else []).toArray
    pattern, patternStart
    start := if isCopied then copyStart else 0
    stop := if isCopied then copyStart + text.length else raw.length }

/-- The text at a place. -/
def textAt (c : Comparison) (start stop : Nat) : Bytes :=
  Bytes.untilNul (c.memory.extract start stop).toList

/-- Whether the pattern selects the text from a place on. -/
def selectsFrom (c : Comparison) (i : Nat) : Bool :=
  (Pattern.ofBytes c.pattern).selects (c.textAt i c.memory.size)

/-- Whether the pattern selects the text up to a place, at which a zero is put meanwhile. -/
def selectsUpTo (c : Comparison) (i : Nat) : Bool :=
  let pattern := if i < c.start && c.patternStart ≤ i then c.pattern.take (i - c.patternStart)
    else c.pattern
  (Pattern.ofBytes pattern).selects
    (c.textAt c.start (if c.start ≤ i then i else c.memory.size))

end Comparison

/-- Text without the shortest or longest part at its start or end that a pattern selects. -/
def trim (front longest : Bool) (pattern : Bytes) (cells : List Cell) : List Cell :=
  let c := Comparison.ofCells (Bytes.untilNul pattern) cells
  let fromStart := (List.range (c.textAt c.start c.memory.size).length.succ).map fun k =>
    (k, c.start + k)
  let fromStop := (List.range (cells.length + 1)).map fun k => (cells.length - k, c.stop - k)
  let selected (place : Nat × Nat) : Bool :=
    if front then c.selectsUpTo place.2 else c.selectsFrom place.2
  match (if front == longest then fromStop else fromStart).find? selected with
  | some (i, _) => if front then cells.drop i else cells.take i
  | none => cells

end Field

end CommandBook.Shell
