import CommandBook.Shell.Script

/-!
# Parts of words

A word before it is expanded: its pieces sorted into the parts that are expanded in one step each.
Only here shows where a tilde stands for a home directory, and where all positional parameters stand
in quotes of their own.

## Main definitions

* `Manner` — how a word is expanded
* `Part`, `Word.parts` — the parts of a word under a manner
-/

namespace CommandBook.Shell

/-- How a word is expanded. -/
structure Manner where
  /-- Fields are to be made of it. -/
  fields : Bool := false
  /-- It is a pattern. -/
  pattern : Bool := false
  /-- A tilde at its start may stand for a home directory. -/
  tilde : Bool := false
  /-- It assigns, so that a tilde may also stand behind an equals sign or a colon. -/
  assigns : Bool := false
  /-- The equals sign has been passed. -/
  passed : Bool := false
  /-- It stands inside a parameter. -/
  inner : Bool := false
  quoted : Bool := false

namespace Manner

/-- Whether it matters later what was quoted. -/
def guarded (m : Manner) : Bool := m.fields || m.pattern

/-- The arguments of commands. -/
def argument : Manner := { fields := true, tilde := true }

/-- Texts that stay whole. -/
def whole : Manner := { tilde := true }

/-- Words that assign. -/
def assignment : Manner := { assigns := true }

/-- Texts that texts are compared with. -/
def comparison : Manner := { pattern := true, tilde := true }

/-- Texts in which nothing but substitutions counts. -/
def document : Manner := { quoted := true }

/-- The manner of a word inside a parameter. -/
def within (m : Manner) : Manner := { m with tilde := true, inner := true, passed := true }

end Manner

/-- What is expanded in one step. -/
inductive Part where
  | text (cs : Bytes)
  | escaped (c : Char)
  | mark
  /-- The home directory of the user. -/
  | home
  /-- The home directory of somebody else. -/
  | homeAt (path : Bytes)
  /-- All positional parameters in quotes of their own. -/
  | parameters
  | piece (p : Piece)

namespace Word

/-- The home directories of users. -/
def homes : List (String × String) :=
  [("root", "/root"), ("daemon", "/usr/sbin"), ("bin", "/bin"), ("sys", "/dev"), ("sync", "/bin"),
    ("games", "/usr/games"), ("man", "/var/cache/man"), ("lp", "/var/spool/lpd"),
    ("mail", "/var/mail"), ("news", "/var/spool/news"), ("uucp", "/var/spool/uucp"),
    ("proxy", "/bin"), ("www-data", "/var/www"), ("backup", "/var/backups"),
    ("list", "/var/list"), ("irc", "/run/ircd"), ("_apt", "/nonexistent"),
    ("nobody", "/nonexistent")]

/-- A text divided behind each place where a tilde may follow. -/
def segments (m : Manner) : Bytes → (passed : Bool) → List Bytes
  | [], _ => []
  | c :: rest, passed =>
    let cuts := m.assigns && (c == ':' || (c == '=' && !passed))
    match cuts, segments m rest (passed || c == '=') with
    | false, s :: later => (c :: s) :: later
    | _, later => [c] :: later

/-- What a segment with a tilde at its start begins with, and the rest of it; `ends` says that a name
may end with the segment. -/
def homePart? (m : Manner) (ends : Bool) : Bytes → Option (Part × Bytes)
  | '~' :: rest =>
    let name := rest.takeWhile fun c => c != '/' && !(m.assigns && c == ':')
    let rest := rest.drop name.length
    if rest.isEmpty && !ends then none
    else if name.isEmpty then some (.home, rest)
    else (homes.lookup (Bytes.toName name)).map fun path => (.homeAt path.toList, rest)
  | _ => none

/-- A text before parts. -/
def withText (cs : Bytes) : List Part → List Part
  | .text ds :: later => .text (cs ++ ds) :: later
  | later => if cs.isEmpty then later else .text cs :: later

/-- The parts of the segments of a text; `tilde` says that the first may begin with a home. -/
def segmentParts (m : Manner) (ends : Bool) : (tilde : Bool) → List Bytes → List Part
  | _, [] => []
  | tilde, s :: later =>
    match if tilde then homePart? m (ends || !later.isEmpty) s else none with
    | some (p, rest) => p :: withText rest (segmentParts m ends true later)
    | none => withText s (segmentParts m ends true later)

/-- The state of the sorting: the text that has not been sorted yet, whether the word has just begun,
and the parts so far; text and parts stand in reverse order. -/
structure Sorting where
  run : Bytes := []
  first : Bool := true
  inQuotes : Bool := false
  parts : List Part := []

namespace Sorting

/-- Sorts the text; `ends` says that the word ends behind it. -/
def settle (m : Manner) (ends : Bool) (s : Sorting) : Sorting :=
  let text := s.run.reverse
  let found := segmentParts m ends (s.first && m.tilde) (segments m text (m.passed || !s.first))
  { s with run := [], first := false, parts := found.reverse ++ s.parts }

def push (m : Manner) (s : Sorting) (p : Part) : Sorting :=
  let s := s.settle m false
  { s with parts := p :: s.parts }

end Sorting

/-- Sorts the pieces of a word. -/
def sort (m : Manner) : List Piece → Sorting → Sorting
  | [], s => s.settle m true
  | .stop :: _, s => s.settle m true
  | .char c :: rest, s => sort m rest { s with run := c :: s.run }
  | .escaped c :: rest, s => sort m rest (s.push m (.escaped c))
  | .mark :: .parameter ['@'] false .plain _ :: .mark :: rest, s =>
    if s.inQuotes then
      sort m rest (((s.push m .mark).push m (.piece (.parameter ['@'] false .plain []))).push m .mark)
    else sort m rest (s.push m .parameters)
  | .mark :: rest, s => sort m rest { s.push m .mark with inQuotes := !s.inQuotes }
  | p :: rest, s => sort m rest (s.push m (.piece p))

/-- The parts of a word. -/
def parts (m : Manner) (w : Word) : List Part := (sort m w {}).parts.reverse

end Word

end CommandBook.Shell
