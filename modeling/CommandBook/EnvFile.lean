import CommandBook.FileTree
import CommandBook.Template.Environment
import CommandBook.Text.Blank

/-!
# Environment files

A file of lines `NAME=value`, perhaps with `export` in front. Values may be quoted, quoted values
may hold line ends and escapes, and comments start with `#` behind a blank. A line that cannot be
read is skipped. Values may refer to variables with `${NAME}` and `${NAME:-default}`; what the file
has set so far comes before the environment.

## Termination

Reading a line leaves less text than there was; the loop over the lines checks that and stops
otherwise.

## Main definitions

* `parse` — the variables that a text sets, in order, those without a value included
* `assignments` — the same with references replaced
* `layeredOver` — an environment with the variables of a file over it
-/

namespace CommandBook.EnvFile

open Template

/-- A blank that is not a line end. -/
def isInlineBlank (c : Char) : Bool := Text.isBlank c && c != '\n' && c != '\r'

/-- A character of a name without quotes. -/
def isNameChar (c : Char) : Bool := c != '=' && c != '#' && !Text.isBlank c

/-- A text without the word `export` and the blanks behind it. -/
def skipExport : List Char → List Char
  | 'e' :: 'x' :: 'p' :: 'o' :: 'r' :: 't' :: c :: rest =>
    if isInlineBlank c then rest.dropWhile isInlineBlank
    else 'e' :: 'x' :: 'p' :: 'o' :: 'r' :: 't' :: c :: rest
  | cs => cs

/-- The name at the start of a text and the text behind it; no name where a comment starts. -/
def name (cs : List Char) : Except (List Char) (Option (List Char) × List Char) :=
  match cs with
  | '#' :: _ => .ok (none, cs)
  | '\'' :: rest =>
    let inner := rest.takeWhile (· != '\'')
    match inner.isEmpty, rest.drop inner.length with
    | false, _ :: behind => .ok (some inner, behind)
    | _, _ => .error cs
  | _ =>
    let inner := cs.takeWhile isNameChar
    if inner.isEmpty then .error cs else .ok (some inner, cs.drop inner.length)

/-- The text up to a closing quote, latest character first in `read`, and the text behind it. A
backslash takes the next character with it, so a quote behind one closes nothing. -/
def upToQuote (quote : Char) (read : List Char) : List Char → Option (List Char × List Char)
  | [] => none
  | '\\' :: c :: rest => upToQuote quote (c :: '\\' :: read) rest
  | c :: rest => if c == quote then some (read.reverse, rest) else upToQuote quote (c :: read) rest

/-- The character that an escape between double quotes stands for. -/
def doubleEscape? : Char → Option Char
  | '\\' => some '\\'
  | '\'' => some '\''
  | '"' => some '"'
  | 'a' => some '\x07'
  | 'b' => some '\x08'
  | 'f' => some '\x0C'
  | 'n' => some '\n'
  | 'r' => some '\r'
  | 't' => some '\t'
  | 'v' => some '\x0B'
  | _ => none

/-- The character that an escape between single quotes stands for. -/
def singleEscape? : Char → Option Char
  | '\\' => some '\\'
  | '\'' => some '\''
  | _ => none

/-- A text with its escapes replaced; a backslash that begins none stays. -/
def unescape (escape? : Char → Option Char) : List Char → List Char
  | [] => []
  | '\\' :: c :: rest =>
    match escape? c with
    | some d => d :: unescape escape? rest
    | none => '\\' :: unescape escape? (c :: rest)
  | c :: rest => c :: unescape escape? rest

/-- A text up to the first comment: blanks and then a number sign. -/
def beforeComment : List Char → List Char
  | [] => []
  | c :: rest =>
    if Text.isBlank c && (rest.dropWhile Text.isBlank).head? == some '#' then []
    else c :: beforeComment rest

/-- The value at the start of a text, behind the equals sign, and the text behind it. -/
def value (cs : List Char) : Except (List Char) (List Char × List Char) :=
  let start := cs.dropWhile isInlineBlank
  match start with
  | '\'' :: rest =>
    match upToQuote '\'' [] rest with
    | some (v, behind) => .ok (unescape singleEscape? v, behind)
    | none => .error start
  | '"' :: rest =>
    match upToQuote '"' [] rest with
    | some (v, behind) => .ok (unescape doubleEscape? v, behind)
    | none => .error start
  | _ =>
    let line := cs.takeWhile (· != '\n')
    .ok (Text.trimChars (beforeComment line), cs.drop line.length)

/-- The text behind a comment, if there is one, and the end of the line; anything else on the line
is an error. -/
def lineEnd (cs : List Char) : Except (List Char) (List Char) :=
  let start := cs.dropWhile isInlineBlank
  let cs := if start.head? == some '#' then start.dropWhile (· != '\n') else cs
  match cs.dropWhile isInlineBlank with
  | [] => .ok []
  | '\n' :: rest => .ok rest
  | _ => .error cs

/-- A variable with its value, if it has one. -/
abbrev Binding := List Char × Option (List Char)

/-- The variable set at the start of a text, if any, and the text behind its line. An error tells
where reading could not go on. -/
def binding? (cs : List Char) : Except (List Char) (Option Binding × List Char) := do
  let (key, rest) ← name (skipExport cs)
  let rest := rest.dropWhile isInlineBlank
  let (v, rest) ← match rest with
    | '=' :: rest => (value rest).map fun (v, behind) => (some v, behind)
    | _ => pure (none, rest)
  let rest ← lineEnd rest
  return (key.map fun k => (k, v), rest)

/-- The variables that a text sets, in order. -/
def parse (cs : List Char) : List Binding :=
  match cs.dropWhile Text.isBlank with
  | [] => []
  | c :: more =>
    let (b, rest) := match binding? (c :: more) with
      | .ok r => r
      | .error stuck => (none, (stuck.dropWhile (· != '\n')).drop 1)
    if rest.length < cs.length then b.toList ++ parse rest else b.toList
termination_by cs.length

/-- A reference in a value: the name, and the default where one is given. -/
structure ValueRef where
  name : String
  default : List Char
deriving DecidableEq, Repr

/-- The reference at the start of a text. -/
def valueRef : Form ValueRef
  | '$' :: '\x7b' :: rest =>
    let name := rest.takeWhile fun c => c != '\x7d' && c != ':'
    match rest.drop name.length with
    | '\x7d' :: _ => some (⟨String.ofList name, []⟩, name.length + 3)
    | ':' :: '-' :: more =>
      let default := more.takeWhile (· != '\x7d')
      if (more.drop default.length).isEmpty then none
      else some (⟨String.ofList name, default⟩, name.length + default.length + 5)
    | _ => none
  | _ => none

/-- The variables set so far. -/
abbrev Assignments := OrderedMap String (Option String)

/-- What a reference stands for. A variable that the file names without a value is empty. -/
def resolveRef (env : Environment) (done : Assignments) (r : ValueRef) : List Char :=
  match done.get? r.name with
  | some v => (v.getD "").toList
  | none =>
    match env.get? r.name with
    | some v => v.toList
    | none => r.default

/-- The variables that a text sets, with the references in their values replaced. -/
def assignments (env : Environment) (text : String) : Assignments :=
  (parse text.toList).foldl (fun done b =>
    let v := b.2.map fun v => String.ofList (fill (resolveRef env done) (pieces valueRef v))
    done.insert (String.ofList b.1) v) .empty

/-- A text without the mark that tells the order of bytes. -/
def withoutMark (text : String) : String :=
  match text.toList with
  | '\ufeff' :: rest => .ofList rest
  | _ => text

/-- An environment with the variables of a file over it; a path that leads to no file adds
nothing. -/
def layeredOver (env : Environment) (files : FileTree) (path : FilePath) :
    Except Fault Environment :=
  match files.find? path with
  | .ok (some (_, .file content)) => do
    let text ← FileTree.decode content
    let set := (assignments env (withoutMark text)).entries.filterMap fun e =>
      e.2.map fun v => (e.1, v)
    return env.union (.ofList set)
  | .ok _ => .ok env
  | .error f => .error f

end CommandBook.EnvFile
