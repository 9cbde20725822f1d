import CommandBook.Shell.Builtin.Options
import CommandBook.Shell.Condition
import CommandBook.Shell.Script.Reader

/-!
# What names stand for

Which command a name calls: a function, a command that the shell knows itself, or a program, which is
looked for in the directories of the search path and remembered.

## Main definitions

* `Meaning` — what a name stands for
* `Lookup.find` — finds it
* `Lookup.describe` — tells it
-/

namespace CommandBook.Shell

/-- What a name stands for as a command. -/
inductive Meaning where
  | unknown
  | builtin (name : String)
  | function (body : Command)
  /-- A program, with the number of its directory in the search path if it is looked for there. -/
  | program (place : Option Nat)

namespace Builtin

/-- The commands that the shell knows itself. -/
def names : List String :=
  specialBuiltins ++ ["[", "alias", "bg", "cd", "chdir", "command", "echo", "false", "fg", "getopts",
    "hash", "jobs", "kill", "printf", "pwd", "read", "test", "true", "type", "ulimit", "umask",
    "unalias", "wait"]

def isSpecial (name : String) : Bool := specialBuiltins.contains name

end Builtin

/-- What is asked of a lookup. -/
structure Wish where
  /-- Functions do not count. -/
  noFunctions : Bool := false
  /-- A failure is reported. -/
  reported : Bool := false
  /-- A path must lead somewhere. -/
  present : Bool := false
  /-- Another search path than that of the shell. -/
  path : Option Bytes := none

namespace Lookup

open Running

/-- The search path that the shell falls back on. -/
def standardPath : Bytes := "/usr/local/sbin:/usr/local/bin:/usr/sbin:/usr/bin:/sbin:/bin".toList

/-- The paths that a name may have, in order. -/
def candidates (path name : Bytes) : List Bytes :=
  (Bytes.splitAt ':' path).map fun d => if d.isEmpty then name else d ++ '/' :: name

/-- The search path of the shell. -/
def searchPath : Running Bytes := do
  return (← valueOf? "PATH").getD []

/-- What a search among paths comes to: the place of a program, or why there is none. -/
def search (files : FileTree) (known : Option KnownProgram) :
    List (Nat × Bytes) → ChannelFault → Except ChannelFault Nat
  | [], fault => .error fault
  | (i, path) :: rest, fault =>
    let last := (known.filter (·.stale)).map KnownProgram.place
    let isAbsolute := path.head? == some '/'
    if isAbsolute && last.any (i < ·) then search files known rest fault
    else if isAbsolute && last == some i then .ok i
    else
      match Place.find files path with
      | .ok (.program _) => .ok i
      | .ok (.free _) => search files known rest fault
      | .ok _ => search files known rest .notPermitted
      | .error .missing => search files known rest fault
      | .error .notDirectory => search files known rest fault
      | .error f => search files known rest f

/-- How a failed search is worded. -/
def reason (f : ChannelFault) : String := f.messageFor "not found"

/-- Finds what a name stands for. -/
def find (name : Bytes) (wish : Wish) : Running Meaning := do
  let p ← process
  let files ← files
  -- a name with a slash is a path and not looked for
  if name.contains '/' then
    if wish.present && (Place.find? files name).isNone then return .unknown
    return .program none
  let function := p.functions.lookup (Bytes.toName name)
  let known := p.known.find? fun k => k.name == name
  match function, known with
  | some body, _ => if !wish.noFunctions then return .function body
  | none, some k => if wish.path.isNone && !k.stale then return .program (some k.place)
  | none, none => pure ()
  if Builtin.names.contains (Bytes.toName name) then return .builtin (Bytes.toName name)
  let remembers := wish.path.isNone && function.isNone
  let paths := candidates (wish.path.getD (← searchPath)) name
  let others := p.known.filter fun k => k.name != name
  match search files (if remembers then known else none) (List.zipIdx paths |>.map Prod.swap)
      .missing with
  | .ok place =>
    if remembers then
      let k : KnownProgram := { name, path := paths[place]?.getD [], place }
      modifyProcess ({ · with
        known := if known.isSome then p.known.map fun old => if old.name == name then k else old
          else p.known ++ [k] })
    return .program (some place)
  | .error f =>
    if remembers then modifyProcess ({ · with known := others })
    if wish.reported then complain (name ++ (": " ++ reason f).toList)
    return .unknown

/-- The path of a program that has been found. -/
def pathOf (name : Bytes) (path : Option Bytes) (place : Option Nat) : Running Bytes := do
  match place with
  | none => return name
  | some i => return (candidates (path.getD (← searchPath)) name)[i]?.getD []

/-- Where tables keep a text. -/
def slot (size : Nat) (b : Bytes) : Nat :=
  let start := (b.headD '\x00').toNat * 16
  (b.foldl (fun n c => n + c.toNat) start) % size

/-- Rows in the order in which tables keep them. -/
def sorted {α : Type} (size : Nat) (name : α → Bytes) (rows : List α) : List α :=
  rows.mergeSort fun a b => slot size (name a) ≤ slot size (name b)

/-- The definition of an alias, such that a shell reads it back. -/
def aliasText (name text : Bytes) : Bytes := name ++ '=' :: Bytes.quoted text

/-- Tells what a name stands for, at length or only by what calls it. -/
def describe (name : Bytes) (path : Option Bytes) (verbose : Bool) : Running Nat := do
  let p ← process
  let say (long : String) (short : Bytes) : Running Nat := do
    Builtin.putLine (if verbose then name ++ long.toList else short)
    return 0
  if Token.keywords.contains (Bytes.toName name) then return ← say " is a shell keyword" name
  if let some text := p.aliases.lookup name then
    Builtin.putLine (if verbose then name ++ " is an alias for ".toList ++ text
      else "alias ".toList ++ aliasText name text)
    return 0
  let tracked := path.isNone && (p.known.any fun k => k.name == name)
  let meaning ← if tracked then
      pure (Meaning.program ((p.known.find? fun k => k.name == name).map KnownProgram.place))
    else find name { present := true, path }
  match meaning with
  | .program place =>
    let found ← pathOf name path place
    Builtin.putLine (if verbose then
        name ++ (if tracked then " is a tracked alias for " else " is ").toList ++ found
      else found)
    return 0
  | .function _ => say " is a shell function" name
  | .builtin b =>
    say (if Builtin.isSpecial b then " is a special shell builtin" else " is a shell builtin") name
  | .unknown =>
    if verbose then Builtin.putLine (name ++ ": not found".toList)
    return 127

/-- What conditions on files ask about. -/
def facts : Running Condition.Lookup := do
  let s ← get
  let files ← files
  let ofFile (l : Location) : FileFacts :=
    { kind := .regular, isEmpty := (s.world.content l).size = 0, identity := Place.pathOf l }
  let ofDirectory (l : Location) : FileFacts := { kind := .directory, identity := Place.pathOf l }
  let ofDevice (d : Device) : FileFacts :=
    { kind := .device
      identity := ("device " ++ match d with
        | .null => "null"
        | .full => "full"
        | .zero => "zero"
        | .terminal => "terminal").toList }
  return fun path =>
    match Place.find? files path with
    | none => none
    | some (.file l) => some (ofFile l)
    | some (.directory l) => some (ofDirectory l)
    | some (.device d) => some (ofDevice d)
    | some (.program name) =>
      some { kind := .regular, executable := true, identity := ("program " ++ name).toList }
    | some (.free _) => none
    | some (.channel n) =>
      (s.world.file? s.process.channels n).map fun (_, f) =>
        let facts := match f.goal with
          | .file l => ofFile l
          | .directory l => ofDirectory l
          | .device d => ofDevice d
          | .pipe k => { kind := .pipe, identity := ("pipe " ++ toString k).toList }
        { facts with isLink := true }

end Lookup

end CommandBook.Shell
