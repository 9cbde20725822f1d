import CommandBook.Shell.Lookup

/-!
# Commands on names of commands

Aliases, the table of known programs, and what names stand for.
-/

namespace CommandBook.Shell.Builtin

open Running

/-! ## Aliases -/

/-- The size of the table of aliases. -/
def aliasSlots : Nat := 39

def listAlias (name text : Bytes) : Running Unit := putLine (Lookup.aliasText name text)

/-- Gives a name a text to stand for. -/
def defineAlias (name text : Bytes) : Running Unit :=
  modifyProcess fun p => { p with
    aliases :=
      if p.aliases.any fun e => e.1 == name then
        p.aliases.map fun e => if e.1 == name then (name, text) else e
      else p.aliases ++ [(name, text)] }

/-- The name and the text that an argument of `alias` gives. A name has at least one character. -/
def aliasDefinition? (a : Bytes) : Option (Bytes × Bytes) :=
  let name := a.take 1 ++ (a.drop 1).takeWhile (· != '=')
  if name.length < a.length then some (name, a.drop (name.length + 1)) else none

def setAliases : Builtin := fun args => do
  let mut status := 0
  if args.isEmpty then
    for (name, text) in Lookup.sorted aliasSlots Prod.fst (← process).aliases do listAlias name text
  for a in args do
    match aliasDefinition? a, (← process).aliases.lookup a with
    | some (name, text), _ => defineAlias name text
    | none, some text => listAlias a text
    | none, none =>
      note ("alias: ".toList ++ a ++ " not found\n".toList)
      status := 1
  return status

def unalias : Builtin := fun args => do
  let (os, names) ← options "a" args
  if !os.isEmpty then
    modifyProcess ({ · with aliases := [] })
    return 0
  let mut status := 0
  for name in names do
    let p ← process
    if p.aliases.any fun e => e.1 == name then
      modifyProcess ({ · with aliases := p.aliases.filter fun e => e.1 != name })
    else
      note ("unalias: ".toList ++ name ++ " not found\n".toList)
      status := 1
  return status

/-! ## Known programs -/

/-- The size of the table of known programs. -/
def programSlots : Nat := 31

def hash : Builtin := fun args => do
  let (os, names) ← options "r" args
  if !os.isEmpty then
    modifyProcess ({ · with known := [] })
    return 0
  if names.isEmpty then
    for k in Lookup.sorted programSlots KnownProgram.name (← process).known do
      putLine (k.path ++ if k.stale then ['*'] else [])
    return 0
  let mut status := 0
  for name in names do
    modifyProcess fun p => { p with known := p.known.filter fun k => k.name != name }
    if let .unknown := ← Lookup.find name { reported := true } then status := 1
  return status

def type : Builtin := fun args => do
  let mut status := 0
  for name in args do
    if (← Lookup.describe name none true) ≠ 0 then status := 127
  return status

/-- Tells what a name stands for, where `command` is asked for that. -/
def command : Builtin := fun args => do
  let (os, names) ← options "pvV" args
  let brief := os.any (·.1 == 'v')
  let verbose := os.any (·.1 == 'V')
  let path := if os.any (·.1 == 'p') then some Lookup.standardPath else none
  match names with
  | name :: _ => if brief || verbose then Lookup.describe name path verbose else return 0
  | [] => return 0

end CommandBook.Shell.Builtin
