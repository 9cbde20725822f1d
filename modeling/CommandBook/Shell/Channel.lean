import CommandBook.Shell.Place
import CommandBook.Shell.Script

/-!
# Channels

What commands read from and write to. A process knows its channels by number; what is behind a
number is an open file, which all copies of a channel share, so that they go on where another one
has stopped reading or writing.

## Main definitions

* `OpenFile`, `Pipe` — what is behind a channel
* `World` — files, open files and pipes, shared by all processes
* `World.openFile`, `World.readByte`, `World.write`
-/

namespace CommandBook.Shell

/-- What an open file leads to. -/
inductive Goal where
  | file (l : Location)
  | directory (l : Location)
  | device (d : Device)
  | pipe (n : Nat)
deriving DecidableEq, Repr

/-- An open file: where it leads, the place in it, and what it was opened for. -/
structure OpenFile where
  goal : Goal
  offset : Nat := 0
  reads : Bool := false
  writes : Bool := false
  /-- Everything is written at the end. -/
  appends : Bool := false

/-- Bytes on their way: what has been written, and how much of it has been read. -/
structure Pipe where
  content : ByteArray := .empty
  taken : Nat := 0
  /-- How much can be written at most. -/
  bound : Option Nat := none

/-- The state that all processes share. -/
structure World where
  files : FileTree
  openFiles : Array OpenFile := #[]
  pipes : Array Pipe := #[]

/-- The open files behind the channels of a process. -/
abbrev Channels := List (Nat × Nat)

namespace Channels

def set (cs : Channels) (channel : Nat) (file : Option Nat) : Channels :=
  let others := cs.filter fun e => e.1 != channel
  match file with
  | some f => (channel, f) :: others
  | none => others

end Channels

namespace World

/-- Adds an open file; its number is the old count. -/
def addFile (w : World) (f : OpenFile) : Nat × World :=
  (w.openFiles.size, { w with openFiles := w.openFiles.push f })

/-- Adds a pipe: the numbers of its two ends, and of the pipe itself. -/
def addPipe (w : World) (bound : Option Nat) (content : ByteArray) : (Nat × Nat × Nat) × World :=
  let n := w.pipes.size
  let w := { w with pipes := w.pipes.push { content, bound } }
  let (reader, w) := w.addFile { goal := .pipe n, reads := true }
  let (writer, w) := w.addFile { goal := .pipe n, writes := true }
  ((reader, writer, n), w)

/-- The open file behind a channel. -/
def file? (w : World) (cs : Channels) (channel : Nat) : Option (Nat × OpenFile) := do
  let n ← cs.lookup channel
  let f ← w.openFiles[n]?
  return (n, f)

/-- The content of a file. -/
def content (w : World) (l : Location) : ByteArray :=
  match w.files.get? l with
  | some (.file b) => b
  | _ => .empty

def putContent (w : World) (l : Location) (b : ByteArray) : World :=
  { w with files := w.files.put l (.file b) }

/-- The open file for a place, with what it was opened for; for an open channel, the thing behind it
is opened anew. -/
def openPlace (w : World) (cs : Channels) (files : FileTree) (mode : OpenFile) (creates truncates :
    Bool) (place : Place) : Except ChannelFault (Nat × World) :=
  let done (goal : Goal) (w : World) := .ok (w.addFile { mode with goal })
  let onFile (l : Location) : Except ChannelFault (Nat × World) :=
    done (.file l) (if truncates then w.putContent l .empty else w)
  let onDirectory (l : Location) : Except ChannelFault (Nat × World) :=
    if mode.writes then .error .isDirectory else done (.directory l) w
  match place with
  | .file l => onFile l
  | .directory l => onDirectory l
  | .device .terminal => .error .noDevice
  | .device d => done (.device d) w
  | .program _ => if mode.writes then .error .notPermitted else done (.device .null) w
  | .free l =>
    if !creates then .error .missing
    else if (Place.at? files l.dropLast).any Place.isDirectory then
      done (.file l) (w.putContent l .empty)
    else .error .missing
  | .channel n =>
    match w.file? cs n with
    | none => .error .missing
    | some (_, f) =>
      match f.goal with
      | .file l => onFile l
      | .directory l => onDirectory l
      | g => done g w

/-- Opens the file at a path. `protect` says that no file may be written that is already there. -/
def openFile (w : World) (cs : Channels) (current : Location) (access : Access) (protect : Bool)
    (path : Bytes) : Except ChannelFault (Nat × World) := do
  let files := { w.files with current }
  let place ← Place.find files path
  let into := w.openPlace cs files
  let writer : OpenFile := { goal := .device .null, writes := true }
  let reader : OpenFile := { goal := .device .null, reads := true }
  match access with
  | .input => into reader false false place
  | .both => into { reader with writes := true } true false place
  | .append => into { writer with appends := true } true false place
  | .overwrite => into writer true true place
  | .output =>
    let isFile := match place with
      | .file _ => true
      | .channel n =>
        match w.file? cs n with
        | some (_, { goal := .file _, .. }) => true
        | _ => false
      | _ => false
    if protect && isFile then throw .exists_ else into writer true true place

/-- The next byte of what a channel brings; nothing at its end. -/
def readByte (w : World) (cs : Channels) (channel : Nat) :
    Except ChannelFault (Option Char × World) :=
  match w.file? cs channel with
  | none => .error .notOpen
  | some (n, f) =>
    if !f.reads then .error .notOpen
    else
      match f.goal with
      | .directory _ => .error .isDirectory
      | .device .null => .ok (none, w)
      | .device _ => .ok (some '\x00', w)
      | .file l =>
        let b := w.content l
        match b[f.offset]? with
        | none => .ok (none, w)
        | some x =>
          let f := { f with offset := f.offset + 1 }
          .ok (some (Char.ofNat x.toNat), { w with openFiles := w.openFiles.setIfInBounds n f })
      | .pipe p =>
        match w.pipes[p]? with
        | none => .ok (none, w)
        | some pipe =>
          match pipe.content[pipe.taken]? with
          | none => .ok (none, w)
          | some x =>
            let pipe := { pipe with taken := pipe.taken + 1 }
            .ok (some (Char.ofNat x.toNat), { w with pipes := w.pipes.setIfInBounds p pipe })

/-- All that a channel still brings. -/
def readAll (w : World) (cs : Channels) (channel : Nat) : Except ChannelFault (Bytes × World) :=
  match w.file? cs channel with
  | none => .error .notOpen
  | some (n, f) =>
    if !f.reads then .error .notOpen
    else
      match f.goal with
      | .directory _ => .error .isDirectory
      | .device _ => .ok ([], w)
      | .file l =>
        let b := w.content l
        let rest := Bytes.ofByteArray (b.extract f.offset b.size)
        let f := { f with offset := b.size }
        .ok (rest, { w with openFiles := w.openFiles.setIfInBounds n f })
      | .pipe p =>
        match w.pipes[p]? with
        | none => .ok ([], w)
        | some pipe =>
          let rest := Bytes.ofByteArray (pipe.content.extract pipe.taken pipe.content.size)
          let pipe := { pipe with taken := pipe.content.size }
          .ok (rest, { w with pipes := w.pipes.setIfInBounds p pipe })

/-- Bytes with others put over them from a place on; a gap is filled with zeros. -/
def overlay (old : ByteArray) (offset : Nat) (new : ByteArray) : ByteArray :=
  if offset = old.size then old ++ new
  else
    let gap : ByteArray := ⟨Array.replicate (offset - old.size) 0⟩
    old.extract 0 offset ++ gap ++ new ++ old.extract (offset + new.size) old.size

/-- Writes to what is behind a channel. -/
def write (w : World) (cs : Channels) (channel : Nat) (text : Bytes) : Except ChannelFault World :=
  match w.file? cs channel with
  | none => .error .notOpen
  | some (n, f) =>
    if !f.writes then .error .notOpen
    else
      match f.goal with
      | .directory _ => .error .notOpen
      | .device .full => .error .noSpace
      | .device _ => .ok w
      | .file l =>
        let old := w.content l
        let new := Bytes.toByteArray text
        let offset := if f.appends then old.size else f.offset
        let f := { f with offset := offset + new.size }
        let w := { w with openFiles := w.openFiles.setIfInBounds n f }
        .ok (w.putContent l (overlay old offset new))
      | .pipe p =>
        match w.pipes[p]? with
        | none => .error .brokenPipe
        | some pipe =>
          if pipe.bound.any fun b => b < pipe.content.size then .error .brokenPipe
          else
            let emptied := w.pipes.setIfInBounds p ({} : Pipe)
            let pipe := { pipe with content := pipe.content ++ Bytes.toByteArray text }
            .ok { w with pipes := emptied.setIfInBounds p pipe }

/-- What has been written into a pipe. -/
def pipeContent (w : World) (n : Nat) : ByteArray :=
  match w.pipes[n]? with
  | some p => p.content
  | none => .empty

end World

end CommandBook.Shell
