import CommandBook.FileTree
import CommandBook.Shell.Bytes

/-!
# Places

Where a path leads in the eyes of a shell: into the file tree, or to one of the devices and system
directories that are there without being in the tree.

## Main definitions

* `Place` — what a path can lead to
* `Place.find` — where a path leads
* `ChannelFault` — why something cannot be opened, read or written
-/

namespace CommandBook.Shell

/-- Why something cannot be opened, read or written. -/
inductive ChannelFault where
  | missing
  | notDirectory
  | isDirectory
  | exists_
  | nameTooLong
  | notOpen
  | noSpace
  | noDevice
  | notPermitted
  /-- Nobody reads what is written any more. -/
  | brokenPipe
deriving DecidableEq, Repr

def ChannelFault.message : ChannelFault → String
  | .missing => "No such file or directory"
  | .notDirectory => "Not a directory"
  | .isDirectory => "Is a directory"
  | .exists_ => "File exists"
  | .nameTooLong => "File name too long"
  | .notOpen => "Bad file descriptor"
  | .noSpace => "No space left on device"
  | .noDevice => "No such device or address"
  | .notPermitted => "Permission denied"
  | .brokenPipe => "Broken pipe"

/-- How the shell itself words a fault: what is missing is missing for a purpose. -/
def ChannelFault.messageFor (purpose : String) : ChannelFault → String
  | .missing => purpose
  | .notDirectory => purpose
  | f => f.message

/-- A thing that is no file. -/
inductive Device where
  | null
  | full
  | zero
  | terminal
deriving DecidableEq, Repr

/-- What a path can lead to. -/
inductive Place where
  | file (l : Location)
  | directory (l : Location)
  | device (d : Device)
  /-- What an open channel leads to. -/
  | channel (n : Nat)
  /-- A program that the shell can call. -/
  | program (name : String)
  /-- Nothing, but a file could be made there. -/
  | free (l : Location)
deriving DecidableEq, Repr

namespace Place

/-- The programs that are there. -/
def programs : List String := ["cat", "tr", "echo", "false", "printf", "pwd", "test", "[", "true"]

/-- The directories that hold programs. -/
def programDirectories : List Location := [["usr", "bin"], ["bin"]]

/-- The directories that are there without being in the tree. -/
def systemDirectories : List Location :=
  programDirectories ++
    ["boot", "dev", "etc", "home", "lib", "media", "mnt", "opt", "proc", "root", "run", "sbin", "srv",
      "sys", "tmp", "usr", "var"].map (fun name => [name]) ++
    [["dev", "fd"], ["proc", "self"], ["proc", "self", "fd"], ["usr", "lib"], ["usr", "local"],
      ["usr", "local", "bin"], ["usr", "local", "sbin"], ["usr", "sbin"], ["usr", "share"],
      ["var", "tmp"]]

/-- The number of a channel that a name in a directory of channels means. -/
def channelNumber? (name : String) : Option Nat :=
  match name.toList with
  | [d] => if d.isDigit then some (d.toNat - 48) else none
  | _ => none

/-- What is at a location without being in the tree. -/
def ofSystem? (l : Location) : Option Place :=
  if systemDirectories.contains l then some (.directory l)
  else
    match l with
    | ["dev", "null"] => some (.device .null)
    | ["dev", "full"] => some (.device .full)
    | ["dev", "zero"] => some (.device .zero)
    | ["dev", "tty"] => some (.device .terminal)
    | ["dev", "stdin"] => some (.channel 0)
    | ["dev", "stdout"] => some (.channel 1)
    | ["dev", "stderr"] => some (.channel 2)
    | ["dev", "fd", name] => (channelNumber? name).map .channel
    | ["proc", "self", "fd", name] => (channelNumber? name).map .channel
    | l =>
      match l.getLast? with
      | some name =>
        if programDirectories.contains l.dropLast && programs.contains name then
          some (.program name)
        else none
      | none => none

/-- What is at a location. -/
def at? (files : FileTree) (l : Location) : Option Place :=
  match files.get? l with
  | some .directory => some (.directory l)
  | some (.file _) => some (.file l)
  | none => ofSystem? l

def isDirectory : Place → Bool
  | .directory _ => true
  | _ => false

/-- Follows names from a directory on. Behind a name that is empty or a dot must be a directory. -/
def follow (files : FileTree) : (l : Location) → (names : List String) →
    Except ChannelFault Place
  | l, [] => return (at? files l).getD (.free l)
  | l, name :: rest => do
    match at? files l with
    | none => throw .missing
    | some (.directory _) =>
      if name.utf8ByteSize > FileTree.longestName then throw .nameTooLong
      else if name == "" || name == "." then follow files l rest
      else if name == ".." then follow files l.dropLast rest
      else follow files (l ++ [name]) rest
    | some _ => throw .notDirectory

/-- The names in a path, and whether it is counted from the root. -/
def namesOf? (path : Bytes) : Option (Bool × List String) :=
  ((Bytes.splitAt '/' path).mapM fun b => String.fromUTF8? (Bytes.toByteArray b)).map fun names =>
    match names with
    | "" :: rest => (true, rest)
    | names => (false, names)

/-- Where a path leads. -/
def find (files : FileTree) (path : Bytes) : Except ChannelFault Place := do
  if path.isEmpty then throw .missing
  if path.length > FileTree.longestPath then throw .nameTooLong
  match namesOf? path with
  | some (absolute, names) => follow files (if absolute then [] else files.current) names
  | none => throw .missing

/-- What a path leads to, if something is there. -/
def find? (files : FileTree) (path : Bytes) : Option Place :=
  match find files path with
  | .ok (.free _) => none
  | .ok p => some p
  | .error _ => none

/-- The directory that a path leads to. -/
def directoryAt (files : FileTree) (path : Bytes) : Except ChannelFault Location := do
  match ← find files path with
  | .directory l => return l
  | .free _ => throw .missing
  | _ => throw .notDirectory

/-- The path from the root. -/
def pathOf (l : Location) : Bytes :=
  if l.isEmpty then ['/'] else l.flatMap fun name => '/' :: Bytes.ofString name

/-- The names of what lies directly in a directory, without those of the directory itself and the one
around it. -/
def namesIn (files : FileTree) (l : Location) : List Bytes :=
  files.entries.keys.filterMap fun k =>
    if k.length = l.length + 1 && l.isPrefixOf k then k.getLast?.map Bytes.ofString else none

end Place

end CommandBook.Shell
