import CommandBook.Fault
import CommandBook.FilePath
import CommandBook.OrderedMap
import CommandBook.Text.Lines

/-!
# File trees

The files that an invocation can see, as a value: contents by location, where a location is the row
of names from the root. Directories are entries of their own.

## Main definitions

* `FileTree.locate` — the location that a path leads to
* `FileTree.find?` — what lies there, if anything does
* `FileTree.readText` — the text of a file
* `FileTree.ensureDirectory` — the directories that a new file needs
* `FileTree.write`, `FileTree.remove`
-/

namespace CommandBook

/-- A row of names from the root. -/
abbrev Location := List String

/-- What lies at a location. -/
inductive FileEntry where
  | directory
  | file (content : ByteArray)

/-- Files and directories, the directory from which paths are counted, and the directory where a
user's own files lie. The root is always there. -/
structure FileTree where
  entries : OrderedMap Location FileEntry
  current : Location
  home : Location

namespace FileTree

/-- What lies at a location. -/
def get? (t : FileTree) (l : Location) : Option FileEntry :=
  if l.isEmpty then some .directory else t.entries.get? l

def isDirectory (t : FileTree) (l : Location) : Bool :=
  match t.get? l with
  | some .directory => true
  | _ => false

/-- The size of the longest name in bytes. -/
def longestName : Nat := 255

/-- The size of the longest path in bytes. -/
def longestPath : Nat := 4095

/-- Follows names from a directory; every name but the last must lead to one. -/
def follow (t : FileTree) (l : Location) : List String → Except Fault Location
  | [] => .ok l
  | name :: rest =>
    match t.get? l with
    | none => .error .fileMissing
    | some (.file _) => .error .notADirectory
    | some .directory =>
      if name.utf8ByteSize > longestName then .error .nameTooLong
      else follow t (if name == ".." then l.dropLast else l ++ [name]) rest

/-- The location that a path leads to, whether or not something lies there; all directories on the
way are there. -/
def locate (t : FileTree) (p : FilePath) : Except Fault Location :=
  let text := p.toString
  if text.toList.contains '\x00' then .error .nulInPath
  else if text.utf8ByteSize > longestPath then .error .nameTooLong
  else t.follow (if p.isAbsolute then [] else t.current) p.names

/-- The location that a path leads to, if it leads anywhere. -/
def locate? (t : FileTree) (p : FilePath) : Option Location := (t.locate p).toOption

/-- What lies at the end of a path, and where. -/
def entry (t : FileTree) (p : FilePath) : Except Fault (Location × FileEntry) := do
  let l ← t.locate p
  match t.get? l with
  | some e => .ok (l, e)
  | none => .error .fileMissing

/-- What lies at the end of a path, if anything does. Whether a path that is too long leads to
something cannot be told. -/
def find? (t : FileTree) (p : FilePath) : Except Fault (Option (Location × FileEntry)) :=
  match t.entry p with
  | .ok e => .ok (some e)
  | .error .nameTooLong => .error .nameTooLong
  | .error _ => .ok none

/-- The text of bytes in UTF-8, with unified line ends. -/
def decode (content : ByteArray) : Except Fault String :=
  match String.fromUTF8? content with
  | some s => .ok (String.ofList (Text.unifyLineEnds s.toList))
  | none => .error .notUtf8

/-- The text of a file. -/
def readText (t : FileTree) (p : FilePath) : Except Fault String := do
  match ← t.entry p with
  | (_, .directory) => .error .isDirectory
  | (_, .file content) => decode content

/-- The directories that lead to a location, the root first. -/
def ancestors (l : Location) : List Location := (List.range l.length).map l.take

/-- Makes the directories that lead to a location. -/
def makeParents (entries : OrderedMap Location FileEntry) (l : Location) :
    OrderedMap Location FileEntry :=
  ((ancestors l).filter (!·.isEmpty)).foldl
    (fun acc d => if (acc.get? d).isSome then acc else acc.insert d .directory) entries

/-- Puts an entry at a location, with the directories that lead there. -/
def put (t : FileTree) (l : Location) (e : FileEntry) : FileTree :=
  { t with entries := (makeParents t.entries l).insert l e }

/-- Puts a text at a location. -/
def write (t : FileTree) (l : Location) (content : String) : FileTree :=
  t.put l (.file content.toUTF8)

/-- Takes away what lies at a location. -/
def remove (t : FileTree) (l : Location) : FileTree :=
  { t with entries := .ofList (t.entries.entries.filter fun e => e.1 != l) }

/-- The location of the file that a path leads to when it is written, which may not be there yet. -/
def writable (t : FileTree) (p : FilePath) : Except Fault Location := do
  let l ← t.locate p
  if t.isDirectory l then .error .isDirectory else .ok l

/-- The location of a directory that does not exist yet, but could be made. -/
def makeable (t : FileTree) (p : FilePath) : Except Fault Location := do
  let l ← t.locate p
  if (t.get? l).isSome then .error .fileExists else .ok l

/-- What it means that a directory could not be made: nothing, if it is there. -/
def settle (t : FileTree) (p : FilePath) (f : Fault) : Except Fault Unit :=
  match t.entry p with
  | .ok (_, .directory) => .ok ()
  | _ => .error f

/-- Makes the directory of a row of names, innermost first, and those that lead there: the
directories made, in order, and why there are no more. -/
def ensureNames (t : FileTree) (root : Nat) : List String → List Location × Except Fault Unit
  | [] => ([], .ok ())
  | name :: outer =>
    let p : FilePath := ⟨root, (name :: outer).reverse⟩
    match t.makeable p with
    | .ok l => ([l], .ok ())
    | .error .fileMissing =>
      let (made, r) := ensureNames t root outer
      let t := made.foldl (fun t l => t.put l .directory) t
      match r, t.makeable p with
      | .error f, _ => (made, .error f)
      | .ok (), .ok l => (made ++ [l], .ok ())
      -- with `..` among the names the place may be there by now
      | .ok (), .error f => (made, t.settle p f)
    | .error f => ([], t.settle p f)

/-- Makes the directory of a path and those that lead there. -/
def ensureDirectory (t : FileTree) (p : FilePath) : List Location × Except Fault Unit :=
  t.ensureNames p.root p.names.reverse

end FileTree

end CommandBook
