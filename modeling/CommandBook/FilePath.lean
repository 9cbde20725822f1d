import CommandBook.Text.Blank

/-!
# Paths

A path is a row of names, counted from the root or from the current directory. Doubled slashes and
the name `.` are dropped when a path is read; the name `..` stays, since what it means depends on
the files.
-/

namespace CommandBook

/-- A path. Exactly two slashes in front are a root of their own. -/
structure FilePath where
  /-- The number of slashes in front, two at most. -/
  root : Nat
  names : List String
deriving DecidableEq, Repr

namespace FilePath

/-- The path that a text writes. -/
def ofString (s : String) : FilePath :=
  let cs := s.toList
  let slashes := (cs.takeWhile (· == '/')).length
  { root := if slashes = 2 then 2 else min slashes 1
    names := ((Text.splitWhere (· == '/') cs).map String.ofList).filter
      fun n => n != "" && n != "." }

def isAbsolute (p : FilePath) : Bool := p.root != 0

/-- The text of a path. -/
def toString (p : FilePath) : String :=
  let names := String.intercalate "/" p.names
  let slashes := String.ofList (List.replicate p.root '/')
  if p.root = 0 && p.names.isEmpty then "." else slashes ++ names

/-- A path counted from another one; an absolute path stays. -/
def join (base p : FilePath) : FilePath :=
  if p.isAbsolute then p else { base with names := base.names ++ p.names }

/-- The path without its last name; a root is its own parent. -/
def parent (p : FilePath) : FilePath := { p with names := p.names.dropLast }

/-- The path of a row of names from the root. -/
def absolute (names : List String) : FilePath := ⟨1, names⟩

end FilePath

end CommandBook
