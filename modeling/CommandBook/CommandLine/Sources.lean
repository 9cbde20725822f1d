import CommandBook.CommandLine.Completion

/-!
# The files of a command line

The paths at which a command line looks for files: the places of the document and of the session
file, and the environment file that the document names. A program that runs a command line reads
these before it starts; the last one is known only when the document is there.

## Main definitions

* `CommandLine.sources` — the paths
-/

namespace CommandBook.CommandLine

/-- The environment file that a document names. -/
def environmentFile? (files : FileTree) (document : Location) : Option FilePath := do
  let text ← (files.readText (.absolute document)).toOption
  let content ← (Config.contentOf "" text).toOption
  let fields ← (Config.fieldsOf "" content).toOption
  let (.leaf (.str name)) ← fields.get? "env_file" 0 | none
  return (FilePath.absolute document.dropLast).join (.ofString name)

/-- The paths for the words of one command line. -/
def sourcesOf (host : Host) (words : List String) : List FilePath :=
  let r := (readWords toolOptions false words).toOption.getD {}
  let settings := Settings.ofOptions host.env r.options
  let named := (given? settings.config).map FilePath.ofString
  let document := (findConfig host.files settings.config).toOption.join
  searchedPaths host.files.home ++ named.toList ++ [(storeOf host settings).path] ++
    (document.bind (environmentFile? host.files)).toList

/-- The paths at which a command line, or a question of the shell, looks for files. -/
def sources (host : Host) (words : List String) : List FilePath :=
  sourcesOf host words ++
    ((Completion.ofEnvironment? host.env).map fun c => sourcesOf host c.words).getD []

end CommandBook.CommandLine
