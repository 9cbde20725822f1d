import CommandBook.CommandLine.Sources
import CommandBook.Shell.Interpreter

/-!
# The program

Reads the environment and the files that a command line looks at, runs the command line on them, and
performs its effects. Shell commands run inside the program, on the files that were read. There is
no network transport: requests are reported as failed connections.
-/

namespace CommandBook.Program

/-- The environment of the process: entries that end with NUL, names before the first equals
sign. -/
def environmentOf (text : String) : Environment :=
  let entries := Text.splitWhere (· == '\x00') text.toList
  .ofList (entries.filterMap fun e =>
    match splitAssignment e with
    | (name, some value) => some (String.ofList name, String.ofList value)
    | _ => none)

/-- The environment of the process. -/
def readEnvironment : IO Environment := do
  let bytes ← IO.FS.readBinFile "/proc/self/environ"
  return environmentOf ((String.fromUTF8? bytes).getD "")

/-- The location of a path, by its names alone. -/
def locationOf (files : FileTree) (p : FilePath) : Location :=
  p.names.foldl (fun l name => if name == ".." then l.dropLast else l ++ [name])
    (if p.isAbsolute then [] else files.current)

/-- Reads what lies at a path and on the way to it. -/
def readPath (files : FileTree) (p : FilePath) : IO FileTree := do
  let here ← IO.currentDir
  let place := locationOf files p
  let mut files := files
  for l in (FileTree.ancestors place).drop 1 ++ [place] do
    let path := here / (FilePath.absolute l).toString
    if ← path.isDir then
      files := files.put l .directory
    else if ← path.pathExists then
      files := files.put l (.file (← IO.FS.readBinFile path))
  return files

/-- Performs an effect. Requests and shell commands have been answered already. -/
def perform : Effect → IO Unit
  | .out text => IO.print (Effect.line text)
  | .verbatim text => IO.print (text ++ "\n")
  | .err text => IO.eprint (Effect.line text)
  | .makeDirectory place => IO.FS.createDir (FilePath.absolute place).toString
  | .write place content => IO.FS.writeBinFile (FilePath.absolute place).toString content
  | .remove place => IO.FS.removeFile (FilePath.absolute place).toString
  | .request _ | .command _ => return

/-- What a command line is run against, with the files at the paths it looks at. -/
def host (words : List String) : IO Host := do
  let env ← readEnvironment
  let current := (FilePath.ofString (← IO.currentDir).toString).names
  let home := (FilePath.ofString ((env.get? "HOME").getD "/")).names
  let hostOn (files : FileTree) : Host :=
    { env, files, exchange := .connectionFailed "no network transport"
      shell := Shell.interpret env }
  let mut files : FileTree := { entries := .empty, current, home }
  files := (files.put current .directory).put home .directory
  for _ in [0, 1] do
    for path in CommandLine.sources (hostOn files) words do
      files ← readPath files path
  return hostOn files

end CommandBook.Program

open CommandBook in
/-- Runs the command line that the arguments write. -/
def main (words : List String) : IO UInt32 := do
  let step := CommandLine.run (← Program.host words) words
  step.effects.forM Program.perform
  match step.result with
  | .ok status => return status.toUInt32
  | .error f =>
    IO.eprintln s!"Fault: {f.description}"
    return 1
