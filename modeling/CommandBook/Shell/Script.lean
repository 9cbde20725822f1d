import CommandBook.Shell.Bytes

/-!
# Scripts

The shape of a shell script once it has been read: commands, the words in them, and the pieces of
which words are made.

## Main definitions

* `Piece`, `Word` — text and what is to be put in its place
* `Redirection` — a channel that leads elsewhere for one command
* `Command` — simple commands, and commands made of commands
-/

namespace CommandBook.Shell

/-- How a file is opened. -/
inductive Access where
  | input
  | output
  /-- Output that may go over a file even where files are protected. -/
  | overwrite
  | append
  | both
deriving DecidableEq, Repr

/-- What becomes of a parameter's value. -/
inductive Treatment where
  /-- A form that no shell knows; it fails when it is reached. -/
  | unknown
  | plain
  | length
  | orElse
  | replaced
  | orFail
  | orAssign
  /-- The value without the shortest or longest part at its start or end that a pattern selects. -/
  | trimmed (front longest : Bool)
deriving DecidableEq, Repr

mutual

/-- A piece of a word. -/
inductive Piece where
  | char (c : Char)
  /-- A character that stands for itself. -/
  | escaped (c : Char)
  /-- A place where a quotation begins or ends. -/
  | mark
  /-- A parameter; `null` says that an empty value counts as none. -/
  | parameter (name : Bytes) (null : Bool) (use : Treatment) (word : List Piece)
  | command (body : Command)
  | formula (pieces : List Piece)
  /-- Nothing behind this place counts. -/
  | stop

/-- A channel that leads elsewhere for one command. -/
inductive Redirection where
  | file (channel : Nat) (access : Access) (path : List Piece)
  /-- A copy of another channel, or none. -/
  | copy (channel : Nat) (of : Option Nat)
  /-- A copy of the channel that a word writes. -/
  | copyNamed (channel : Nat) (word : List Piece)
  /-- A document that stands in the script, by its number. -/
  | document (channel : Nat) (number : Nat)

/-- A command. -/
inductive Command where
  | nothing
  | simple (line : Nat) (assignments words : List (List Piece)) (redirections : List Redirection)
  | pipeline (background : Bool) (stages : List Command)
  | negated (body : Command)
  | both (left right : Command)
  | either (left right : Command)
  | sequence (first second : Command)
  | background (line : Option Nat) (body : Command) (redirections : List Redirection)
  | subshell (line : Nat) (body : Command) (redirections : List Redirection)
  | redirected (line : Nat) (body : Command) (redirections : List Redirection)
  | choice (condition thenPart elsePart : Command)
  /-- A loop; `untilTrue` repeats while its condition fails. -/
  | loop (untilTrue : Bool) (condition body : Command)
  /-- A loop over the fields of words. -/
  | each (line : Nat) (name : Bytes) (words : List (List Piece)) (body : Command)
  | select (line : Nat) (subject : List Piece) (arms : List (List (List Piece) × Command))
  | define (line : Nat) (name : Bytes) (body : Command)

end

abbrev Word := List Piece

/-- A document that stands in a script: whether its end was quoted, so that nothing is expanded. -/
structure Document where
  verbatim : Bool
  text : Word

namespace Command

/-- Whether there is nothing to run. -/
def isNothing : Command → Bool
  | .nothing => true
  | _ => false

/-- A command that does not wait. -/
def inBackground : Command → Command
  | .pipeline _ stages => .pipeline true stages
  | .redirected line body redirections => .background (some line) body redirections
  | c => .background none c []

/-- A command with channels that lead elsewhere. -/
def withRedirections (line : Nat) : Command → List Redirection → Command
  | c, [] => c
  | .subshell line body _, redirections => .subshell line body redirections
  | c, redirections => .redirected line c redirections

end Command

namespace Word

/-- The characters of a word that holds no quotes and nothing to expand. -/
def plain? : Word → Option Bytes
  | [] => some []
  | .char c :: rest => (plain? rest).map (c :: ·)
  | _ :: _ => none

/-- The unquoted characters at the start of a word. -/
def leading : Word → Bytes
  | .char c :: rest => c :: leading rest
  | _ => []

/-- Whether a word assigns: a name and an equals sign stand at its start. -/
def isAssignment (w : Word) : Bool := (assignment? (leading w)).isSome

/-- All positional parameters, each a word of its own. -/
def allParameters : Word := [.mark, .parameter ['@'] false .plain [], .mark]

end Word

end CommandBook.Shell
