import CommandBook.ConfigError
import CommandBook.Text.Blank
import CommandBook.Text.Quoted

/-!
# Command names

A command is named by a row of words: the parent, the words of a subcommand, and the arguments,
`<mandatory>` before `[optional]`. Question marks at the end of an argument's name do not belong to
it.

## Main definitions

* `Token`, `Token.ofWord` — the three kinds of words
* `CommandName`, `CommandName.parse` — a name taken apart
-/

namespace CommandBook

/-- A word behind the parent. -/
inductive Token where
  | word (w : List Char)
  | mandatory (group : List Char)
  | optional (group : List Char)
deriving DecidableEq, Repr

/-- The text between an opening and a closing bracket that hold neither inside; none when there is
no such text or it is empty. -/
def enclosed? (opening closing : Char) : List Char → Option (List Char)
  | [] => none
  | c :: rest =>
    if c = opening ∧ rest.getLast? = some closing then
      let inner := rest.dropLast
      if inner.isEmpty || inner.any (fun d => d == opening || d == closing) then none
      else some inner
    else none

/-- The kind of a word. -/
def Token.ofWord (w : List Char) : Token :=
  match enclosed? '<' '>' w with
  | some group => .mandatory group
  | none =>
    match enclosed? '[' ']' w with
    | some group => .optional group
    | none => .word w

/-- An argument's name: the group without the question marks at its end. -/
def argumentName (group : List Char) : List Char := Text.dropTrailing (· == '?') group

/-- A command's name taken apart. -/
structure CommandName where
  /-- The name as it was written. -/
  text : String
  parent : String
  /-- The plain words behind the parent, with hyphens between them. -/
  subcommand : Option String
  mandatory : List String
  optional : List String
deriving DecidableEq, Repr

namespace CommandName

/-- All arguments, the mandatory ones first. -/
def arguments (n : CommandName) : List String := n.mandatory ++ n.optional

/-- The words and groups of a row of tokens, in order. -/
structure Groups where
  words : List (List Char) := []
  mandatory : List (List Char) := []
  optional : List (List Char) := []
deriving DecidableEq, Repr

/-- Sorts tokens by kind; a mandatory argument behind an optional one is an error. -/
def Groups.ofTokens? (name : String) (g : Groups) : List Token → Except ConfigError Groups
  | [] => .ok g
  | .word w :: rest => ofTokens? name { g with words := g.words ++ [w] } rest
  | .mandatory group :: rest =>
    if g.optional.isEmpty then
      ofTokens? name { g with mandatory := g.mandatory ++ [argumentName group] } rest
    else .error (.mandatoryAfterOptional name (String.ofList group))
  | .optional group :: rest =>
    ofTokens? name { g with optional := g.optional ++ [argumentName group] } rest

/-- Argument names must be non-empty and distinct; the first that is not decides. -/
def checkArguments (name : String) (seen : List (List Char)) :
    List (List Char) → Except ConfigError Unit
  | [] => .ok ()
  | arg :: rest =>
    if arg.isEmpty then .error (.emptyArgument name)
    else if seen.contains arg then .error (.duplicateArgument name (String.ofList arg))
    else checkArguments name (seen ++ [arg]) rest

/-- Takes a command's name apart. -/
def parse (name : String) : Except ConfigError CommandName :=
  match Text.words name.toList with
  | [] => .error .emptyName
  | parent :: rest => do
    let g ← Groups.ofTokens? name {} (rest.map Token.ofWord)
    checkArguments name [] (g.mandatory ++ g.optional)
    return {
      text := name
      parent := String.ofList parent
      subcommand :=
        if g.words.isEmpty then none else some (String.ofList (List.intercalate ['-'] g.words))
      mandatory := g.mandatory.map String.ofList
      optional := g.optional.map String.ofList }

/-- Texts in quotes between brackets. -/
def quotedList (names : List String) : String :=
  "[" ++ String.intercalate ", " (names.map Text.quoted) ++ "]"

/-- The name with all its parts, for diagnostics. -/
def describe (n : CommandName) : String :=
  let subcommand := match n.subcommand with
    | none => "None"
    | some s => Text.quoted s
  "CommandSpec(" ++ Text.quoted n.text ++ ", parent=" ++ Text.quoted n.parent ++
    ", subcommand=" ++ subcommand ++ ", mandatory=" ++ quotedList n.mandatory ++
    ", optional=" ++ quotedList n.optional ++ ")"

end CommandName

end CommandBook
