import CommandBook.CommandLine.Dispatch
import CommandBook.Decimal.Written

/-!
# Completion

Proposals for a word that is still being written, as an interactive shell asks for them: it tells
the words of the line, and the number of the word in question or the word itself, in the
environment. Names of options are proposed for a word with a hyphen in front, names of subcommands
where a command is expected; values of options and arguments are free, so nothing is proposed for
them.

## Main definitions

* `Completion.ofEnvironment` — what the shell asks
* `Completion.proposals` — the proposals
* `Completion.Asker.show` — a proposal as the shell reads it
* `CommandLine.run` — what a command line or a question of the shell does
-/

namespace CommandBook

/-- A question of the shell: the words in front of the one in question, and that word. -/
structure Completion where
  words : List String
  word : String
deriving DecidableEq, Repr

namespace Completion

/-- Where a line is inside of. -/
inductive Quoting where
  | none
  | quotes (q : Char)
  /-- Behind a backslash. -/
  | escape (outer : Option Char)

/-- Splits a line into words like a shell; `word` is the present word (nearest first), if one has
begun. A quotation that is not closed ends with the line. -/
def splitFrom (state : Quoting) (word : Option (List Char)) : List Char → List (List Char)
  | [] => (word.map List.reverse).toList
  | c :: rest =>
    let added := some (c :: word.getD [])
    match state with
    | .escape outer =>
      let kept := if outer.isSome && c != '\\' && outer != some c then ['\\'] else []
      splitFrom ((outer.map .quotes).getD .none) (some (c :: kept ++ word.getD [])) rest
    | .quotes q =>
      if c == q then splitFrom .none (some (word.getD [])) rest
      else if c == '\\' && q == '"' then splitFrom (.escape (some q)) word rest
      else splitFrom (.quotes q) added rest
    | .none =>
      if [' ', '\t', '\r', '\n'].contains c then
        (word.map List.reverse).toList ++ splitFrom .none Option.none rest
      else if c == '\'' || c == '"' then splitFrom (.quotes c) (some (word.getD [])) rest
      else if c == '\\' then splitFrom (.escape Option.none) (some (word.getD [])) rest
      else splitFrom .none added rest

/-- The words of a line. -/
def split (line : String) : List String :=
  (splitFrom .none Option.none line.toList).map String.ofList

/-- The variable that tells that the shell asks, and how: the name of the shell, an underscore, and
what it asks for. -/
def variableName : String := "_YAMLCMD_COMPLETE"

/-- A shell that asks for proposals. -/
inductive Asker where
  | bash | zsh | fish | powershell
deriving DecidableEq, Repr

/-- The shell whose question for proposals a text announces. -/
def Asker.ofText? : String → Option Asker
  | "bash_complete" => some .bash
  | "zsh_complete" => some .zsh
  | "fish_complete" => some .fish
  | "powershell_complete" => some .powershell
  | _ => none

/-- A variable that the question needs. -/
def needed (env : Environment) (name : String) : Except Fault String :=
  (env.get? name).elim (.error .questionIncomplete) .ok

/-- A place in a row of `n` words, where negative numbers count from the end. -/
def placeIn (n : Nat) (k : Int) : Option Nat :=
  if 0 ≤ k then some k.toNat else if 0 ≤ n + k then some (n + k).toNat else none

/-- The question by the number of the word; a word that is not there is empty. -/
def ofNumber (words : List String) (number : String) : Except Fault Completion :=
  match Decimal.writtenInteger? 10 number.toList with
  | none => .error .notANumber
  | some k =>
    let place := placeIn words.length k
    .ok {
      words := (words.take (place.getD 0)).drop 1
      word := (place.bind fun i => words[i]?).getD "" }

/-- The question by the word itself, which may be the last of the line. -/
def ofWord (words : List String) (text : String) : Except Fault Completion :=
  let before := words.drop 1
  if text == "" then .ok { words := before, word := "" }
  else
    match split text with
    | [] => .error .questionBlank
    | word :: _ =>
      let isLast := before.getLast? == some word
      .ok { words := if isLast then before.dropLast else before, word }

/-- The question that the environment holds: the line, and where it is being written. -/
def ofEnvironment (asker : Asker) (env : Environment) : Except Fault Completion := do
  let line ← needed env "COMP_WORDS"
  let place ← needed env "COMP_CWORD"
  match asker with
  | .fish => ofWord (split line) place
  | .bash | .zsh | .powershell => ofNumber (split line) place

/-- The question of a shell, if one asks and the question can be understood. -/
def ofEnvironment? (env : Environment) : Option Completion := do
  let asker ← Asker.ofText? (← env.get? variableName)
  (ofEnvironment asker env).toOption

/-- Something that the word may become, with a text about it. -/
structure Proposal where
  text : String
  about : String
deriving DecidableEq, Repr

/-- Whether a word is meant as an option. -/
def startsOption (word : String) : Bool := word.toList.head? == some '-'

/-- The option in front of an equals sign counts as a word of its own. -/
def normalized (c : Completion) : Completion :=
  if c.word == "=" then { c with word := "" }
  else
    match splitAssignment c.word.toList with
    | (name, some value) =>
      if startsOption c.word then
        { words := c.words ++ [String.ofList name], word := String.ofList value }
      else c
    | _ => c

/-- Whether options are proposed. -/
def wantsOptions (c : Completion) : Bool := !c.words.contains "--" && startsOption c.word

/-- Whether the word is the value of one of the options. -/
def isValue {κ : Type} (c : Completion) (specs : List (OptionSpec κ)) : Bool :=
  specs.any fun o => o.takesValue && c.words.getLast?.any o.names.contains

/-- The options that begin with the word, without those that are there already. -/
def optionProposals {κ : Type} [BEq κ] (c : Completion) (specs : List (OptionSpec κ))
    (given : List κ) : List Proposal :=
  if c.word.toList.head?.any (!Text.isAlphanumeric ·) then
    (specs.filter (!given.contains ·.key)).flatMap fun o =>
      (o.names.filter fun n => c.word.toList.isPrefixOf n.toList).map fun n => ⟨n, o.about⟩
  else []

/-- The room for a text about a command. -/
def aboutRoom : Nat := 45

/-- The commands that begin with the word. -/
def commandProposals (c : Completion) (commands : List ManualEntry) : List Proposal :=
  (commands.filter fun e => c.word.toList.isPrefixOf e.name.toList).map fun e =>
    ⟨e.name, String.ofList (summary aboutRoom e.about.toList)⟩

/-- Proposals at a place, whose own words are given. -/
def proposalsAt (c : Completion) (place : Place) (mixed : Bool) (own : List String) :
    List Proposal :=
  let r := (readWords place.options mixed own).toOption.getD {}
  let open_ := place.parameters.length > r.words.length
  if !c.wantsOptions && (c.isValue place.options || open_) then []
  else c.commandProposals place.subcommands ++ c.optionProposals place.options (r.options.map (·.1))

/-- Proposals for the words of a parent and, if one is named, of its subcommand. -/
def proposalsOf (c : Completion) (path : String) (node : CommandNode) (own : List String) :
    List Proposal :=
  match node.leaf? with
  | some e => c.proposalsAt (Place.ofEntry path e) true own
  | none =>
    let parent := Place.ofNode path node
    let passed := own.head?.any fun w => (node.subcommands.get? w).isSome
    let place := if passed then parent.withoutArguments else parent
    let rest := ((readWords place.options false own).toOption.getD {}).words.drop
      place.parameters.length
    match rest with
    | [] => c.proposalsAt place false own
    | name :: more =>
      match node.subcommands.get? name with
      | some e => c.proposalsAt (Place.ofEntry (place.pathTo name) e) true more
      | none => c.proposalsAt place false own

/-- Proposals for the words of the program itself. -/
def toolProposals (c : Completion) (commands : List ManualEntry) (r : ReadWords ToolOption) :
    List Proposal :=
  if !c.wantsOptions && c.isValue toolOptions then []
  else c.commandProposals commands ++ c.optionProposals toolOptions (r.options.map (·.1))

/-- The proposals. The document is loaded only when a command is named. -/
def proposals (c : Completion) (host : Host) : Step Ending (List Proposal) :=
  let r := (readWords toolOptions false c.words).toOption.getD {}
  match r.words with
  | [] => .ok (c.normalized.toolProposals [] r)
  | name :: rest => do
    let named := (Settings.ofOptions host.env r.options).config
    let loaded ← CommandLine.lookUp host named none
    match loaded.tree.get? name with
    | some node => return c.normalized.proposalsOf (toolName ++ " " ++ name) node rest
    | none =>
      let commands ← CommandLine.lookUpCommands host named (some loaded)
      return c.normalized.toolProposals commands r

/-- The ending of a question that cannot be answered. -/
def unanswered : Ending → Ending
  | .failure _ => .fault .noProposals
  | e => e

/-- The mark of a proposal without a text about it. -/
def noText : String := "_"

/-- A text without its colons as separators. -/
def escapeColons (s : String) : String :=
  String.ofList (s.toList.flatMap fun c => if c == ':' then ['\\', ':'] else [c])

/-- A proposal as a shell reads it: on one line, or name and text on lines of their own. Where
colons separate the two, those of the name are escaped, unless there is no text. -/
def Asker.show (asker : Asker) (p : Proposal) : String :=
  let about := if p.about == "" then noText else p.about
  match asker with
  | .bash => "plain," ++ p.text
  | .fish => "plain," ++ p.text ++ (if p.about == "" then "" else "\t" ++ p.about)
  | .zsh =>
    let name := if about == noText then p.text else escapeColons p.text
    "plain\n" ++ name ++ "\n" ++ about
  | .powershell => "plain\n" ++ p.text ++ "\n" ++ about

/-- Answers a question; one that is not for proposals has no answer. -/
def answer (host : Host) : Step Ending Nat :=
  match (host.env.get? variableName).bind Asker.ofText? with
  | none => .ok 1
  | some asker => do
    let question ← .ofExcept ((ofEnvironment asker host.env).mapError .fault)
    let proposals ← (question.proposals host).mapStop unanswered
    .emit (.verbatim (String.intercalate "\n" (proposals.map asker.show)))
    return 0

end Completion

namespace CommandLine

/-- What a command line does or, when the shell asks, the answer: effects, and the status unless a
fault ends it. -/
def run (host : Host) (words : List String) : Step Fault Nat :=
  let asked := (host.env.get? Completion.variableName).any (· != "")
  Ending.finish (if asked then Completion.answer host else start host words)

end CommandLine

end CommandBook
