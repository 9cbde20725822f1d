import CommandBook.Shell.Script

/-!
# Tokens of a script

The units that the grammar of commands is written over, and what can be wrong with a script. Which
words are keywords depends on where they stand, so that words become keywords only on demand.

## Main definitions

* `Token` — a unit, without the text of a word
* `Expectation` — what a word may turn out to be at its place
* `ScriptFlaw`, `ScriptError`
-/

namespace CommandBook.Shell

/-- What an operator of redirection asks for. -/
inductive RedirectionKind where
  | file (access : Access)
  | copy
  /-- A document in the script; `strip` takes away tabs at the start of its lines. -/
  | document (strip : Bool)
deriving Inhabited

/-- A unit of a script. The text of a word is kept apart. -/
inductive Token where
  | ending
  | newline
  | operator (sign : String)
  | redirection (channel : Nat) (kind : RedirectionKind)
  | word
  | keyword (name : String)
deriving Inhabited

namespace Token

def keywords : List String :=
  ["!", "case", "do", "done", "elif", "else", "esac", "fi", "for", "if", "in", "then", "until",
    "while", "\x7b", "\x7d"]

/-- The keyword that a word writes, if it writes one. -/
def keyword? (w : Word) : Option String :=
  w.plain?.bind fun s => if keywords.contains (Bytes.toName s) then some (Bytes.toName s) else none

/-- How a report names a token. -/
def describe : Token → String
  | .ending => "end of file"
  | .newline => "newline"
  | .operator sign => "\"" ++ sign ++ "\""
  | .redirection _ _ => "redirection"
  | .word => "word"
  | .keyword name => "\"" ++ name ++ "\""

def isWord : Token → Bool
  | .word => true
  | _ => false

def isNewline : Token → Bool
  | .newline => true
  | _ => false

def isEnding : Token → Bool
  | .ending => true
  | _ => false

def isOperator (sign : String) : Token → Bool
  | .operator s => s == sign
  | _ => false

def isKeyword (name : String) : Token → Bool
  | .keyword s => s == name
  | _ => false

/-- Whether a token ends a list of commands that stands inside another command. -/
def endsList : Token → Bool
  | .ending => true
  | .operator s => [")", ";;"].contains s
  | .keyword s => ["do", "done", "elif", "else", "esac", "fi", "then", "\x7d"].contains s
  | _ => false

end Token

/-- What a word may turn out to be at its place. -/
structure Expectation where
  /-- Line ends before it do not count. -/
  newlines : Bool := false
  keywords : Bool := false
  aliases : Bool := false
  /-- The word ends a document, so that nothing in it is expanded. -/
  mark : Bool := false

namespace Expectation

/-- What may stand where a command begins. -/
def command : Expectation := { keywords := true, aliases := true }

/-- What may stand where a command begins, on this line or a later one. -/
def commandBelow : Expectation := { newlines := true, keywords := true, aliases := true }

def or (a b : Expectation) : Expectation :=
  { newlines := a.newlines || b.newlines
    keywords := a.keywords || b.keywords
    aliases := a.aliases || b.aliases
    mark := a.mark || b.mark }

end Expectation

/-- What is wrong with a script. -/
inductive ScriptFlaw where
  | unexpected (found : String) (wanted : Option String)
  | openQuote
  | openBrace
  | openFormula
  | openBackquote
  | badLoopVariable
  | badFunctionName
  /-- Nesting beyond the length of the script, which no script has. -/
  | tooDeep

def ScriptFlaw.message : ScriptFlaw → String
  | .unexpected found none => found ++ " unexpected"
  | .unexpected found (some wanted) => found ++ " unexpected (expecting " ++ wanted ++ ")"
  | .openQuote => "Unterminated quoted string"
  | .openBrace => "Missing '\x7d'"
  | .openFormula => "Missing '))'"
  | .openBackquote => "EOF in backquote substitution"
  | .badLoopVariable => "Bad for loop variable"
  | .badFunctionName => "Bad function name"
  | .tooDeep => "too deep"

/-- A flaw and the line where it shows. -/
structure ScriptError where
  line : Nat
  flaw : ScriptFlaw

end CommandBook.Shell
