import CommandBook.Shell.Program.Quoting

/-!
# Options of programs

How programs read their options: letters behind one dash, several of which may stand together, and
words behind two, which may be cut short as long as one word remains.

## Main definitions

* `OptionTable.read` — options and operands of a row of arguments, or what is wrong with them
-/

namespace CommandBook.Shell

/-- The options that a program knows. None of them takes a value. -/
structure OptionTable where
  letters : List Char
  /-- Words, with the letters that they stand for. -/
  words : List (String × Char)
  /-- Options may stand behind operands. -/
  anywhere : Bool

/-- What is wrong with a row of arguments. -/
inductive OptionFlaw where
  | unknownLetter (c : Char)
  | unknownWord (word : Bytes)
  | ambiguous (word : Bytes) (choices : List String)
  | valued (word : String)

def OptionFlaw.message : OptionFlaw → Bytes
  | .unknownLetter c => "invalid option -- '".toList ++ [c, '\'']
  | .unknownWord word => "unrecognized option '--".toList ++ word ++ ['\'']
  | .ambiguous word choices =>
    "option '--".toList ++ word ++ "' is ambiguous; possibilities:".toList ++
      choices.flatMap fun c => (" '--" ++ c ++ "'").toList
  | .valued word => ("option '--" ++ word ++ "' doesn't allow an argument").toList

namespace OptionTable

/-- The letter of a word behind two dashes. -/
def word (t : OptionTable) (b : Bytes) : Except OptionFlaw Char :=
  let name := b.takeWhile (· != '=')
  let fitting := t.words.filter fun w => name.isPrefixOf w.1.toList
  let found : Except OptionFlaw (String × Char) :=
    match fitting.find? fun w => w.1.toList == name, fitting with
    | some w, _ => .ok w
    | none, [w] => .ok w
    | none, [] => .error (.unknownWord b)
    | none, ws => .error (.ambiguous b (ws.map Prod.fst))
  match found with
  | .ok w => if name.length < b.length then .error (.valued w.1) else .ok w.2
  | .error f => .error f

/-- Options and operands of a row of arguments. -/
def read (t : OptionTable) : List Bytes → Except OptionFlaw (List Char × List Bytes)
  | [] => .ok ([], [])
  | ['-', '-'] :: rest => .ok ([], rest)
  | ('-' :: '-' :: w) :: rest => do
    let c ← t.word w
    let (os, operands) ← t.read rest
    return (c :: os, operands)
  | ('-' :: c :: cs) :: rest => do
    match (c :: cs).find? fun c => !t.letters.contains c with
    | some c => throw (.unknownLetter c)
    | none =>
      let (os, operands) ← t.read rest
      return (c :: cs ++ os, operands)
  | a :: rest =>
    if t.anywhere then do
      let (os, operands) ← t.read rest
      return (os, a :: operands)
    else .ok ([], a :: rest)

end OptionTable

end CommandBook.Shell
