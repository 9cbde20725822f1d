import CommandBook.Shell.Process

/-!
# Options of commands of the shell

How the commands that the shell knows itself read their options: letters behind a dash, some of which
want a value that stands right behind them or in the next argument.

## Main definitions

* `Builtin.options` — the options at the start of a row of arguments, and the arguments behind them
-/

namespace CommandBook.Shell

/-- A command that the shell knows itself: what it does with its arguments, and its status. -/
abbrev Builtin := List Bytes → Running Nat

namespace Builtin

open Running

/-- Whether an option wants a value, if it is in a table, where a colon stands behind those that
do. -/
def wantsValue? (c : Char) : Bytes → Option Bool
  | [] => none
  | d :: ':' :: rest => if d == c then some true else wantsValue? c rest
  | d :: rest => if d == c then some false else wantsValue? c rest

/-- The options of one argument. Of the last one that wants a value, the value is what stands behind
it, and nothing if that is the next argument. -/
structure OptionRow where
  plain : List Char
  valued : Option (Char × Bytes)

/-- The options that the letters of one argument write. -/
def optionRow (table : Bytes) : Bytes → Except Bytes OptionRow
  | [] => .ok ⟨[], none⟩
  | c :: rest =>
    match wantsValue? c table with
    | none => .error ("Illegal option -".toList ++ [c])
    | some true => .ok ⟨[], some (c, rest)⟩
    | some false => (optionRow table rest).map fun r => { r with plain := c :: r.plain }

/-- The options with their values at the start of a row of arguments, and the other arguments. -/
def optionsIn (table : Bytes) : List Bytes → Except Bytes (List (Char × Bytes) × List Bytes)
  | [] => .ok ([], [])
  | a :: rest =>
    match a with
    | '-' :: c :: cs => do
      if a == ['-', '-'] then return ([], rest)
      let row ← optionRow table (c :: cs)
      let plain := row.plain.map fun c => (c, [])
      match row.valued, rest with
      | some (c, []), [] => throw ("No arg for -".toList ++ c :: " option".toList)
      | some (c, []), value :: rest =>
        let (os, rest) ← optionsIn table rest
        return (plain ++ (c, value) :: os, rest)
      | some (c, value), rest =>
        let (os, rest) ← optionsIn table rest
        return (plain ++ (c, value) :: os, rest)
      | none, rest =>
        let (os, rest) ← optionsIn table rest
        return (plain ++ os, rest)
    | _ => .ok ([], a :: rest)

/-- The options with their values at the start of a row of arguments, and the other arguments; options
that are not in the table end the command. -/
def options (table : String) (args : List Bytes) :
    Running (List (Char × Bytes) × List Bytes) :=
  match optionsIn table.toList args with
  | .ok r => return r
  | .error reason => fatal reason

/-- The arguments of a command without options. -/
def operands (args : List Bytes) : Running (List Bytes) := do
  return (← options "" args).2

/-- Writes a line to standard output. -/
def putLine (text : Bytes) : Running Unit := put (text ++ ['\n'])

end Builtin

end CommandBook.Shell
