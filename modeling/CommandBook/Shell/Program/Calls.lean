import CommandBook.Shell.Condition
import CommandBook.Shell.Printing
import CommandBook.Shell.Process
import CommandBook.Shell.Program.CharacterMap
import CommandBook.Shell.Program.Concatenation

/-!
# Calls of programs

What the programs do that are no part of the shell. They know the open channels and the files, and
nothing of the shell's state.

## Main definitions

* `Program.run` — runs a program for its status
-/

namespace CommandBook.Shell.Program

open Running

/-- A report of a program. -/
def say (program text : Bytes) : Running Unit := note (program ++ ": ".toList ++ text ++ ['\n'])

/-- Says where to read more. -/
def recommendHelp (program : Bytes) : Running Unit :=
  note ("Try '".toList ++ program ++ " --help' for more information.\n".toList)

def misused (program text : Bytes) : Running Nat := do
  say program text
  recommendHelp program
  return 1

def sayFault (program what : Bytes) (f : ChannelFault) : Running Unit :=
  say program (what ++ (": " ++ f.message).toList)

/-- Writes the output of a program, whose status tells whether that went well. -/
def output (program text : Bytes) : Running Nat := do
  match ← write 1 text with
  | .ok () => return 0
  | .error f =>
    sayFault program "write error".toList f
    return 1

/-! ## Files one behind another -/

/-- The open file that an operand means. -/
def inputFile (name : Bytes) : Running (Except ChannelFault (Nat × OpenFile)) := do
  let s ← get
  let p := s.process
  if name == ['-'] then
    return match s.world.file? p.channels 0 with
      | some f => .ok f
      | none => .error .notOpen
  else
    match s.world.openFile p.channels p.current .input false name with
    | .error f => return .error f
    | .ok (n, world) =>
      modify ({ · with world })
      return match world.openFiles[n]? with
        | some f => .ok (n, f)
        | none => .error .notOpen

/-- Whether output to a file would be read again as its input. -/
def feedsItself (input output : OpenFile) : Running Bool := do
  let s ← get
  return match input.goal with
    | .file l =>
      let stop := if output.appends then (s.world.content l).size else output.offset
      input.goal == output.goal && input.offset < stop
    | _ => false

/-- Shows files one behind another. -/
def concatenateFrom (program : Bytes) (c : Concatenation) (out : OpenFile) :
    List Bytes → Concatenation.Carry → (status : Nat) → Running Nat
  | [], k, status => do
    if !k.waiting then return status
    return max status (← output program ['\r'])
  | name :: rest, k, status => do
    let shown := Quoting.forShell name
    let failed (f : ChannelFault) : Running Nat := do
      sayFault program shown f
      concatenateFrom program c out rest k 1
    match ← inputFile name with
    | .error f => failed f
    | .ok (n, f) =>
      if ← feedsItself f out then
        say program (shown ++ ": input file is output file".toList)
        concatenateFrom program c out rest k 1
      else
        let s ← get
        match s.world.readAll [(0, n)] 0 with
        | .error f => failed f
        | .ok (text, world) =>
          modify ({ · with world })
          let (text, k) := c.render text k
          let written ← output program text
          if written ≠ 0 then return written
          concatenateFrom program c out rest k status

def concatenate (program : Bytes) (args : List Bytes) : Running Nat := do
  match Concatenation.table.read args with
  | .error flaw => misused program flaw.message
  | .ok (os, operands) =>
    let operands := if operands.isEmpty then [['-']] else operands
    let s ← get
    match s.world.file? s.process.channels 1 with
    | none =>
      sayFault program "standard output".toList .notOpen
      return 1
    | some (_, out) =>
      let status ← concatenateFrom program (.ofOptions os) out operands {} 0
      let unread := operands.contains ['-'] && (s.process.channels.lookup 0).isNone
      if unread then sayFault program "closing standard input".toList .notOpen
      return if unread then 1 else status

/-! ## Characters for others -/

/-- The set that an operand writes. -/
def characterSet (program text : Bytes) : Running (Except MapFlaw CharacterSet) := do
  let (warnings, s) := CharacterSet.read text
  for w in warnings do say program w.toList
  return s

/-- What options and operands ask for. -/
def characterMap (program : Bytes) (os : List Char) (operands : List Bytes) :
    Running (Except MapFlaw CharacterMap) := do
  let complement := os.contains 'c' || os.contains 'C'
  let plan := CharacterMap.plan complement (os.contains 'd') (os.contains 's') (os.contains 't')
  match operands with
  | [] => return plan [] none
  | a :: rest =>
    match ← characterSet program a, rest with
    | .error flaw, _ => return .error flaw
    | .ok first, [] => return plan first none
    | .ok first, b :: _ =>
      match ← characterSet program b with
      | .error flaw => return .error flaw
      | .ok second => return plan first (some second)

def mapCharacters (program : Bytes) (args : List Bytes) : Running Nat := do
  match CharacterMap.table.read args with
  | .error flaw => misused program flaw.message
  | .ok (os, operands) =>
    match CharacterMap.operandFlaw? (os.contains 'd') (os.contains 's') operands with
    | some [] => return 1
    | some (line :: lines) =>
      say program line
      for line in lines do note (line ++ ['\n'])
      recommendHelp program
      return 1
    | none =>
      match ← characterMap program os operands with
      | .error flaw =>
        say program flaw.message
        return 1
      | .ok m =>
        match ← readAll 0 with
        | .error f =>
          sayFault program "read error".toList f
          return 1
        | .ok text => output program (m.apply text)

/-! ## Small programs -/

/-- A text with its escape sequences replaced, and whether one of them ends all output. -/
def unescaped : Nat → Bytes → Bytes × Bool
  | 0, _ => ([], false)
  | n + 1, cs =>
    let next (c : Char) (rest : Bytes) : Bytes × Bool :=
      let r := unescaped n rest
      (c :: r.1, r.2)
    match cs with
    | [] => ([], false)
    | '\\' :: 'c' :: _ => ([], true)
    | '\\' :: 'x' :: d :: rest =>
      if Number.digit d < 16 then
        let ds := Number.digitsIn 16 (d :: rest.take 1)
        next (Bytes.ofNat (Number.valueIn 16 ds)) ((d :: rest).drop ds.length)
      else next '\\' ('x' :: d :: rest)
    | '\\' :: '0' :: rest =>
      let ds := (rest.take 3).takeWhile isOctal
      next (Bytes.ofNat (octal ds)) (rest.drop ds.length)
    | '\\' :: rest =>
      let (c, used) := escape rest
      next c (rest.drop used)
    | c :: rest => next c rest

/-- The letters of the arguments at the start that are options, and the others. -/
def leadingOptions : List Bytes → Bytes × List Bytes
  | [] => ([], [])
  | a :: rest =>
    match a with
    | '-' :: c :: cs =>
      if (c :: cs).all "neE".toList.contains then
        let (os, rest) := leadingOptions rest
        (c :: cs ++ os, rest)
      else ([], a :: rest)
    | _ => ([], a :: rest)

def echo (program : Bytes) (args : List Bytes) : Running Nat := do
  let (os, args) := leadingOptions args
  let text := List.intercalate [' '] args
  let escapes := (os.filter (· != 'n')).getLast? == some 'e'
  let (text, stops) := if escapes then unescaped (text.length + 1) text else (text, false)
  output program (if stops || os.contains 'n' then text else text ++ ['\n'])

def print (program : Bytes) (args : List Bytes) : Running Nat := do
  match if args.head? == some ['-', '-'] then args.drop 1 else args with
  | [] => misused program "missing operand".toList
  | format :: args =>
    let p := Printing.print format args
    for c in p.complaints do say program c
    return max (if p.complaints.isEmpty then 0 else 1) (← output program p.output)

/-- Checks a condition; a bracket before it wants another one behind it. -/
def test (program : Bytes) (lookup : Condition.Lookup) (bracket : Bool) (args : List Bytes) :
    Running Nat := do
  if bracket && args.getLast? != some [']'] then
    say program "missing ']'".toList
    return 2
  match Condition.holds lookup (if bracket then args.dropLast else args) with
  | .ok v => return if v then 0 else 1
  | .error flaw =>
    say program flaw.message
    return 2

/-- Runs a program, which knows itself under the name by which it is called. -/
def run (name : String) (called : Bytes) (lookup : Condition.Lookup) (args : List Bytes) :
    Running Nat := do
  match name with
  | "cat" => concatenate called args
  | "tr" => mapCharacters called args
  | "echo" => echo called args
  | "printf" => print called args
  | "test" => test called lookup false args
  | "[" => test called lookup true args
  | "pwd" => do output called (Place.pathOf (← process).current ++ ['\n'])
  | "false" => return 1
  | _ => return 0

end CommandBook.Shell.Program
