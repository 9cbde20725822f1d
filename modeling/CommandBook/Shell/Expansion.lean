import CommandBook.Shell.Arithmetic
import CommandBook.Shell.Field
import CommandBook.Shell.Process
import CommandBook.Shell.Word

/-!
# Expansion

What a word comes to when a command is run: values take the place of parameters, output that of
commands, and numbers that of formulas.

## Main definitions

* `Expansion.word` — a word as expanded text
* `Expansion.fields`, `Expansion.text`, `Expansion.pattern` — what becomes of it

All of them are given how to run a command for its output, and a bound on the depth of nesting.
-/

namespace CommandBook.Shell

/-- Expanded text and its regions. -/
structure Expanded where
  cells : Array Cell := #[]
  regions : Array Region := #[]

namespace Expanded

def add (e : Expanded) (cells : List Cell) : Expanded := { e with cells := e.cells ++ cells }

/-- Notes that what has been added from a place on is divided into fields. -/
def divided (e : Expanded) (start : Nat) (borders : Bool) : Expanded :=
  { e with regions := e.regions.push { start, stop := e.cells.size, borders } }

/-- What has been added from a place on. -/
def since (e : Expanded) (start : Nat) : List Cell :=
  (e.cells.extract start e.cells.size).toList

/-- The regions before a place. The first one stays where it starts at that very place. -/
def regionsBefore (stop : Nat) : List Region → List Region
  | [] => []
  | first :: rest =>
    let cut (r : Region) : Region := { r with stop := min r.stop stop }
    if stop < first.stop then (if stop < first.start then [] else [cut first])
    else first :: (rest.takeWhile (·.start < stop)).map cut

/-- The text without what has been added from a place on. -/
def cutAt (e : Expanded) (start : Nat) : Expanded :=
  { cells := e.cells.extract 0 start, regions := (regionsBefore start e.regions.toList).toArray }

end Expanded

namespace Expansion

open Running

/-- The options in the order of the parameter that holds them. -/
def optionOrder : Bytes := "pubaCEVvxsnmiIfe".toList

/-- The number of a positional parameter. Numbers beyond 64 bits stay at the largest, and of all
others the lower 32 bits count. -/
def position (ds : Bytes) : Int :=
  (Number.clamp ((decimal? ds).getD 0)).bmod (Decimal.pow2 32)

/-- What stands between the positional parameters where they are expanded under a manner. -/
def separator (m : Manner) (each : Bool) : Running Bytes := do
  if m.fields && m.quoted && each then return ['\x00']
  let ifs ← valueOf? "IFS"
  if m.fields && !m.quoted then return [if ifs.isSome then '\x00' else ' ']
  return match ifs with
    | some s => s.take 1
    | none => [' ']

/-- The value of a parameter as expanded text. -/
def value? (m : Manner) (name : Bytes) : Running (Option (List Cell)) := do
  let p ← process
  let cells (b : Bytes) : List Cell := Cell.ofBytes m.quoted m.guarded b
  let number (n : Nat) : Option (List Cell) := some (cells (toString n).toList)
  let all (each : Bool) : Running (Option (List Cell)) := do
    let between := cells (← separator m each)
    return some (List.intercalate between (p.positional.map cells))
  match name with
  | ['$'] => return number processNumber
  | ['?'] => return number p.status
  | ['#'] => return number p.positional.length
  | ['!'] => return p.lastJob.bind number
  | ['-'] =>
    return some ((optionOrder.filter p.options.contains).map fun c => .char c false)
  | ['@'] => all true
  | ['*'] => all false
  | name =>
    if name.all Char.isDigit then
      let n := position name
      if n < 0 then return none
      else if n = 0 then return some (cells shellName)
      else return p.positional[n.toNat - 1]?.map cells
    else return (← valueOf? (Bytes.toName name)).map cells

/-- Computes a formula; what it assigns is assigned. -/
def compute (formula : Bytes) : Running Int := do
  let p ← process
  let known (name : String) : Option Variable := p.vars.get? name
  let (r, assigned) := Formula.compute
    { value? := fun name => (known name).bind Variable.value
      isReadOnly := fun name => (known name).any Variable.readOnly } formula
  for (name, n) in assigned do assign name.toList (Number.text n)
  match r with
  | .ok n => return n
  | .error .overflow => throw (.killed 8)
  | .error flaw => fatal (flaw.message formula)

/-- A text without the line ends at its end. -/
def withoutLastLineEnds (b : Bytes) : Bytes := (b.reverse.dropWhile (· == '\n')).reverse

mutual

/-- Puts what a word comes to behind expanded text. -/
def word (capture : Command → Running Bytes) : Nat → Manner → Word → Expanded → Running Expanded
  | 0, _, _, _ => throw .exhausted
  | n + 1, m, w, e => do
    let (e, _) ← (Word.parts m w).foldlM (fun (e, inQuotes) p => do
      match p with
      | .mark => return (if m.guarded then e.add [.mark] else e, !inQuotes)
      | p => return (← part capture n m inQuotes p e, inQuotes)) (e, false)
    return e

/-- Puts what a part of a word comes to behind expanded text. -/
def part (capture : Command → Running Bytes) : Nat → Manner → Bool → Part → Expanded →
    Running Expanded
  | 0, _, _, _, _ => throw .exhausted
  | n + 1, m, inQuotes, p, e => do
    let start := e.cells.size
    let m' := { m with quoted := m.quoted || inQuotes }
    /- A value is divided unless it is quoted. -/
    let put (b : Bytes) : Expanded :=
      let e := e.add (Cell.ofBytes m'.quoted m.guarded b)
      if m'.quoted then e else e.divided start false
    let plain (b : Bytes) : Expanded :=
      let e := e.add (Cell.ofBytes false false b)
      if m.inner && !m'.quoted then e.divided start false else e
    match p with
    | .text cs => return plain cs
    | .escaped c => return e.add [.char c m.guarded]
    | .mark => return e
    | .home =>
      match ← valueOf? "HOME" with
      | some home => return e.add (Cell.ofBytes true m.guarded home)
      | none => return plain ['~']
    | .homeAt path => return e.add (Cell.ofBytes true m.guarded path)
    | .parameters =>
      parameter capture n { m with quoted := true } ['@'] false .plain [] e
    | .piece (.parameter name null use w) => parameter capture n m' name null use w e
    | .piece (.command body) =>
      let text ← capture body
      return put (withoutLastLineEnds (text.filter (·.toNat ≠ 0)))
    | .piece (.formula w) =>
      let e ← word capture n {} w e
      let formula := Bytes.untilNul (Cell.text (e.since start))
      let e := e.cutAt start
      let value := Number.text (← compute formula)
      let e := e.add (Cell.ofBytes m'.quoted m.guarded value)
      return if m'.quoted then e else e.divided start false
    | .piece _ => return e

/-- Puts what a parameter comes to behind expanded text. -/
def parameter (capture : Command → Running Bytes) : Nat → Manner → Bytes → Bool → Treatment →
    Word → Expanded → Running Expanded
  | 0, _, _, _, _, _, _ => throw .exhausted
  | n + 1, m, name, null, use, w, e => do
    let start := e.cells.size
    let recorded (e : Expanded) : Running Expanded := do
      let each := name == ['@'] && !(← process).positional.isEmpty
      return if !m.quoted then e.divided start false
        else if each then e.divided start true else e
    let known : Running Unit := do
      if ← hasOption 'u' then fatal (name ++ ": parameter not set".toList)
    /- The word as a text of its own. -/
    let own (m : Manner) : Running (List Cell) := do
      return (← word capture n m w e).since start
    if use = .unknown then fatal "Bad substitution".toList
    let bare := use = .length || use = .replaced
    let m' := if bare then { m with fields := false, pattern := false } else m
    let value := (← value? m' name).filter fun cells => !(null && cells.isEmpty)
    match use, value with
    | .replaced, some _ => word capture n m.within w e
    | .replaced, none => recorded e
    | .orElse, none => word capture n m.within w e
    | .orAssign, none =>
      assign name (Bytes.untilNul (Cell.text (← own .whole)))
      recorded (e.add ((← value? m name).getD []))
    | .orFail, none =>
      let text := Bytes.untilNul (Cell.text (← own .whole))
      let reason := if !w.isEmpty then text
        else ("parameter not set" ++ if null then " or null" else "").toList
      fatal (name ++ ": ".toList ++ reason)
    | .length, value =>
      if value.isNone then known
      let length := (value.getD []).length
      recorded (e.add (Cell.ofBytes m.quoted m.guarded (toString length).toList))
    | .trimmed front longest, some cells =>
      let pattern ← own .comparison
      recorded (e.add (Field.trim front longest (Cell.pattern pattern) cells))
    | _, some cells => recorded (e.add cells)
    | _, none => do
      known
      return e

end

/-- The separators of fields. -/
def separators : Running Bytes := do
  return (← valueOf? "IFS").getD defaultSeparators

/-- The fields that a word comes to, among them the paths that patterns select. -/
def fields (capture : Command → Running Bytes) (n : Nat) (w : Word) : Running (List Bytes) := do
  let e ← word capture n .argument w {}
  let fs := Field.split (← separators) none e.cells e.regions.toList
  if ← hasOption 'f' then return fs.map Cell.text
  let files ← files
  return fs.flatMap fun f =>
    match Field.select files f with
    | [] => [Cell.text f]
    | found => found

/-- The text that a word comes to. -/
def text (capture : Command → Running Bytes) (n : Nat) (m : Manner) (w : Word) :
    Running Bytes := do
  return Bytes.untilNul (Cell.text (← word capture n m w {}).cells.toList)

/-- The pattern that a word comes to. -/
def pattern (capture : Command → Running Bytes) (n : Nat) (w : Word) : Running Bytes := do
  return Cell.pattern (← word capture n .comparison w {}).cells.toList

end Expansion

end CommandBook.Shell
