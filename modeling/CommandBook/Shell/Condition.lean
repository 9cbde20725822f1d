import CommandBook.Shell.Number

/-!
# Conditions

The command `test`: conditions on texts, integers and files, joined by `!`, `-a`, `-o` and
parentheses.

## Main definitions

* `FileFacts` — what conditions on files ask about
* `Condition.holds`
-/

namespace CommandBook.Shell

/-- What is wrong with a condition. -/
inductive ConditionFlaw where
  | illegalNumber (text : Bytes)
  | unexpectedOperator (text : Bytes)
  | argumentExpected (text : Bytes)
  | closingParenthesis

def ConditionFlaw.message : ConditionFlaw → Bytes
  | .illegalNumber text => "Illegal number: ".toList ++ text
  | .unexpectedOperator [] => "unexpected operator".toList
  | .unexpectedOperator text => text ++ ": unexpected operator".toList
  | .argumentExpected text => text ++ ": argument expected".toList
  | .closingParenthesis => "closing paren expected".toList

/-- The kinds of files that conditions tell apart. -/
inductive FileKind where
  | regular
  | directory
  | device
  | pipe
deriving DecidableEq

/-- What conditions on files ask about. -/
structure FileFacts where
  kind : FileKind
  isEmpty : Bool := false
  executable : Bool := false
  /-- The path only names something else that has a path of its own. -/
  isLink : Bool := false
  /-- Two paths lead to the same file if this is the same. -/
  identity : Bytes

namespace Condition

/-- What is known about a path, if something is there. -/
abbrev Lookup := Bytes → Option FileFacts

abbrev Verdict := Except ConditionFlaw Bool

/-- The integer that an argument writes. -/
def integer (b : Bytes) : Except ConditionFlaw Int :=
  match Number.whole? 10 b with
  | some n => .ok n
  | none => .error (.illegalNumber b)

/-- A condition on one argument. -/
def unary? (files : Lookup) (sign : Bytes) : Option (Bytes → Verdict) :=
  let onFile (p : FileFacts → Bool) : Option (Bytes → Verdict) :=
    some fun a => .ok ((files a).any p)
  match Bytes.toName sign with
  | "-n" => some fun a => .ok !a.isEmpty
  | "-z" => some fun a => .ok a.isEmpty
  | "-e" | "-r" | "-w" | "-O" | "-G" => onFile fun _ => true
  | "-f" => onFile fun f => f.kind == .regular
  | "-d" => onFile fun f => f.kind == .directory
  | "-c" => onFile fun f => f.kind == .device
  | "-p" => onFile fun f => f.kind == .pipe
  | "-x" => onFile fun f => f.kind == .directory || f.executable
  | "-s" => onFile fun f => f.kind == .directory || (f.kind == .regular && !f.isEmpty)
  | "-h" | "-L" => onFile fun f => f.isLink
  | "-b" | "-S" | "-u" | "-g" | "-k" => onFile fun _ => false
  | "-t" => some fun a => do
    let _ ← integer a
    return false
  | _ => none

def onIntegers (p : Int → Int → Bool) (a b : Bytes) : Verdict := do
  let x ← integer a
  return p x (← integer b)

/-- A condition on two arguments. -/
def binary? (files : Lookup) (sign : Bytes) : Option (Bytes → Bytes → Verdict) :=
  match Bytes.toName sign with
  | "=" => some fun a b => .ok (a == b)
  | "!=" => some fun a b => .ok (a != b)
  | "<" => some fun a b => .ok (decide (a < b))
  | ">" => some fun a b => .ok (decide (b < a))
  | "-eq" => some (onIntegers fun x y => x == y)
  | "-ne" => some (onIntegers fun x y => x != y)
  | "-lt" => some (onIntegers fun x y => x < y)
  | "-le" => some (onIntegers fun x y => x ≤ y)
  | "-gt" => some (onIntegers fun x y => x > y)
  | "-ge" => some (onIntegers fun x y => x ≥ y)
  | "-nt" | "-ot" => some fun _ _ => .ok false
  | "-ef" => some fun a b =>
    match files a, files b with
    | some f, some g => .ok (f.identity == g.identity)
    | _, _ => .ok false
  | _ => none

/-- What an argument stands for at its place. -/
inductive Role where
  | ending | operand | not | and | or | opening | closing
  | unary (f : Bytes → Verdict)
  | binary (f : Bytes → Bytes → Verdict)

/-- What the first of a row of arguments stands for. A sign that wants one argument is an argument
itself where none follows, or where a sign that wants two does. -/
def role (files : Lookup) : List Bytes → Role
  | [] => .ending
  | a :: rest =>
    match Bytes.toName a with
    | "!" => .not
    | "-a" => .and
    | "-o" => .or
    | "(" => if rest.isEmpty then .operand else .opening
    | ")" => .closing
    | _ =>
      match unary? files a, binary? files a with
      | some f, _ =>
        let operand := match rest with
          | [] => true
          | [_] => false
          | op :: _ => (binary? files op).isSome
        if operand then .operand else .unary f
      | none, some f => .binary f
      | none, none => .operand

/-- The value of a condition and the arguments from its last one on. -/
abbrev Partial := Except ConditionFlaw (Bool × List Bytes)

mutual

/-- Conditions joined by `-o`, the first of which begins with the first argument. -/
def disjunction (files : Lookup) : Nat → Role → List Bytes → Partial
  | 0, _, _ => .error .closingParenthesis
  | n + 1, r, args => do
    let (a, args) ← conjunction files n r args
    match role files (args.drop 1) with
    | .or =>
      let (b, args) ← disjunction files n (role files (args.drop 2)) (args.drop 2)
      return (a || b, args)
    | _ => return (a, args)

/-- Conditions joined by `-a`. -/
def conjunction (files : Lookup) : Nat → Role → List Bytes → Partial
  | 0, _, _ => .error .closingParenthesis
  | n + 1, r, args => do
    let (a, args) ← negation files n r args
    match role files (args.drop 1) with
    | .and =>
      let (b, args) ← conjunction files n (role files (args.drop 2)) (args.drop 2)
      return (a && b, args)
    | _ => return (a, args)

def negation (files : Lookup) : Nat → Role → List Bytes → Partial
  | 0, _, _ => .error .closingParenthesis
  | n + 1, r, args => do
    match r with
    | .not =>
      let next := role files (args.drop 1)
      let (a, args) ← negation files n next (if args.length ≤ 1 then args else args.drop 1)
      return (!a, args)
    | r => primary files n r args

def primary (files : Lookup) : Nat → Role → List Bytes → Partial
  | 0, _, _ => .error .closingParenthesis
  | n + 1, r, args => do
    match r, args with
    | .ending, args => return (false, args)
    | .opening, args =>
      match role files (args.drop 1) with
      | .closing => return (false, args.drop 1)
      | r =>
        let (a, args) ← disjunction files n r (args.drop 1)
        match role files (args.drop 1) with
        | .closing => return (a, args.drop 1)
        | _ => throw .closingParenthesis
    | .unary f, sign :: rest =>
      match rest with
      | a :: _ => return (← f a, rest)
      | [] => throw (.argumentExpected sign)
    | _, a :: rest =>
      match role files rest, rest.drop 1 with
      | .binary f, b :: rest => return (← f a b, b :: rest)
      | .binary _, [] => throw (.argumentExpected (rest.headD []))
      | _, _ => return (!a.isEmpty, args)
    | _, [] => return (false, [])

end

/-- The value of a whole row of arguments. -/
def complete (files : Lookup) (r : Role) (args : List Bytes) : Verdict := do
  let (v, args) ← disjunction files (6 * (args.length + 1)) r args
  match args with
  | a :: _ :: _ => throw (.unexpectedOperator a)
  | _ => return v

/-- Whether a condition holds; a condition that is `negated` may begin with more negations, which
change nothing. With three arguments a sign in the middle decides; with three or four a negation or
parentheses around them count before all else. -/
def holdsUnder (files : Lookup) : (negated : Bool) → List Bytes → Verdict
  | negated, [] => .ok negated
  | negated, [a, op, b] =>
    match binary? files op with
    | some f => (f a b).map (· != negated)
    | none =>
      if a == ['('] && b == [')'] then
        (complete files (role files [op]) [op]).map (· != negated)
      else if a == ['!'] then
        (complete files (role files [op, b]) [op, b]).map (!·)
      else (complete files (role files [a, op, b]) [a, op, b]).map (· != negated)
  | negated, [a, b, c, d] =>
    if a == ['('] && d == [')'] then
      (complete files (role files [b, c]) [b, c]).map (· != negated)
    else if a == ['!'] then holdsUnder files true [b, c, d]
    else (complete files (role files [a, b, c, d]) [a, b, c, d]).map (· != negated)
  | negated, args => (complete files (role files args) args).map (· != negated)
termination_by _ args => args.length

/-- Whether a condition holds. -/
def holds (files : Lookup) (args : List Bytes) : Verdict :=
  if args.isEmpty then .ok false else holdsUnder files false args

end Condition

end CommandBook.Shell
