import CommandBook.Shell.Number

/-!
# Arithmetic

Formulas over integers of 64 bits, with variables, comparisons, logical operators that may skip
their right side, a choice, and assignments. A formula is computed while it is read, so that what
stands before a flaw has been assigned already.

## Main definitions

* `Formula.Values` — what a formula finds around it
* `Formula.compute` — the value of a formula and the assignments it makes
-/

namespace CommandBook.Shell

/-- What is wrong with a formula. -/
inductive FormulaFlaw where
  | wantsPrimary
  | wantsEnd
  | wantsParenthesis
  | wantsColon
  | divisionByZero
  /-- A variable does not hold a number. -/
  | illegalNumber (text : Bytes)
  /-- A variable cannot be assigned. -/
  | readOnly (name : String)
  /-- The least integer divided by minus one, which no integer of 64 bits is. -/
  | overflow
deriving DecidableEq, Repr

def FormulaFlaw.message (formula : Bytes) : FormulaFlaw → Bytes
  | .illegalNumber text => "Illegal number: ".toList ++ text
  | .readOnly name => (name ++ ": is read only").toList
  | f =>
    let reason := match f with
      | .wantsPrimary => "expecting primary"
      | .wantsEnd => "expecting EOF"
      | .wantsParenthesis => "expecting ')'"
      | .wantsColon => "expecting ':'"
      | _ => "division by zero"
    ("arithmetic expression: " ++ reason ++ ": \"").toList ++ formula ++ ['"']

namespace Formula

/-- A lexeme of a formula. -/
inductive Lexeme where
  | ending
  | number (n : Int)
  | name (s : String)
  | sign (s : String)
  /-- A character that no formula holds. -/
  | other
deriving DecidableEq, Repr

/-- What a formula finds around it. -/
structure Values where
  value? : String → Option Bytes
  isReadOnly : String → Bool

/-- The state of a computation: what is left of the formula, the lexeme behind the last value, and the
variables that have been assigned, the last first. -/
structure Progress where
  rest : Bytes
  behind : Lexeme := .ending
  assigned : List (String × Int) := []

/-- A computation. What has been assigned stays assigned when it fails. -/
abbrev Computing := ExceptT FormulaFlaw (StateM Progress)

/-- The signs of formulas; of two with a common start the longer comes first. -/
def signs : List String :=
  ["<<=", ">>=", "<<", ">>", "<=", ">=", "==", "!=", "&&", "||", "+=", "-=", "*=", "/=", "%=", "&=",
    "^=", "|=", "+", "-", "*", "/", "%", "<", ">", "&", "^", "|", "!", "~", "=", "?", ":", "(", ")"]

/-- The lexeme at the start of a text, and what is behind it. -/
def lexemeOf (text : Bytes) : Lexeme × Bytes :=
  match text.dropWhile fun c => c == ' ' || c == '\t' || c == '\n' with
  | [] => (.ending, [])
  | c :: rest =>
    if c.isDigit then
      let n := Number.scan 0 (c :: rest)
      (.number (Number.clamp n.value), n.rest)
    else if isNameStart c then
      let name := leadingName (c :: rest)
      (.name (Bytes.toName name), (c :: rest).drop name.length)
    else
      match signs.find? fun s => s.toList.isPrefixOf (c :: rest) with
      | some s => (.sign s, (c :: rest).drop s.length)
      | none => (.other, c :: rest)

/-- Takes the next lexeme. -/
def next : Computing Lexeme := do
  let p ← get
  let (u, rest) := lexemeOf p.rest
  set { p with rest }
  return u

def leave (u : Lexeme) : Computing Unit := modify ({ · with behind := u })

/-- How loosely an operator binds; one that joins no values has no rank. -/
def rank? : Lexeme → Option Nat
  | .sign "|" => some 7
  | .sign "^" => some 6
  | .sign "&" => some 5
  | .sign "==" | .sign "!=" => some 4
  | .sign "<" | .sign ">" | .sign "<=" | .sign ">=" => some 3
  | .sign "<<" | .sign ">>" => some 2
  | .sign "+" | .sign "-" => some 1
  | .sign "*" | .sign "/" | .sign "%" => some 0
  | _ => none

/-- There is no rank like this or beyond. -/
def rankBound : Nat := 8

def ofBool (b : Bool) : Int := if b then 1 else 0

/-- A bitwise operation on the two's complement of 64 bits. -/
def bitwise (f : UInt64 → UInt64 → UInt64) (a b : Int) : Int :=
  Number.wrap (f (UInt64.ofInt a) (UInt64.ofInt b)).toNat

/-- The value of an operator on two values. -/
def apply (sign : String) (a b : Int) : Computing Int :=
  let quotient (f : Int → Int → Int) : Computing Int :=
    if b = 0 then throw .divisionByZero
    else if b = -1 && a = Number.least then throw .overflow
    else return f a b
  match sign with
  | "+" => return Number.wrap (a + b)
  | "-" => return Number.wrap (a - b)
  | "*" => return Number.wrap (a * b)
  | "/" => quotient Int.tdiv
  | "%" => quotient Int.tmod
  | "<" => return ofBool (decide (a < b))
  | ">" => return ofBool (decide (a > b))
  | "<=" => return ofBool (decide (a ≤ b))
  | ">=" => return ofBool (decide (a ≥ b))
  | "==" => return ofBool (a == b)
  | "!=" => return ofBool (a != b)
  | "<<" => return Number.wrap (a * Decimal.pow2 (b % 64).toNat)
  | ">>" => return a / Decimal.pow2 (b % 64).toNat
  | "&" => return bitwise (· &&& ·) a b
  | "^" => return bitwise (· ^^^ ·) a b
  | _ => return bitwise (· ||| ·) a b

/-- The operator that an assignment applies first; nothing for one that applies none. -/
def assignment? : Lexeme → Option (Option String)
  | .sign "=" => some none
  | .sign s =>
    if ["+=", "-=", "*=", "/=", "%=", "<<=", ">>=", "&=", "^=", "|="].contains s then
      some (some (String.ofList s.toList.dropLast))
    else none
  | _ => none

/-- The value of a variable as a number; one that holds nothing counts as zero. -/
def read (v : Values) (name : String) : Computing Int := do
  match (← get).assigned.lookup name with
  | some n => return n
  | none =>
    match v.value? name with
    | none => return 0
    | some text =>
      match Number.whole? 0 text with
      | some n => return n
      | none => throw (.illegalNumber text)

def write (v : Values) (name : String) (n : Int) : Computing Unit := do
  if v.isReadOnly name then throw (.readOnly name)
  modify fun p => { p with assigned := (name, n) :: p.assigned }

mutual

/-- A whole formula from its first lexeme on: an assignment, or a choice. Nothing is looked up or
assigned in a formula that is `skipped`. -/
def whole (v : Values) : Nat → Lexeme → Bool → Computing Int
  | 0, _, _ => throw .wantsPrimary
  | n + 1, first, skipped => do
    let second ← next
    match first, assignment? second with
    | .name x, some operator => do
      let value ← whole v n (← next) skipped
      if skipped then return value
      let value ← match operator with
        | some sign => do apply sign (← read v x) value
        | none => pure value
      write v x value
      return value
    | first, _ => choice v n first second skipped

def choice (v : Values) : Nat → Lexeme → Lexeme → Bool → Computing Int
  | 0, _, _, _ => throw .wantsPrimary
  | n + 1, first, second, skipped => do
    let a ← disjunction v n first second skipped
    if (← get).behind ≠ .sign "?" then return a
    let b ← whole v n (← next) (skipped || a = 0)
    if (← get).behind ≠ .sign ":" then throw .wantsColon
    let first ← next
    let c ← choice v n first (← next) (skipped || a ≠ 0)
    return if a ≠ 0 then b else c

def disjunction (v : Values) : Nat → Lexeme → Lexeme → Bool → Computing Int
  | 0, _, _, _ => throw .wantsPrimary
  | n + 1, first, second, skipped => do
    let a ← conjunction v n first second skipped
    if (← get).behind ≠ .sign "||" then return a
    let first ← next
    let b ← disjunction v n first (← next) (skipped || a ≠ 0)
    return ofBool (a ≠ 0 || b ≠ 0)

def conjunction (v : Values) : Nat → Lexeme → Lexeme → Bool → Computing Int
  | 0, _, _, _ => throw .wantsPrimary
  | n + 1, first, second, skipped => do
    let a ← joined v n first second skipped
    if (← get).behind ≠ .sign "&&" then return a
    let first ← next
    let b ← conjunction v n first (← next) (skipped || a = 0)
    return ofBool (a ≠ 0 && b ≠ 0)

/-- Values joined by operators. -/
def joined (v : Values) : Nat → Lexeme → Lexeme → Bool → Computing Int
  | 0, _, _, _ => throw .wantsPrimary
  | n + 1, first, second, skipped => do
    let a ← primary v n first second skipped
    let behind := (← get).behind
    if (rank? behind).isNone then return a else operators v n a behind rankBound skipped

/-- A value joined to those behind it by operators that bind more tightly than `bound`. -/
def operators (v : Values) : Nat → Int → Lexeme → Nat → Bool → Computing Int
  | 0, _, _, _, _ => throw .wantsPrimary
  | n + 1, a, operator, bound, skipped => do
    let first ← next
    let b ← primary v n first (← next) skipped
    let rank := (rank? operator).getD 0
    let b ← match rank? (← get).behind with
      | some later =>
        if later < rank then operators v n b (← get).behind rank skipped else pure b
      | none => pure b
    let value ← match operator with
      | .sign s => if skipped then pure b else apply s a b
      | _ => pure b
    match rank? (← get).behind with
    | some later =>
      if later < bound then operators v n value (← get).behind bound skipped else return value
    | none => return value

/-- A value: a number, a variable, a formula in parentheses, or one with a sign before it. The unit
behind it is kept. -/
def primary (v : Values) : Nat → Lexeme → Lexeme → Bool → Computing Int
  | 0, _, _, _ => throw .wantsPrimary
  | n + 1, first, second, skipped => do
    match first with
    | .number value =>
      leave second
      return value
    | .name x =>
      leave second
      if skipped then return 0 else read v x
    | .sign "(" =>
      let value ← whole v n second skipped
      if (← get).behind ≠ .sign ")" then throw .wantsParenthesis
      leave (← next)
      return value
    | .sign "+" => do primary v n second (← next) skipped
    | .sign "-" => do return Number.wrap (-(← primary v n second (← next) skipped))
    | .sign "!" => do return ofBool ((← primary v n second (← next) skipped) = 0)
    | .sign "~" => do return -(← primary v n second (← next) skipped) - 1
    | _ => throw .wantsPrimary

end

/-- The value of a formula, and the variables that it assigns, in order. -/
def compute (v : Values) (text : Bytes) : Except FormulaFlaw Int × List (String × Int) :=
  let computing : Computing Int := do
    let value ← whole v (8 * text.length + 16) (← next) false
    if (← get).behind ≠ .ending then throw .wantsEnd
    return value
  let (r, p) := computing.run { rest := text }
  (r, p.assigned.reverse)

end Formula

end CommandBook.Shell
