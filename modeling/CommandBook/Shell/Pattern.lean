import CommandBook.Shell.Bytes

/-!
# Patterns

The patterns that select among texts: `*` for any text, `?` for one character, brackets for one of a
set. A character behind a backslash stands for itself.

## Main definitions

* `Pattern.ofBytes` — the pattern that a text writes
* `Pattern.selects` — whether a pattern selects a text
-/

namespace CommandBook.Shell

/-- The order of characters in a range: bytes from 128 on come before all others. -/
def rangeOrder (c : Char) : Int := if c.toNat < 128 then c.toNat else (c.toNat : Int) - 256

/-- The classes of characters that have names. -/
def classNames : List String :=
  ["alnum", "cntrl", "lower", "space", "alpha", "digit", "print", "upper", "blank", "graph", "punct",
    "xdigit"]

/-- The characters of a class that has a name. -/
def inClass (name : String) (c : Char) : Bool :=
  match name with
  | "alpha" => c.isAlpha
  | "digit" => c.isDigit
  | "alnum" => c.isAlphanum
  | "upper" => c.isUpper
  | "lower" => c.isLower
  | "space" => isSpacing c
  | "blank" => c == ' ' || c == '\t'
  | "punct" => 33 ≤ c.toNat && c.toNat ≤ 126 && !c.isAlphanum
  | "print" => 32 ≤ c.toNat && c.toNat ≤ 126
  | "graph" => 33 ≤ c.toNat && c.toNat ≤ 126
  | "cntrl" => c.toNat < 32 || c.toNat == 127
  | "xdigit" => c.isDigit || ('a' ≤ c && c ≤ 'f') || ('A' ≤ c && c ≤ 'F')
  | _ => false

/-- One item of a set in brackets. -/
inductive SetItem where
  | range (low high : Char)
  | named (name : String)
deriving DecidableEq, Repr

def SetItem.has (c : Char) : SetItem → Bool
  | .range low high => rangeOrder low ≤ rangeOrder c && rangeOrder c ≤ rangeOrder high
  | .named name => inClass name c

/-- What a pattern wants next. -/
inductive PatternItem where
  | char (c : Char)
  | any
  | star
  | oneOf (complement : Bool) (items : List SetItem)
deriving DecidableEq, Repr

abbrev Pattern := List PatternItem

namespace Pattern

/-- The class whose name stands behind an opening bracket, and what is behind it. -/
def className? (cs : Bytes) : Option (String × Bytes) :=
  classNames.findSome? fun name =>
    let written := ':' :: name.toList ++ [':', ']']
    if written.isPrefixOf cs then some (name, cs.drop written.length) else none

/-- A character that may stand behind a backslash. -/
def one : Bytes → Option (Char × Bytes)
  | '\\' :: c :: rest => some (c, rest)
  | c :: rest => some (c, rest)
  | [] => none

/-- The items of a set up to its closing bracket, and what is behind it. The first item may be a
closing bracket itself. -/
def setItems : Nat → (first : Bool) → Bytes → Option (List SetItem × Bytes)
  | 0, _, _ => none
  | n + 1, first, cs =>
    let andThen (i : SetItem) (rest : Bytes) : Option (List SetItem × Bytes) :=
      (setItems n false rest).map fun r => (i :: r.1, r.2)
    match cs with
    | [] => none
    | c :: rest =>
      if c == ']' && !first then some ([], rest)
      else
        match if c == '[' then className? rest else none with
        | some (name, rest) => andThen (.named name) rest
        | none =>
          match one (c :: rest) with
          | none => none
          | some (low, '-' :: rest) =>
            if rest.head? == some ']' then andThen (.range low low) ('-' :: rest)
            else
              match one rest with
              | some (high, rest) => andThen (.range low high) rest
              | none => none
          | some (low, rest) => andThen (.range low low) rest

/-- The pattern that a text writes. A bracket that is not closed stands for itself. -/
def ofBytesWithin : Nat → Bytes → Pattern
  | 0, _ => []
  | n + 1, cs =>
    match cs with
    | [] => []
    | '*' :: rest => .star :: ofBytesWithin n rest
    | '?' :: rest => .any :: ofBytesWithin n rest
    | '[' :: rest =>
      let (complement, inside) := match rest with
        | '!' :: r => (true, r)
        | r => (false, r)
      match setItems (inside.length + 1) true inside with
      | some (items, after) => .oneOf complement items :: ofBytesWithin n after
      | none => .char '[' :: ofBytesWithin n rest
    | '\\' :: c :: rest => .char c :: ofBytesWithin n rest
    | c :: rest => .char c :: ofBytesWithin n rest

/-- The pattern that a text writes. -/
def ofBytes (cs : Bytes) : Pattern := ofBytesWithin cs.length cs

def itemSelects (c : Char) : PatternItem → Bool
  | .char d => c == d
  | .any => true
  | .star => false
  | .oneOf complement items => items.any (·.has c) != complement

/-- Whether a pattern selects a text. -/
def selects : Pattern → Bytes → Bool
  | [], t => t.isEmpty
  | .star :: p, [] => selects p []
  | .star :: p, c :: t => selects p (c :: t) || selects (.star :: p) t
  | i :: p, c :: t => itemSelects c i && selects p t
  | _ :: _, [] => false
termination_by p t => p.length + t.length

end Pattern

end CommandBook.Shell
