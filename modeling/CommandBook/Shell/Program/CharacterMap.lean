import CommandBook.Shell.Number
import CommandBook.Shell.Pattern
import CommandBook.Shell.Program.Options

/-!
# Mappings of characters

The program `tr`: characters of a first set are replaced by those of a second one, deleted, or
squeezed where they repeat. A set is written as a row of characters, ranges, classes, and
repetitions, one of which may fill up to the length of the other set.

## Main definitions

* `CharacterSet.read` — the set that a text writes
* `CharacterMap.plan` — what options and sets ask for, or what is wrong with them
* `CharacterMap.apply` — a text after the mapping
-/

namespace CommandBook.Shell

/-- All bytes in order. -/
def allBytes : Bytes := (List.range 256).map Char.ofNat

/-- A part of a set of characters as it is written. -/
inductive SetPart where
  | char (c : Char)
  | range (first last : Char)
  | named (name : String)
  /-- The characters that sort like one, of which there are no others. -/
  | like (c : Char)
  /-- A character that is repeated; without a count it fills up. -/
  | repeated (c : Char) (count : Option Nat)
deriving DecidableEq

/-- What is wrong with sets or with how they fit together. -/
inductive MapFlaw where
  | missingClass
  | missingLike
  | unknownClass (name : Bytes)
  | longLike (text : Bytes)
  | badCount (text : Bytes)
  | reversedRange (first last : Char)
  | fillsFirst
  | fillsTwice
  | likeInSecond
  | classInSecond
  | misaligned
  | emptySecond
  | endsWithClass
  | severalForComplement
  | repeatsOnlyInSecond

def MapFlaw.message : MapFlaw → Bytes
  | .missingClass => "missing character class name '[::]'".toList
  | .missingLike => "missing equivalence class character '[==]'".toList
  | .unknownClass name => "invalid character class ".toList ++ Quoting.always name
  | .longLike text =>
    Quoting.bare text ++ ": equivalence class operand must be a single character".toList
  | .badCount text =>
    "invalid repeat count ".toList ++ Quoting.always text ++ " in [c*n] construct".toList
  | .reversedRange first last =>
    "range-endpoints of '".toList ++ printable first ++ ['-'] ++ printable last ++
      "' are in reverse collating sequence order".toList
  | .fillsFirst => "the [c*] repeat construct may not appear in string1".toList
  | .fillsTwice => "only one [c*] repeat construct may appear in string2".toList
  | .likeInSecond =>
    "[=c=] expressions may not appear in string2 when translating".toList
  | .classInSecond =>
    ("when translating, the only character classes that may appear in\n" ++
      "string2 are 'upper' and 'lower'").toList
  | .misaligned => "misaligned [:upper:] and/or [:lower:] construct".toList
  | .emptySecond => "when not truncating set1, string2 must be non-empty".toList
  | .endsWithClass =>
    ("when translating with string1 longer than string2,\n" ++
      "the latter string must not end with a character class").toList
  | .severalForComplement =>
    ("when translating with complemented character classes,\n" ++
      "string2 must map all characters in the domain to one").toList
  | .repeatsOnlyInSecond =>
    "the [c*] construct may appear in string2 only when translating".toList
where
  printable (c : Char) : Bytes := if Quoting.isPrintable c then [c] else '\\' :: Quoting.octal c

namespace SetPart

/-- The characters of a part, in order; one that fills up has none of its own. -/
def members : SetPart → Bytes
  | .char c => [c]
  | .range first last =>
    (List.range' first.toNat (last.toNat + 1 - first.toNat)).map Char.ofNat
  | .named name => allBytes.filter (inClass name)
  | .like c => [c]
  | .repeated c count => List.replicate (count.getD 0) c

def isFilling : SetPart → Bool
  | .repeated _ none => true
  | _ => false

def isClass : SetPart → Bool
  | .named _ => true
  | _ => false

/-- Whether a part is the class of upper or of lower case letters. -/
def isCase : SetPart → Bool
  | .named name => name == "upper" || name == "lower"
  | _ => false

end SetPart

/-- A set of characters as it is written. -/
abbrev CharacterSet := List SetPart

namespace CharacterSet

def members (s : CharacterSet) : Bytes := s.flatMap SetPart.members

/-- A character of the text of a set, and whether it stands behind a backslash. -/
abbrev Letter := Char × Bool

/-- The letters of the text of a set, and warnings about it. -/
def letters : Nat → Bytes → List Letter × List String
  | 0, _ => ([], [])
  | n + 1, cs =>
    let andThen (c : Char) (escaped : Bool) (rest : Bytes) (warning : List String) :
        List Letter × List String :=
      let (ls, ws) := letters n rest
      ((c, escaped) :: ls, warning ++ ws)
    match cs with
    | [] => ([], [])
    | ['\\'] =>
      ([('\\', false)],
        ["warning: an unescaped backslash at end of string is not portable"])
    | '\\' :: c :: rest =>
      if isOctal c then
        let ds := (c :: rest).takeWhile isOctal
        let two := ds.take 2
        let three := ds.take 3
        if three.length = 3 && octalValue three ≥ 256 then
          andThen (Char.ofNat (octalValue two)) true ((c :: rest).drop 2) [ambiguous three]
        else andThen (Char.ofNat (octalValue three)) true ((c :: rest).drop three.length) []
      else andThen (special c) true rest []
    | c :: rest => andThen c false rest []
where
  isOctal (c : Char) : Bool := '0' ≤ c && c ≤ '7'
  octalValue (ds : Bytes) : Nat := ds.foldl (fun n c => n * 8 + (c.toNat - 48)) 0
  special (c : Char) : Char :=
    match c with
    | 'a' => '\x07'
    | 'b' => '\x08'
    | 'f' => '\x0c'
    | 'n' => '\n'
    | 'r' => '\r'
    | 't' => '\t'
    | 'v' => '\x0b'
    | c => c
  ambiguous (ds : Bytes) : String :=
    let text (b : Bytes) : String := String.ofList b
    "warning: the ambiguous octal escape \\" ++ text ds ++
      " is being\n\tinterpreted as the 2-byte sequence \\0" ++ text (ds.take 2) ++ ", " ++
      text (ds.drop 2)

def chars (ls : List Letter) : Bytes := ls.map Prod.fst

/-- The letters up to a sign and a closing bracket behind it, neither of them escaped. -/
def upTo (sign : Char) : List Letter → Option (List Letter × List Letter)
  | [] => none
  | l :: rest =>
    if l == (sign, false) && rest.head? == some (']', false) then some ([], rest.drop 1)
    else (upTo sign rest).map fun (inner, rest) => (l :: inner, rest)

/-- What stands inside brackets behind a character and a star. -/
def repetition? (ls : List Letter) : Except MapFlaw (Option (SetPart × List Letter)) :=
  match ls with
  | (c, _) :: ('*', false) :: rest =>
    let plain := rest.takeWhile fun l => !l.2
    let digits := plain.takeWhile fun l => l.1 != ']'
    if digits.length = plain.length then .ok none
    else
      let ds := chars digits
      let base := if ds.head? == some '0' then 8 else 10
      let n := Number.scan base ds
      let after := rest.drop (digits.length + 1)
      if ds.isEmpty then .ok (some (.repeated c none, after))
      else if !n.found || !n.rest.isEmpty || n.value < 0 || n.value > Number.largest then
        .error (.badCount ds)
      else .ok (some (.repeated c (if n.value = 0 then none else some n.value.toNat), after))
  | _ => .ok none

/-- Whether a star, digits and a closing bracket stand here. -/
def isCounted : List Letter → Bool
  | ('*', false) :: rest =>
    (rest.dropWhile fun l => l.1.isDigit).head? == some (']', false)
  | _ => false

/-- The part of a set between brackets, the first of which has been taken. -/
def bracketed? (ls : List Letter) : Except MapFlaw (Option (SetPart × List Letter)) :=
  match ls with
  | (':', false) :: rest =>
    match upTo ':' rest with
    | none => repetition? ls
    | some ([], _) => .error .missingClass
    | some (inner, after) =>
      let name := String.ofList (chars inner)
      if classNames.contains name then .ok (some (.named name, after))
      else if isCounted rest then repetition? ls
      else .error (.unknownClass (chars inner))
  | ('=', false) :: rest =>
    match upTo '=' rest with
    | none => repetition? ls
    | some ([], _) => .error .missingLike
    | some ([(c, _)], after) => .ok (some (.like c, after))
    | some (inner, _) =>
      if isCounted rest then repetition? ls else .error (.longLike (chars inner))
  | ls => repetition? ls

/-- The parts of a set from its letters. -/
def parts : Nat → List Letter → Except MapFlaw CharacterSet
  | 0, _ => .ok []
  | n + 1, ls =>
    match ls with
    | a :: b :: c :: rest => do
      match ← if a == ('[', false) then bracketed? (b :: c :: rest) else .ok none with
      | some (part, after) => return part :: (← parts n after)
      | none =>
        if b == ('-', false) then
          if c.1 < a.1 then throw (.reversedRange a.1 c.1)
          return .range a.1 c.1 :: (← parts n rest)
        else return .char a.1 :: (← parts n (b :: c :: rest))
    | ls => .ok (ls.map fun l => .char l.1)

/-- The set that a text writes, and warnings about it. -/
def read (text : Bytes) : List String × Except MapFlaw CharacterSet :=
  let (ls, warnings) := letters (text.length + 1) text
  (warnings, parts (ls.length + 1) ls)

/-- A set whose filling part has a count. -/
def filled (count : Nat) (s : CharacterSet) : CharacterSet :=
  s.map fun
    | .repeated c none => .repeated c (some count)
    | p => p

/-- A character of a set: the class of letters that it comes from, and whether a part of the set
begins with it. -/
structure Position where
  char : Char
  letters : Option String
  first : Bool

def positions (s : CharacterSet) : List Position :=
  s.flatMap fun p =>
    let letters := match p with
      | .named name => if p.isCase then some name else none
      | _ => none
    match p.members with
    | [] => []
    | c :: cs => ⟨c, letters, true⟩ :: cs.map fun c => ⟨c, letters, false⟩

/-- What stands behind the part of a set that has been entered. -/
def behindPart (ps : List Position) : List Position := ps.dropWhile fun p => !p.first

/-- Two sets against each other. -/
structure Alignment where
  pairs : List (Char × Char) := []
  /-- How often classes of letters stand against each other. -/
  classes : Nat := 0
  /-- No class of the second set stands against something else. -/
  fits : Bool := true

/-- The letters of a class. -/
def lettersOf (name : Option String) : Bytes := (name.map fun n => (SetPart.named n).members).getD []

/-- Puts two sets against each other, character by character. A class of letters in the second set
wants one in the first, and the two count as one position. -/
def align : Nat → List Position → List Position → Alignment
  | 0, _, _ => {}
  | n + 1, a :: as, b :: bs =>
    if b.letters.isSome then
      if a.first && a.letters.isSome then
        let r := align n (behindPart as) (behindPart bs)
        { r with
          pairs := (lettersOf a.letters).zip (lettersOf b.letters) ++ r.pairs
          classes := r.classes + 1 }
      else { fits := false }
    else
      let r := align n as bs
      { r with pairs := (a.char, b.char) :: r.pairs }
  | _, [], b :: _ => { fits := b.letters.isNone }
  | _, _, [] => {}

end CharacterSet

/-- What is to be done to a text. -/
structure CharacterMap where
  /-- Characters that are deleted. -/
  deleted : Bytes := []
  /-- Characters with what takes their place. -/
  replaced : List (Char × Char) := []
  /-- Characters that are squeezed where they repeat. -/
  squeezed : Bytes := []

namespace CharacterMap

def table : OptionTable where
  letters := "cCdstA".toList
  words := [("complement", 'c'), ("delete", 'd'), ("squeeze-repeats", 's'), ("truncate-set1", 't'),
    ("help", 'h'), ("version", 'V')]
  anywhere := false

/-- What is wrong with the number of operands, line by line. -/
def operandFlaw? (delete squeeze : Bool) (operands : List Bytes) : Option (List Bytes) :=
  let least := if delete == squeeze then 2 else 1
  let most := if delete && !squeeze then 1 else 2
  if operands.length < least then
    match operands.getLast? with
    | none => some ["missing operand".toList]
    | some o => some ["missing operand after ".toList ++ Quoting.always o,
        (if squeeze then "Two strings must be given when both deleting and squeezing repeats."
          else "Two strings must be given when translating.").toList]
  else
    match operands.drop most with
    | [] => none
    | extra :: _ =>
      let first := "extra operand ".toList ++ Quoting.always extra
      if operands.length = 2 then
        some [first,
          "Only one string may be given when deleting without squeezing repeats.".toList]
      else some [first]

/-- The characters of a set, or all others. -/
def chosen (complement : Bool) (s : CharacterSet) : Bytes :=
  if complement then allBytes.filter fun c => !s.members.contains c else s.members

/-- The second set of a translation with its last character repeated. -/
def lengthened (by_ : Nat) (second : CharacterSet) : Except MapFlaw CharacterSet :=
  match second.getLast? with
  | some (.named _) => .error .endsWithClass
  | some (.repeated c _) => .ok (second ++ [.repeated c (some by_)])
  | some p =>
    match p.members.getLast? with
    | some c => .ok (second ++ [.repeated c (some by_)])
    | none => .error .emptySecond
  | none => .error .emptySecond

/-- What a translation from one set to another asks for. -/
def translation (complement truncate : Bool) (first second : CharacterSet) :
    Except MapFlaw (CharacterSet × List (Char × Char)) := do
  let domain := chosen complement first
  let isLike : SetPart → Bool := fun
    | .like _ => true
    | _ => false
  if second.any isLike then throw .likeInSecond
  if second.any fun p => p.isClass && !p.isCase then throw .classInSecond
  let against (second : CharacterSet) : CharacterSet.Alignment :=
    let ps := first.positions
    CharacterSet.align (ps.length + 1) ps second.positions
  let aligned := !complement && second.any SetPart.isClass
  if aligned && !(against second).fits then throw .misaligned
  let saved := if aligned then 25 * (against second).classes else 0
  let length := domain.length - saved
  let own := second.members.length - saved
  let second ← if length ≤ own || truncate then pure second
    else if own = 0 then throw .emptySecond
    else lengthened (length - own) second
  if complement && first.any SetPart.isClass then
    let ms := second.members
    let same := !ms.isEmpty && ms.all fun c => some c == ms.head?
    if ms.length != domain.length || !same then throw .severalForComplement
  return (second,
    if complement then domain.zip second.members
    else
      let r := against second
      if aligned then r.pairs else first.members.zip second.members)

/-- What options and sets ask for, or what is wrong with them. -/
def plan (complement delete squeeze truncate : Bool) (first : CharacterSet)
    (second? : Option CharacterSet) : Except MapFlaw CharacterMap := do
  if first.any SetPart.isFilling then throw .fillsFirst
  let set := chosen complement first
  match second? with
  | none => return if delete then { deleted := set } else { squeezed := set }
  | some second =>
    let fillings := (second.filter SetPart.isFilling).length
    if 1 < fillings then throw .fillsTwice
    if delete then
      if 0 < fillings then throw .repeatsOnlyInSecond
      return { deleted := set, squeezed := second.members }
    else
      let second := second.filled (set.length - second.members.length)
      let (second, replaced) ← translation complement truncate first second
      return { replaced, squeezed := if squeeze then second.members else [] }

/-- A text in which no member of a set follows itself. -/
def withoutRepeats (set : Bytes) : Bytes → Option Char → Bytes
  | [], _ => []
  | c :: rest, before =>
    if before == some c && set.contains c then withoutRepeats set rest before
    else c :: withoutRepeats set rest (some c)

/-- A text after the mapping. Of two places for a character the later one counts. -/
def apply (m : CharacterMap) (text : Bytes) : Bytes :=
  let kept := if m.deleted.isEmpty then text else text.filter fun c => !m.deleted.contains c
  let table := m.replaced.reverse
  let mapped := if table.isEmpty then kept else kept.map fun c => (table.lookup c).getD c
  if m.squeezed.isEmpty then mapped else withoutRepeats m.squeezed mapped none

end CharacterMap

end CommandBook.Shell
