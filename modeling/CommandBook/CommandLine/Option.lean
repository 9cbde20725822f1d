import CommandBook.CommandLine.Flaw
import CommandBook.Text.Similarity

/-!
# Options

Options stand among the words of a command line: `--long`, `--long=value`, `--long value`, and the
short form of one letter, `-v`, `-c value`, `-cvalue`, of which several may share one hyphen. The
word `--` ends the options. Where a command hands words on to another one, its own options end
with the first word that is none.

## Main definitions

* `OptionSpec` — an option that a command knows
* `readWords` — the options of a row of words, and the other words

## Main statements

* `readWords_plain` — words without a hyphen in front hold no options
-/

namespace CommandBook

/-- An option that a command knows. -/
structure OptionSpec (κ : Type) where
  key : κ
  short : Option Char := none
  /-- The long name with its hyphens. -/
  long : String
  /-- The word that stands for the value in the help; none for an option without a value. -/
  value : Option String := none
  about : String

namespace OptionSpec
variable {κ : Type}

def takesValue (o : OptionSpec κ) : Bool := o.value.isSome

/-- The short and the long name. -/
def names (o : OptionSpec κ) : List String :=
  (o.short.map fun c => String.ofList ['-', c]).toList ++ [o.long]

/-- The names as the help shows them. -/
def label (o : OptionSpec κ) : String :=
  String.intercalate ", " o.names ++ (o.value.map (" " ++ ·)).getD ""

end OptionSpec

/-- Options in order of appearance with their values, and the other words. -/
structure ReadWords (κ : Type) where
  options : List (κ × Option String) := []
  words : List String := []

/-- What one word gives: options, and perhaps one whose value is the next word, by key and name. -/
structure ReadOption (κ : Type) where
  given : List (κ × Option String) := []
  open? : Option (κ × String) := none

section Reading
variable {κ : Type} (specs : List (OptionSpec κ))

/-- The options in a row of letters that share one hyphen. -/
def readLetters : List Char → Except UsageFlaw (ReadOption κ)
  | [] => .ok {}
  | c :: rest =>
    let name := String.ofList ['-', c]
    match specs.find? (·.short == some c) with
    | none => .error (.unknownOption name [])
    | some o =>
      if o.takesValue then
        if rest.isEmpty then .ok { open? := some (o.key, name) }
        else .ok { given := [(o.key, some (String.ofList rest))] }
      else do
        let r ← readLetters rest
        return { r with given := (o.key, none) :: r.given }

/-- The part of a word before the first equals sign, and the part behind it. -/
def splitAssignment (w : List Char) : List Char × Option (List Char) :=
  match w.dropWhile (· != '=') with
  | [] => (w, none)
  | _ :: value => (w.takeWhile (· != '='), some value)

/-- The options in a word that begins with a hyphen. -/
def readOption (w : List Char) : Except UsageFlaw (ReadOption κ) :=
  let (long, attached) := splitAssignment w
  let name := String.ofList long
  match specs.find? (·.long == name), attached with
  | some o, some value =>
    if o.takesValue then .ok { given := [(o.key, some (String.ofList value))] }
    else .error (.valueNotTaken name)
  | some o, none =>
    if o.takesValue then .ok { open? := some (o.key, name) }
    else .ok { given := [(o.key, none)] }
  | none, _ =>
    match w with
    | '-' :: '-' :: _ => .error (.unknownOption name (Text.closest (specs.map (·.long)) name))
    | _ => readLetters specs (w.drop 1)

/-- A word that is an option: a hyphen with something behind it. -/
def isOptionWord (w : String) : Bool :=
  match w.toList with
  | '-' :: _ :: _ => true
  | _ => false

/-- Reads words from left to right; `waiting` is an option whose value the next word is. With
`mixed`, options may stand behind other words. -/
def readWordsFrom (mixed : Bool) :
    (waiting : Option (κ × String)) → List String → Except UsageFlaw (ReadWords κ)
  | none, [] => .ok {}
  | some (_, name), [] => .error (.valueMissing name)
  | some (key, _), w :: rest => do
    let r ← readWordsFrom mixed none rest
    return { r with options := (key, some w) :: r.options }
  | none, w :: rest =>
    if w == "--" then .ok { words := rest }
    else if isOptionWord w then do
      let o ← readOption specs w.toList
      let r ← readWordsFrom mixed o.open? rest
      return { r with options := o.given ++ r.options }
    else if mixed then do
      let r ← readWordsFrom mixed none rest
      return { r with words := w :: r.words }
    else .ok { words := w :: rest }

/-- The options of a row of words, and the other words. -/
def readWords (mixed : Bool) (ws : List String) : Except UsageFlaw (ReadWords κ) :=
  readWordsFrom specs mixed none ws

/-- Words without a hyphen in front hold no options. -/
theorem readWords_plain (mixed : Bool) {ws : List String}
    (h : ∀ w ∈ ws, isOptionWord w = false) :
    readWords specs mixed ws = .ok { options := [], words := ws } := by
  induction ws with
  | nil => rfl
  | cons w rest ih =>
    have hw := h w (by simp)
    have hne : (w == "--") = false := by
      apply beq_eq_false_iff_ne.2
      rintro rfl
      exact absurd hw (by decide)
    have ih := ih fun x hx => h x (by simp [hx])
    rw [readWords] at ih ⊢
    rw [readWordsFrom]
    cases mixed with
    | false => simp [hne, hw]
    | true =>
      simp only [hne, hw, Bool.false_eq_true, ↓reduceIte, ih]
      rfl

end Reading

end CommandBook
