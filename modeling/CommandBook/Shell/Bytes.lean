/-!
# Byte strings

A shell knows bytes and no characters. A byte is kept as the character with its number, so that the
grammar can be written with character literals; a text enters and leaves by its UTF-8 form.
-/

namespace CommandBook.Shell

/-- A row of bytes, each as the character with its number. -/
abbrev Bytes := List Char

namespace Bytes

/-- The bytes of a file. -/
def ofByteArray (b : ByteArray) : Bytes := b.toList.map fun b => Char.ofNat b.toNat

/-- The bytes of a text in UTF-8. -/
def ofString (s : String) : Bytes := ofByteArray s.toUTF8

def toByteArray (b : Bytes) : ByteArray := ⟨(b.map fun c => UInt8.ofNat c.toNat).toArray⟩

/-- The bytes as a name; names that a script can write are of ASCII characters. -/
def toName (b : Bytes) : String := String.ofList b

/-- The bytes before the first zero, which is where names and words end. -/
def untilNul (b : Bytes) : Bytes := b.takeWhile (·.toNat ≠ 0)

/-- The parts of a text between a separator. -/
def splitAt (separator : Char) : Bytes → List Bytes
  | [] => [[]]
  | c :: rest =>
    match splitAt separator rest with
    | [] => [[c]]
    | part :: parts => if c == separator then [] :: part :: parts else (c :: part) :: parts

/-- Whether one text comes before another in the order of bytes. -/
def before : Bytes → Bytes → Bool
  | [], _ => true
  | _ :: _, [] => false
  | a :: as, b :: bs => a.toNat < b.toNat || (a == b && before as bs)

/-- The byte with a number, which counts modulo the number of bytes. -/
def ofNat (n : Nat) : Char := Char.ofNat (n % 256)

/-- A text in single quotes, such that a shell reads it back. Quotes in it go into double ones. -/
def quoted (b : Bytes) : Bytes := go b.length b
where
  go : Nat → Bytes → Bytes
    | 0, _ => ['\'', '\'']
    | n + 1, b =>
      let plain := b.takeWhile (· != '\'')
      let rest := b.drop plain.length
      let quotes := rest.takeWhile (· == '\'')
      let rest' := rest.drop quotes.length
      '\'' :: plain ++ '\'' ::
        (if quotes.isEmpty then []
         else '"' :: quotes ++ '"' :: (if rest'.isEmpty then [] else go n rest'))

end Bytes

def isNameStart (c : Char) : Bool := c.isAlpha || c == '_'

def isNamePart (c : Char) : Bool := c.isAlphanum || c == '_'

/-- The longest start of a text that can name a variable. -/
def leadingName : Bytes → Bytes
  | [] => []
  | c :: rest => if isNameStart c then c :: rest.takeWhile isNamePart else []

/-- Whether a text can name a variable. -/
def isName (b : Bytes) : Bool := !b.isEmpty && (leadingName b).length == b.length

/-- Whether there is nothing in a text that cannot stand in a name at its place. -/
def isNameOrEmpty (b : Bytes) : Bool := (leadingName b).length == b.length

/-- A word that assigns: the name before its first equals sign and the rest behind it. -/
def assignment? (b : Bytes) : Option (Bytes × Bytes) :=
  let name := leadingName b
  match b.drop name.length with
  | '=' :: rest => if name.isEmpty then none else some (name, rest)
  | _ => none

/-- Whether a byte is a space or one of the controls that move the place of writing. -/
def isSpacing (c : Char) : Bool := c == ' ' || (9 ≤ c.toNat && c.toNat ≤ 13)

/-- The value of a row of decimal digits. -/
def decimal? (b : Bytes) : Option Nat :=
  if b.isEmpty || !b.all Char.isDigit then none
  else some (b.foldl (fun n c => n * 10 + (c.toNat - '0'.toNat)) 0)

end CommandBook.Shell
