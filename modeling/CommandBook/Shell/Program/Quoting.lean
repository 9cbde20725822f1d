import CommandBook.Shell.Bytes

/-!
# Quoted arguments

How programs show an argument in a report: between single quotes, with whatever cannot be printed as
an escape sequence. There are two forms: one that a shell could read back, in which quotes are left
out where they are not needed, and one that always has quotes.

## Main definitions

* `Quoting.forShell`
* `Quoting.always`
-/

namespace CommandBook.Shell.Quoting

def isPrintable (c : Char) : Bool := 32 ≤ c.toNat && c.toNat ≤ 126

/-- A byte as three octal digits. -/
def octal (c : Char) : Bytes :=
  [c.toNat / 64, c.toNat / 8 % 8, c.toNat % 8].map fun d => Char.ofNat (48 + d)

/-- The letter of an escape sequence. -/
def escapeLetter? (c : Char) : Option Char :=
  match c.toNat with
  | 7 => some 'a'
  | 8 => some 'b'
  | 9 => some 't'
  | 10 => some 'n'
  | 11 => some 'v'
  | 12 => some 'f'
  | 13 => some 'r'
  | _ => none

/-- The escape sequence of a byte that cannot be printed. -/
def escape (c : Char) : Bytes :=
  match escapeLetter? c with
  | some l => ['\\', l]
  | none => '\\' :: octal c

/-- Whether a character needs quotes in a shell at its place. -/
def needsQuotes (first alone : Bool) (c : Char) : Bool :=
  !isPrintable c || " !\"$&'():*;<=>?[\\^`|".toList.contains c ||
    (first && (c == '#' || c == '~')) || (alone && (c == '\x7b' || c == '\x7d'))

/-- Whether a character means the same between double quotes. -/
def isPlain (c : Char) : Bool :=
  c.isAlphanum || " #%'+,-./:]_~".toList.contains c

/-- The text between quotes; `escaping` says that an escape sequence has just been written. -/
def inside : Bytes → (escaping : Bool) → Bytes
  | [], _ => []
  | c :: rest, escaping =>
    if !isPrintable c then
      (if escaping then [] else ['\'', '$', '\'']) ++ escape c ++ inside rest true
    else
      (if escaping then ['\'', '\''] else []) ++
        (if c == '\'' then ['\'', '\\', '\'', '\''] else [c]) ++ inside rest false

/-- An argument as a shell could read it back. -/
def forShell (b : Bytes) : Bytes :=
  match b with
  | [] => ['\'', '\'']
  | first :: rest =>
    if !needsQuotes true rest.isEmpty first && !rest.any (needsQuotes false false) then b
    else if b.contains '\'' && b.all isPlain then '"' :: b ++ ['"']
    else '\'' :: inside b false ++ ['\'']

/-- An argument between single quotes. -/
def always (b : Bytes) : Bytes :=
  '\'' :: (b.flatMap fun c =>
    if c == '\'' || c == '\\' then ['\\', c]
    else if isPrintable c then [c] else escape c) ++ ['\'']

/-- The text of an argument without quotes. -/
def bare (b : Bytes) : Bytes := b.flatMap fun c => if isPrintable c then [c] else escape c

end CommandBook.Shell.Quoting
