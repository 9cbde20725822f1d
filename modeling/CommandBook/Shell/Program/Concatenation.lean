import CommandBook.Shell.Program.Options

/-!
# Concatenation

The program `cat`: files one behind another, on demand with numbered lines, marked line ends, and
signs in place of what cannot be printed.

## Main definitions

* `Concatenation.table` — its options
* `Concatenation.render` — the text of a file, and what carries over to the next one
-/

namespace CommandBook.Shell

/-- How files are shown. -/
structure Concatenation where
  nonprinting : Bool := false
  tabs : Bool := false
  ends : Bool := false
  number : Bool := false
  numberNonblank : Bool := false
  squeeze : Bool := false

namespace Concatenation

def table : OptionTable where
  letters := "benstuvAET".toList
  words := [("number-nonblank", 'b'), ("number", 'n'), ("squeeze-blank", 's'),
    ("show-nonprinting", 'v'), ("show-ends", 'E'), ("show-tabs", 'T'), ("show-all", 'A'),
    ("help", 'h'), ("version", 'V')]
  anywhere := true

/-- What options ask for. -/
def ofOptions (os : List Char) : Concatenation where
  nonprinting := os.any "vetA".toList.contains
  tabs := os.any "TtA".toList.contains
  ends := os.any "EeA".toList.contains
  number := os.any "nb".toList.contains
  numberNonblank := os.contains 'b'
  squeeze := os.contains 's'

/-- Whether files are shown as they are. -/
def isPlain (c : Concatenation) : Bool :=
  !(c.nonprinting || c.tabs || c.ends || c.number || c.squeeze)

/-- What carries over from one file to the next: how many line ends stand in a row, the number of the
last line, and whether a carriage return waits for what follows. -/
structure Carry where
  /-- Line ends in a row; in the middle of a line there are none. -/
  inLine : Bool := false
  blank : Nat := 0
  line : Nat := 0
  waiting : Bool := false

/-- The number of a line before its text. -/
def numbered (n : Nat) : Bytes :=
  let ds := (toString n).toList
  List.replicate (6 - ds.length) ' ' ++ ds ++ ['\t']

/-- A character that may not be printable. -/
def visible (c : Char) : Bytes :=
  let low (n : Nat) : Bytes :=
    if n < 32 then ['^', Char.ofNat (n + 64)]
    else if n = 127 then ['^', '?'] else [Char.ofNat n]
  if c.toNat < 128 then low c.toNat else 'M' :: '-' :: low (c.toNat - 128)

/-- A character in the middle of a line. -/
def shown (c : Concatenation) (ch : Char) : Bytes :=
  if ch == '\t' then if c.tabs then ['^', 'I'] else ['\t']
  else if c.nonprinting then visible ch else [ch]

/-- The text of a file behind another one; the output is in reverse order. -/
def renderFrom (c : Concatenation) : Bytes → Carry → Bytes → Bytes × Carry
  | [], k, out => (out, k)
  | '\n' :: rest, k, out =>
    let k' := { k with inLine := false, blank := if k.inLine then 0 else min 2 (k.blank + 1) }
    if c.squeeze && k'.blank ≥ 2 then renderFrom c rest k' out
    else
      let counts := k'.blank > 0 && c.number && !c.numberNonblank
      let number := if counts then numbered (k.line + 1) else []
      let mark := if c.ends then (if k.waiting then ['^', 'M', '$'] else ['$']) else []
      renderFrom c rest
        { k' with line := if counts then k.line + 1 else k.line, waiting := false }
        ('\n' :: mark.reverse ++ number.reverse ++ out)
  | ch :: rest, k, out =>
    let out := if k.waiting then '\r' :: out else out
    let counts := !k.inLine && c.number
    let number := if counts then numbered (k.line + 1) else []
    let k := { k with
      inLine := true
      line := if counts then k.line + 1 else k.line
      waiting := false }
    let out := number.reverse ++ out
    if ch == '\r' && c.ends && !c.nonprinting && rest.head?.all (· == '\n') then
      renderFrom c rest { k with waiting := true } out
    else renderFrom c rest k ((c.shown ch).reverse ++ out)

/-- The text of a file behind another one, and what carries over to the next one. -/
def render (c : Concatenation) (text : Bytes) (k : Carry) : Bytes × Carry :=
  if c.isPlain then (text, k)
  else
    let (out, k) := c.renderFrom text k []
    (out.reverse, k)

end Concatenation

end CommandBook.Shell
