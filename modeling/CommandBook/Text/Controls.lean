/-!
# Control sequences

Sequences that set colours and move the cursor on a terminal: ESC, an opening bracket, parameters,
intermediate characters, and a final one. They take no room in a line, and a channel that is no
terminal does without them.
-/

namespace CommandBook.Text

/-- Whether a character's code point lies between two others, both included. -/
def isBetween (low high : Char) (c : Char) : Bool := low ≤ c && c ≤ high

/-- The number of characters, behind ESC, of the control sequence that begins with it. -/
def controlLength? : List Char → Option Nat
  | '[' :: rest =>
    let parameters := rest.takeWhile (isBetween '0' '?')
    let behind := rest.drop parameters.length
    let between := behind.takeWhile (isBetween ' ' '/')
    match behind.drop between.length with
    | c :: _ =>
      if isBetween '@' '~' c then some (parameters.length + between.length + 2) else none
    | [] => none
  | _ => none

/-- The text without its control sequences; `skip` characters still belong to one. -/
def stripControlsFrom : (skip : Nat) → List Char → List Char
  | _, [] => []
  | skip + 1, _ :: rest => stripControlsFrom skip rest
  | 0, c :: rest =>
    match if c == '\x1b' then controlLength? rest else none with
    | some n => stripControlsFrom n rest
    | none => c :: stripControlsFrom 0 rest

/-- The text without its control sequences. -/
def stripControls (cs : List Char) : List Char := stripControlsFrom 0 cs

/-- The room that characters take in a line. -/
def room (cs : List Char) : Nat := (stripControls cs).length

/-- The room that a text takes in a line. -/
def width (s : String) : Nat := room s.toList

/-- The first characters of a text that take so much room, with the control sequences between them,
and the others; `skip` characters still belong to a sequence. -/
def splitRoomFrom : (skip : Nat) → (n : Nat) → List Char → List Char × List Char
  | _, _, [] => ([], [])
  | skip + 1, n, c :: rest =>
    let r := splitRoomFrom skip n rest
    (c :: r.1, r.2)
  | 0, 0, c :: rest => ([], c :: rest)
  | 0, n + 1, c :: rest =>
    let r := match if c == '\x1b' then controlLength? rest else none with
      | some k => splitRoomFrom k (n + 1) rest
      | none => splitRoomFrom 0 n rest
    (c :: r.1, r.2)

/-- The first characters of a text that take so much room, and the others. -/
def splitRoom (n : Nat) (cs : List Char) : List Char × List Char := splitRoomFrom 0 n cs

end CommandBook.Text
