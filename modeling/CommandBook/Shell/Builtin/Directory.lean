import CommandBook.Shell.Builtin.Options

/-!
# Commands on directories

The present directory, which the shell knows by the names that led there, and the mask of rights for
new files.
-/

namespace CommandBook.Shell.Builtin

open Running

/-- The names on a path after another one. Empty names and dots change nothing, and two dots take
away the last name. -/
def followNames (names : List Bytes) : List Bytes → List Bytes
  | [] => names
  | name :: rest =>
    if name.isEmpty || name == ['.'] then followNames names rest
    else if name == ['.', '.'] then followNames names.dropLast rest
    else followNames (names ++ [name]) rest

/-- A path as seen from a directory. Two slashes at its start, but not three, are kept. -/
def pathFrom (directory path : Bytes) : Bytes :=
  let isDouble (b : Bytes) : Bool := b.take 2 == ['/', '/'] && b[2]? != some '/'
  let absolute := path.head? == some '/'
  let base := if absolute then [] else (Bytes.splitAt '/' directory).filter (!·.isEmpty)
  let names := followNames base (Bytes.splitAt '/' path)
  (if isDouble (if absolute then path else directory) then ['/', '/'] else ['/']) ++
    List.intercalate ['/'] names

/-- Whether a path is meant from here, or from the root. -/
def isLocal (path : Bytes) : Bool :=
  match path with
  | '/' :: _ => true
  | ['.'] => true
  | '.' :: '/' :: _ => true
  | ['.', '.'] => true
  | '.' :: '.' :: '/' :: _ => true
  | _ => false

/-- Goes to a directory; tells whether it is there. -/
def enter (physical : Bool) (path : Bytes) : Running Bool := do
  let p ← process
  let wanted := if physical then path else pathFrom p.directory path
  match Place.directoryAt (← files) wanted with
  | .error _ => return false
  | .ok l =>
    modifyProcess ({ · with current := l })
    store "OLDPWD" (some p.directory) true false false true
    let directory := if physical then Place.pathOf l else wanted
    modifyProcess fun p => { p with
      directory
      known := p.known.map ({ · with stale := true }) }
    store "PWD" (some directory) true false false true
    return true

/-- Whether the options ask for a path without detours. -/
def isPhysical (os : List (Char × Bytes)) : Bool := os.getLast?.any (·.1 == 'P')

/-- Goes to the first of some directories that is there; tells which place in the row it has. -/
def enterFirst (physical : Bool) : List (Bytes × Bool) → Running (Option Bool)
  | [] => return none
  | (path, shows) :: rest => do
    if (Place.directoryAt (← files) path).toOption.isSome then
      return if ← enter physical path then some shows else none
    else enterFirst physical rest

def cd : Builtin := fun args => do
  let (os, args) ← options "LP" args
  let physical := isPhysical os
  let back := args.head? == some ['-']
  let wanted ← match args with
    | [] => do pure ((← valueOf? "HOME").getD [])
    | ['-'] :: _ => do pure ((← valueOf? "OLDPWD").getD [])
    | a :: _ => pure a
  let entered ← if isLocal wanted then
      pure (if ← enter physical wanted then some false else none)
    else do
      let wanted := if wanted.isEmpty then ['.'] else wanted
      let directories := match ← valueOf? "CDPATH" with
        | some path => Bytes.splitAt ':' path
        | none => []
      -- a directory that another one leads to is shown
      let found ← enterFirst physical (directories.map fun d =>
        if d.isEmpty then (wanted, false) else (d ++ '/' :: wanted, true))
      match found with
      | some shows => pure (some shows)
      | none => pure (if ← enter physical wanted then some false else none)
  match entered with
  | none => fatal ("can't cd to ".toList ++ if wanted.isEmpty then ['.'] else wanted)
  | some shows =>
    if shows || back then putLine (← process).directory
    return 0

def pwd : Builtin := fun args => do
  let (os, _) ← options "LP" args
  let p ← process
  putLine (if isPhysical os then Place.pathOf p.current else p.directory)
  return 0

/-! ## The mask -/

/-- Rights for everybody, as a number of nine bits. -/
def everybody : Nat := 0o111

/-- The rights that the letters behind a sign mean, and the text behind them. -/
def rightsOf (before : Nat) : Bytes → Nat × Bytes
  | [] => (0, [])
  | c :: rest =>
    let right? : Option Nat := match c with
      | 'r' => some 4
      | 'w' => some 2
      | 'x' => some 1
      | 'u' => some (before / 64)
      | 'g' => some (before / 8)
      | 'o' => some before
      | 'X' => some (if before &&& everybody = 0 then 0 else 1)
      | 's' => some 0
      | _ => none
    match right? with
    | none => (0, c :: rest)
    | some r =>
      let (more, rest) := rightsOf before rest
      ((r ||| more) % 8, rest)

/-- Whose rights the letters before a sign mean, and the text behind them. -/
def partiesOf : Bytes → Nat × Bytes
  | [] => (0, [])
  | c :: rest =>
    let party? : Option Nat := match c with
      | 'a' => some everybody
      | 'u' => some 0o100
      | 'g' => some 0o010
      | 'o' => some 0o001
      | _ => none
    match party? with
    | none => (0, c :: rest)
    | some p =>
      let (more, rest) := partiesOf rest
      (p ||| more, rest)

/-- The rights that a text makes of others; nothing if it is wrong. -/
def changeRights (before : Nat) : Nat → (rights parties : Nat) → Bytes → Option Nat
  | 0, _, _, _ => none
  | _ + 1, rights, _, [] => some rights
  | n + 1, rights, parties, text =>
    let (more, text) := partiesOf text
    let parties := if parties ||| more = 0 then everybody else parties ||| more
    match text with
    | [] => some rights
    | sign :: text =>
      if !"=+-".toList.contains sign then none
      else
        let (granted, text) := rightsOf before text
        let granted := granted * parties
        let others := rights &&& (0o777 - parties * 7)
        let rights :=
          if sign == '+' then rights ||| granted
          else if sign == '-' then rights &&& (0o777 - granted)
          else granted ||| others
        match text with
        | ',' :: text => changeRights before n rights 0 text
        | [] => some rights
        | c :: _ => if "=+-".toList.contains c then changeRights before n rights parties text
          else none

/-- The letters of rights. -/
def rightsText (rights : Nat) : Bytes :=
  let of (letter : Char) (shift : Nat) : Bytes :=
    let r := rights / shift % 8
    letter :: '=' :: (if r / 4 % 2 = 1 then ['r'] else []) ++
      (if r / 2 % 2 = 1 then ['w'] else []) ++ if r % 2 = 1 then ['x'] else []
  List.intercalate [','] [of 'u' 64, of 'g' 8, of 'o' 1]

def umask : Builtin := fun args => do
  let (os, args) ← options "S" args
  let mask := (← process).mask
  match args with
  | [] =>
    if os.isEmpty then
      let ds := Nat.toDigits 8 mask
      putLine (List.replicate (4 - ds.length) '0' ++ ds)
    else putLine (rightsText (0o777 - mask))
    return 0
  | a :: _ =>
    let new ← if a.head?.any Char.isDigit then
        if !a.all isOctalDigit then illegalNumber a
        else pure (a.foldl (fun n c => n * 8 + (c.toNat - 48)) 0 % 0o1000)
      else
        let rights := 0o777 - mask
        match changeRights rights (a.length + 1) rights 0 a with
        | some rights => pure (0o777 - rights % 0o1000)
        | none => fatal ("Illegal mode: ".toList ++ a)
    modifyProcess ({ · with mask := new })
    return 0
where
  isOctalDigit (c : Char) : Bool := '0' ≤ c && c ≤ '7'

end CommandBook.Shell.Builtin
