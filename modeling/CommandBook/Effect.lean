import CommandBook.FileTree
import CommandBook.Request
import CommandBook.Text.Controls

/-!
# Effects

What an invocation does to the world outside, as data: lines on the two output channels, requests,
shell commands and changes of files, in the order in which they happen. A `Step` is a computation
that performs effects and either has a value or stops; effects that come before a stop remain.

## Main statements

* `Step.effects_bind_ok`, `Step.effects_bind_error` — the effects of steps in a row
-/

namespace CommandBook

/-- One thing that an invocation does. -/
inductive Effect where
  /-- A text and a line end on standard output. -/
  | out (text : String)
  /-- A text and a line end on standard output, with the control sequences that it holds. -/
  | verbatim (text : String)
  /-- A text and a line end on standard error. -/
  | err (text : String)
  | request (r : Request)
  | command (text : String)
  | makeDirectory (place : Location)
  | write (place : Location) (content : ByteArray)
  | remove (place : Location)

/-- A computation that performs effects and then has a value or stops. -/
structure Step (ε α : Type) where
  effects : List Effect
  result : Except ε α

namespace Step
variable {ε α β : Type}

/-- A value without effects. -/
def ok (a : α) : Step ε α := ⟨[], .ok a⟩

/-- A stop without effects. -/
def stop (e : ε) : Step ε α := ⟨[], .error e⟩

/-- One effect. -/
def emit (e : Effect) : Step ε Unit := ⟨[e], .ok ()⟩

/-- A row of effects. -/
def emitAll (es : List Effect) : Step ε Unit := ⟨es, .ok ()⟩

/-- A result without effects. -/
def ofExcept (r : Except ε α) : Step ε α := ⟨[], r⟩

/-- The same step with another reason to stop. -/
def mapStop {δ : Type} (f : ε → δ) (s : Step ε α) : Step δ α := ⟨s.effects, s.result.mapError f⟩

/-- One step and, if it has a value, another that depends on it. -/
def bind (s : Step ε α) (f : α → Step ε β) : Step ε β :=
  match s.result with
  | .error e => ⟨s.effects, .error e⟩
  | .ok a => ⟨s.effects ++ (f a).effects, (f a).result⟩

instance : Monad (Step ε) where
  pure := ok
  bind := bind

theorem effects_bind_ok {s : Step ε α} {f : α → Step ε β} {a : α} (h : s.result = .ok a) :
    (s.bind f).effects = s.effects ++ (f a).effects := by
  simp [bind, h]

theorem effects_bind_error {s : Step ε α} {f : α → Step ε β} {e : ε} (h : s.result = .error e) :
    (s.bind f).effects = s.effects := by
  simp [bind, h]

theorem result_bind_ok {s : Step ε α} {f : α → Step ε β} {a : α} (h : s.result = .ok a) :
    (s.bind f).result = (f a).result := by
  simp [bind, h]

theorem result_bind_error {s : Step ε α} {f : α → Step ε β} {e : ε} (h : s.result = .error e) :
    (s.bind f).result = .error e := by
  simp [bind, h]

end Step

/-! ## Views of a row of effects -/

namespace Effect

/-- A line on a channel, which is no terminal. -/
def line (text : String) : String := String.ofList (Text.stripControls text.toList) ++ "\n"

/-- All that goes to standard output. -/
def stdout (es : List Effect) : String :=
  String.join (es.filterMap fun
    | .out text => some (line text)
    | .verbatim text => some (text ++ "\n")
    | _ => none)

/-- All that goes to standard error. -/
def stderr (es : List Effect) : String :=
  String.join (es.filterMap fun
    | .err text => some (line text)
    | _ => none)

/-- The requests in order. -/
def requests (es : List Effect) : List Request :=
  es.filterMap fun
    | .request r => some r
    | _ => none

/-- The shell commands in order. -/
def commands (es : List Effect) : List String :=
  es.filterMap fun
    | .command c => some c
    | _ => none

/-- The files after an effect. -/
def apply (files : FileTree) : Effect → FileTree
  | .makeDirectory place => files.put place .directory
  | .write place content => files.put place (.file content)
  | .remove place => files.remove place
  | _ => files

/-- The files after a row of effects. -/
def applyAll (files : FileTree) (es : List Effect) : FileTree := es.foldl apply files

end Effect

end CommandBook
