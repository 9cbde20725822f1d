import CommandBook.Proofs.Invocation.Atomicity
import CommandBook.Proofs.Invocation.Captured

/-!
# What a row of invocations leaves in the session

Invocations that share a session file see what earlier ones saved, and those that capture something
save all they see. In the end a name has the value that the last saving invocation gave it, by a
captured value or an argument; else the value it had in the beginning; else that of the first
saving invocation whose document has a variable of that name. So no name is ever lost.

One invocation either leaves the session alone or makes such a change of it, and the law for a row
of invocations follows by induction on the row.

## Main statements

* `load_after_of_not_saving`, `load_after_of_saving` — one invocation
* `load_filesAfter` — any row of invocations
-/

namespace CommandBook.Invocation

/-- An invocation with all that it depends on, but for the files and the place of the session. -/
structure Call where
  definition : CommandDefinition
  arguments : OrderedMap String String
  config : RunConfig
  exchange : Exchange
  shell : Shell
  verbose : Bool

/-- An invocation that comes to saving: the scope that it saw, and the body of the answer. -/
structure Saving where
  call : Call
  scope : Scope
  body : Json

namespace Saving

/-- The value that a saving invocation gives to a name: a captured one, or else an argument. -/
def given? (saving : Saving) (name : String) : Option String :=
  (captured? saving.body saving.call.definition.set.entries saving.scope name).or
    (saving.call.arguments.get? name)

/-- The text of a variable of the document that a saving invocation uses. -/
def default? (saving : Saving) (name : String) : Option String :=
  (saving.call.config.defaults.get? name).map Session.textOf

end Saving

namespace Call

/-- What an invocation finds around it. -/
def around (call : Call) (store : SessionStore) (files : FileTree) : Surroundings :=
  { files, store, exchange := call.exchange, shell := call.shell }

/-- The invocation on some files. -/
def step (call : Call) (store : SessionStore) (files : FileTree) : Step Stop Nat :=
  run call.definition call.arguments call.config (call.around store files) call.verbose

/-- The files that an invocation leaves, whether or not it stops. -/
def after (call : Call) (store : SessionStore) (files : FileTree) : FileTree :=
  Effect.applyAll files (call.step store files).effects

/-- The scope that an invocation sees. -/
def scope (call : Call) (session : Session) : Scope := scopeOf call.config session call.arguments

/-- The first stage of an invocation that sees a session. -/
def first (call : Call) (store : SessionStore) (files : FileTree) (session : Session) :
    Step Stop (Bool × Scope) :=
  firstStage call.definition (call.scope session) call.config (call.around store files) call.verbose

/-- With what an invocation comes to saving, if it does. -/
def saving? (call : Call) (store : SessionStore) (files : FileTree) : Option (Saving × Scope) :=
  match store.load files with
  | .error _ => none
  | .ok session =>
    (reached? call.definition (call.scope session) call.config (call.around store files)
      call.verbose).map fun (reply, final) => (⟨call, call.scope session, reply.body⟩, final)

/-- The shell command leaves the session file alone, and saving does not stop where the invocation
comes to it. -/
structure Undisturbed (call : Call) (store : SessionStore) (files : FileTree) : Prop where
  shell : Effect.Spares store.path files (call.step store files).effects
  saved : ∀ saving final, call.saving? store files = some (saving, final) →
    (store.saveScope files final).result = .ok ()

end Call

variable {store : SessionStore} {files : FileTree} {call : Call} {session : Session}

/-! ## One invocation -/

/-- The layers of a scope: arguments over the session over the variables of the document. -/
theorem get?_scopeOf (config : RunConfig) (session : Session)
    (arguments : OrderedMap String String) (name : String) :
    (scopeOf config session arguments).get? name =
      (((arguments.get? name).or (session.get? name)).map .str).or (config.defaults.get? name) := by
  rw [scopeOf, Scope.layered, OrderedMap.get?_union, OrderedMap.get?_union, Session.toScope,
    OrderedMap.get?_mapValues, OrderedMap.get?_mapValues, ← Option.or_assoc, Option.map_or]

theorem saving?_eq_some_iff (hload : store.load files = .ok session) {saving : Saving}
    {final : Scope} : call.saving? store files = some (saving, final) ↔
      ∃ reply, Reaches call.definition (call.scope session) call.config (call.around store files)
          call.verbose reply final ∧ saving = ⟨call, call.scope session, reply.body⟩ := by
  rw [Call.saving?, hload]
  simp only [Option.map_eq_some_iff, Prod.exists, reached?_eq_some_iff, Prod.mk.injEq]
  constructor
  · rintro ⟨reply, _, hreaches, rfl, rfl⟩
    exact ⟨reply, hreaches, rfl⟩
  · rintro ⟨reply, hreaches, rfl⟩
    exact ⟨reply, final, hreaches, rfl, rfl⟩

/-- What the first stage of an invocation that does not come to saving leaves. -/
theorem load_first_of_not_reaches (hload : store.load files = .ok session)
    (h : ¬∃ reply final, Reaches call.definition (call.scope session) call.config
      (call.around store files) call.verbose reply final) :
    store.load (Effect.applyAll files (call.first store files session).effects) = .ok session := by
  rw [Call.first, Effect.applyAll_of_quiet (isQuiet_firstStage h), hload]

/-- What the first stage of an invocation that comes to saving leaves: what it gives goes over what
was there, and a variable of its document takes a place that is free. -/
theorem load_first_of_reaches {reply : Reply} {final : Scope}
    (h : Reaches call.definition (call.scope session) call.config (call.around store files)
      call.verbose reply final)
    (hsaved : (store.saveScope files final).result = .ok ()) :
    ∃ later,
      store.load (Effect.applyAll files (call.first store files session).effects) = .ok later ∧
      ∀ name, later.get? name =
        (((⟨call, call.scope session, reply.body⟩ : Saving).given? name).or
          (session.get? name)).or
            ((⟨call, call.scope session, reply.body⟩ : Saving).default? name) := by
  obtain ⟨before, hquiet, hfirst⟩ := firstStage_of_reaches h
  obtain ⟨place, hfind⟩ := SessionStore.find?_saveScope hsaved
  have hlater : (Effect.applyAll files (call.first store files session).effects).find? store.path =
      .ok (some (place, .file (Session.ofScope final).fileText.toUTF8)) := by
    rw [Call.first, hfirst, Effect.applyAll_append, Effect.applyAll_of_quiet hquiet]
    exact hfind
  -- the scope: captured values, then arguments, then the session, then variables of the document
  refine ⟨Session.ofScope final, SessionStore.load_of_find? hlater, fun name => ?_⟩
  have htext : Session.textOf ∘ Value.str = id := rfl
  rw [Session.ofScope, OrderedMap.get?_mapValues,
    get?_captureAll name call.definition.set.nodup h.captured, Call.scope, get?_scopeOf,
    Saving.given?, Saving.default?]
  simp only [Option.map_or, Option.map_map, htext, Option.map_id, id, Option.or_assoc]

/-- What lies at the path of the session is what the first stage left there. -/
theorem find?_after (h : call.Undisturbed store files) (hload : store.load files = .ok session) :
    (call.after store files).find? store.path =
      (Effect.applyAll files (call.first store files session).effects).find? store.path :=
  @find?_run call.definition call.config (call.around store files) call.verbose call.arguments
    session hload h.shell

/-- An invocation that does not come to saving leaves the session alone. -/
theorem load_after_of_not_saving (h : call.Undisturbed store files)
    (hload : store.load files = .ok session) (hsaving : call.saving? store files = none) :
    store.load (call.after store files) = .ok session := by
  refine (SessionStore.load_congr (find?_after h hload)).trans ?_
  refine load_first_of_not_reaches hload fun ⟨reply, final, hreaches⟩ => ?_
  have hsome := (saving?_eq_some_iff hload).2 ⟨reply, hreaches, rfl⟩
  rw [hsaving] at hsome
  cases hsome

/-- **An invocation that comes to saving** changes the session: what it gives goes over what was
there, and a variable of its document takes a place that is free. -/
theorem load_after_of_saving {saving : Saving} {final : Scope}
    (h : call.Undisturbed store files) (hload : store.load files = .ok session)
    (hsaving : call.saving? store files = some (saving, final)) :
    ∃ later, store.load (call.after store files) = .ok later ∧ ∀ name, later.get? name =
      ((saving.given? name).or (session.get? name)).or (saving.default? name) := by
  have hsaved := h.saved saving final hsaving
  obtain ⟨reply, hreaches, rfl⟩ := (saving?_eq_some_iff hload).1 hsaving
  obtain ⟨later, hlater, hget⟩ := load_first_of_reaches hreaches hsaved
  exact ⟨later, (SessionStore.load_congr (find?_after h hload)).trans hlater, hget⟩

/-! ## A row of invocations -/

/-- The files after a row of invocations, nothing else happening in between. -/
def filesAfter (store : SessionStore) : FileTree → List Call → FileTree
  | files, [] => files
  | files, call :: calls => filesAfter store (call.after store files) calls

/-- The invocations of a row that come to saving, in order. -/
def savings (store : SessionStore) : FileTree → List Call → List Saving
  | _, [] => []
  | files, call :: calls =>
    ((call.saving? store files).map Prod.fst).toList ++
      savings store (call.after store files) calls

/-- Each invocation of a row is undisturbed on the files that it finds. -/
def Undisturbed (store : SessionStore) : FileTree → List Call → Prop
  | _, [] => True
  | files, call :: calls =>
    call.Undisturbed store files ∧ Undisturbed store (call.after store files) calls

@[simp] theorem filesAfter_nil : filesAfter store files [] = files := rfl

@[simp] theorem filesAfter_cons (calls : List Call) : filesAfter store files (call :: calls) =
    filesAfter store (call.after store files) calls := rfl

@[simp] theorem savings_nil : savings store files [] = [] := rfl

@[simp] theorem savings_cons (calls : List Call) : savings store files (call :: calls) =
    ((call.saving? store files).map Prod.fst).toList ++
      savings store (call.after store files) calls := rfl

@[simp] theorem undisturbed_nil : Undisturbed store files [] := trivial

@[simp] theorem undisturbed_cons {calls : List Call} : Undisturbed store files (call :: calls) ↔
    call.Undisturbed store files ∧ Undisturbed store (call.after store files) calls := Iff.rfl

/-- What a name is after a row of saving invocations: given by the last one that gives it, else as
it was, else from the first one that has a variable of that name. -/
def settledValue (savings : List Saving) (initial : Session) (name : String) : Option String :=
  ((savings.reverse.findSome? (·.given? name)).or (initial.get? name)).or
    (savings.findSome? (·.default? name))

theorem settledValue_cons {saving : Saving} {savings : List Saving} {initial later : Session}
    {name : String} (h : later.get? name =
      ((saving.given? name).or (initial.get? name)).or (saving.default? name)) :
    settledValue savings later name = settledValue (saving :: savings) initial name := by
  rw [settledValue, settledValue, h, List.reverse_cons, List.findSome?_append,
    List.findSome?_singleton, List.findSome?_cons]
  -- a variable that takes a free place is a value of the session for all later invocations
  cases saving.default? name <;> simp [Option.or_assoc]

theorem get?_filesAfter : ∀ {calls : List Call} {files : FileTree} {initial : Session},
    store.load files = .ok initial → Undisturbed store files calls →
      ∃ final, store.load (filesAfter store files calls) = .ok final ∧
        ∀ name, final.get? name = settledValue (savings store files calls) initial name
  | [], _, initial, hload, _ => ⟨initial, hload, fun name => by simp [settledValue]⟩
  -- the law for the later invocations starts from the session that the first one leaves
  | call :: calls, files, initial, hload, h => by
    cases hsaving : call.saving? store files with
    | none =>
      have hlater := load_after_of_not_saving h.1 hload hsaving
      rw [filesAfter_cons, savings_cons, hsaving]
      exact get?_filesAfter hlater h.2
    | some found =>
      obtain ⟨saving, final⟩ := found
      obtain ⟨later, hlater, hget⟩ := load_after_of_saving h.1 hload hsaving
      obtain ⟨last, hlast, hlaw⟩ := get?_filesAfter hlater h.2
      rw [filesAfter_cons, savings_cons, hsaving]
      exact ⟨last, hlast, fun name => (hlaw name).trans (settledValue_cons (hget name))⟩

theorem filesAfter_append (calls later : List Call) (files : FileTree) :
    filesAfter store files (calls ++ later) = filesAfter store (filesAfter store files calls) later := by
  induction calls generalizing files with
  | nil => rfl
  | cons call calls ih => exact ih (call.after store files)

theorem undisturbed_append {calls later : List Call} {files : FileTree} :
    Undisturbed store files (calls ++ later) ↔
      Undisturbed store files calls ∧ Undisturbed store (filesAfter store files calls) later := by
  induction calls generalizing files with
  | nil => simp
  | cons call calls ih =>
    simp only [List.cons_append, undisturbed_cons, filesAfter_cons, ih, and_assoc]

/-- A name that is there stays there. -/
theorem isSome_settledValue {savings : List Saving} {initial : Session} {name : String}
    (h : (initial.get? name).isSome) : (settledValue savings initial name).isSome := by
  simp [settledValue, Option.isSome_or, h]

/-- **What a row of invocations leaves in the session.** Each name has the value that the last
saving invocation gave it, else the one it had, else that of the first saving invocation with a
variable of that name. On the way no name is lost. -/
theorem load_filesAfter {calls : List Call} {initial : Session}
    (hload : store.load files = .ok initial) (h : Undisturbed store files calls) :
    ∃ final, store.load (filesAfter store files calls) = .ok final ∧
      (∀ name, final.get? name = settledValue (savings store files calls) initial name) ∧
      ∀ before after, calls = before ++ after →
        ∃ earlier, store.load (filesAfter store files before) = .ok earlier ∧
          ∀ name, (earlier.get? name).isSome → (final.get? name).isSome := by
  obtain ⟨final, hfinal, hlaw⟩ := get?_filesAfter hload h
  refine ⟨final, hfinal, hlaw, fun before after hcalls => ?_⟩
  subst hcalls
  obtain ⟨hbefore, hafter⟩ := undisturbed_append.1 h
  obtain ⟨earlier, hearlier, -⟩ := get?_filesAfter hload hbefore
  obtain ⟨last, hlast, hrest⟩ := get?_filesAfter hearlier hafter
  rw [filesAfter_append, hlast] at hfinal
  cases hfinal
  exact ⟨earlier, hearlier, fun name hname => hrest name ▸ isSome_settledValue hname⟩

/-- The command `login` where every request is answered with success. -/
def loginCall : Call :=
  ⟨login, .empty, {}, .answered ⟨200, [], "", 0, 0⟩, fun _ _ => .error .nulInCommand, false⟩

/-- Without files the session is what was captured. -/
theorem load_filesAfter_login :
    let store : SessionStore := ⟨.absolute ["session.json"]⟩
    let files : FileTree := ⟨.empty, [], []⟩
    store.load files = .ok .empty ∧ Undisturbed store files [loginCall] ∧
      ∃ final, store.load (filesAfter store files [loginCall]) = .ok final ∧
        final.get? "token" = some "abc" := by
  obtain ⟨r, content, heffects⟩ : ∃ r content,
      (loginCall.step ⟨.absolute ["session.json"]⟩ ⟨.empty, [], []⟩).effects =
        [.request r, .write ["session.json"] content] := ⟨_, _, rfl⟩
  have hcall : loginCall.Undisturbed ⟨.absolute ["session.json"]⟩ ⟨.empty, [], []⟩ := by
    refine ⟨?_, fun saving final hsaving => ?_⟩
    · rw [heffects]
      exact Effect.spares_of_not_mem (by simp)
    · cases hsaving
      rfl
  have hrow : Undisturbed ⟨.absolute ["session.json"]⟩ ⟨.empty, [], []⟩ [loginCall] :=
    ⟨hcall, trivial⟩
  have hload : SessionStore.load ⟨.absolute ["session.json"]⟩ ⟨.empty, [], []⟩ = .ok .empty := rfl
  obtain ⟨final, hfinal, hlaw, -⟩ := load_filesAfter hload hrow
  exact ⟨hload, hrow, final, hfinal, hlaw "token"⟩

/-- Where the directory of the session file cannot be made, what was captured is not in the
session. -/
theorem load_filesAfter_login_blocked :
    let store : SessionStore := ⟨SessionStore.blockedPath⟩
    let files := SessionStore.blocked
    store.load files = .ok .empty ∧
      Effect.Spares store.path files (loginCall.step store files).effects ∧
      settledValue (savings store files [loginCall]) .empty "token" = some "abc" ∧
      store.load (filesAfter store files [loginCall]) = .ok .empty := by
  obtain ⟨r, heffects⟩ : ∃ r, (loginCall.step ⟨SessionStore.blockedPath⟩
      SessionStore.blocked).effects = [.request r] := ⟨_, rfl⟩
  refine ⟨rfl, ?_, rfl, rfl⟩
  rw [heffects]
  exact Effect.spares_of_not_mem (by simp)

end CommandBook.Invocation
