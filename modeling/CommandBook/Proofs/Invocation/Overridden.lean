import CommandBook.Proofs.Invocation.History
import Mathlib.Data.List.Forall2

/-!
# A saved name hides the variable of the document

An invocation sees the variables of its document only in its scope, and there the session goes over
them. As long as a name is saved, it makes no difference what the document says about it. And it
stays saved: an invocation that saves, saves all that it sees, and one that stops on the way to
saving leaves what was there. Only a shell command could take a name away.

Two rows of invocations that differ only in such variables therefore go on in the same way. One
invocation is the same step in both and keeps the names, and the rest is an induction on the row.

## Main statements

* `step_eq_of_isEdit` — one invocation
* `hasNames_after` — the names stay
* `observe_eq_of_isEdit` — any row of invocations
-/

namespace CommandBook

namespace SessionStore

variable {store : SessionStore} {files : FileTree} {session : Session} {name : String}

/-- What is saved, if it can be loaded, has all names of a session. -/
def HasNames (store : SessionStore) (files : FileTree) (session : Session) : Prop :=
  ∀ saved, store.load files = .ok saved →
    ∀ name, (session.get? name).isSome → (saved.get? name).isSome

/-- No shell command takes the names of a session away: those that are saved before it are saved in
the end. A command takes names away by writing the session file anew; one that removes the file, or
whose output cannot be decoded after it has written it, is not among the outcomes of a shell. -/
def SparesNames (store : SessionStore) (session : Session) (files : FileTree)
    (es : List Effect) : Prop :=
  ∀ before command after, es = before ++ .command command :: after →
    store.HasNames (Effect.applyAll files before) session →
      store.HasNames (Effect.applyAll files es) session

theorem sparesNames_of_not_mem {es : List Effect} (h : ∀ command, .command command ∉ es) :
    store.SparesNames session files es :=
  fun before command _ hes =>
    absurd (hes ▸ List.mem_append_right before List.mem_cons_self) (h command)

/-- Where a name is saved there is a file. -/
theorem find?_of_load (hload : store.load files = .ok session)
    (hname : (session.get? name).isSome) :
    ∃ place content, files.find? store.path = .ok (some (place, .file content)) := by
  rw [load_eq] at hload
  split at hload
  · cases hload
  · cases hload
    cases hname
  · cases hload
  · next place content hfind => exact ⟨place, content, hfind⟩

/-- Over a file, saving stops only before it touches anything. -/
theorem saveScope_of_find? {place : Location} {content : ByteArray}
    (h : files.find? store.path = .ok (some (place, .file content))) (scope : Scope) :
    (store.saveScope files scope).effects = [] ∨ (store.saveScope files scope).result = .ok () := by
  rcases saveScope_cases store files scope with ⟨-, hsave⟩ | ⟨-, hsave⟩
  · exact Or.inl (by rw [hsave])
  · have hwritable := writable_of_entry (FileTree.find?_eq_some_iff.1 h)
    exact Or.inr (by rw [hsave, save_of_writable hwritable])

end SessionStore

namespace Invocation

/-! ## One invocation -/

/-- The same invocation with another document: its variables have the same names in the same order,
and other values for names of the session at most. -/
def Call.IsEdit (session : Session) (call call' : Call) : Prop :=
  ∃ defaults : Scope, call' = { call with config := { call.config with defaults } } ∧
    defaults.keys = call.config.defaults.keys ∧
    ∀ name, session.get? name = none → defaults.get? name = call.config.defaults.get? name

variable {store : SessionStore} {files : FileTree} {call call' : Call} {session initial : Session}

/-- **The scope does not show** what the document says about a saved name. -/
theorem scopeOf_eq_of_overridden {config : RunConfig} {defaults : Scope}
    (hkeys : defaults.keys = config.defaults.keys)
    (h : ∀ name, session.get? name = none → defaults.get? name = config.defaults.get? name)
    (arguments : OrderedMap String String) :
    scopeOf { config with defaults } session arguments = scopeOf config session arguments := by
  have hunion : defaults.union session.toScope = config.defaults.union session.toScope := by
    refine OrderedMap.eq_of_keys_of_get? (OrderedMap.keys_union_congr hkeys _) fun name => ?_
    rw [OrderedMap.get?_union, OrderedMap.get?_union, Session.toScope, OrderedMap.get?_mapValues]
    cases hname : session.get? name with
    | none => rw [h name hname]
    | some text => rfl
  exact congrArg (OrderedMap.union · (arguments.mapValues .str)) hunion

/-- Apart from its scope, the first stage takes no more from a document than headers and time
limit. -/
theorem firstStage_with_defaults (definition : CommandDefinition) (scope : Scope)
    (config : RunConfig) (defaults : Scope) (around : Surroundings) (verbose : Bool) :
    firstStage definition scope { config with defaults } around verbose =
      firstStage definition scope config around verbose := by
  have hprepare : ∀ endpoint, prepare definition endpoint scope { config with defaults } =
      prepare definition endpoint scope config := fun _ => rfl
  unfold firstStage
  split
  · rw [requestStage, requestStage, hprepare]
  · rfl

theorem step_of_load_error {reason : Stop} (call : Call) (h : store.load files = .error reason) :
    call.step store files = ⟨[], .error reason⟩ := by
  have hload : (call.around store files).store.load (call.around store files).files =
      .error reason := h
  exact run_of_load_error hload

theorem step_of_load (call : Call) (h : store.load files = .ok session) :
    call.step store files = (call.first store files session).bind fun (sent, final) =>
      (shellStage call.definition final (call.around store (Effect.applyAll files
        (call.first store files session).effects)) call.verbose).bind
        fun ran => .ok (if sent && ran then 0 else 1) := by
  have hload : (call.around store files).store.load (call.around store files).files =
      .ok session := h
  exact run_of_load _ _ _ _ hload

/-- **An invocation does the same** with another document, while all names are saved in which the
documents differ. -/
theorem step_eq_of_isEdit (hnames : store.HasNames files initial)
    (h : Call.IsEdit initial call call') : call'.step store files = call.step store files := by
  obtain ⟨defaults, rfl, hkeys, hvalues⟩ := h
  cases hload : store.load files with
  | error reason => rw [step_of_load_error _ hload, step_of_load_error _ hload]
  | ok session =>
    have hhidden : ∀ name, session.get? name = none →
        defaults.get? name = call.config.defaults.get? name := by
      intro name hname
      refine hvalues name (Option.not_isSome_iff_eq_none.1 fun hsome => ?_)
      have hsaved := hnames session hload name hsome
      rw [hname] at hsaved
      cases hsaved
    have hfirst : ({ call with config := { call.config with defaults } } : Call).first store files
        session = call.first store files session := by
      rw [Call.first, Call.first, Call.scope, scopeOf_eq_of_overridden hkeys hhidden]
      exact firstStage_with_defaults _ _ _ _ _ _
    rw [step_of_load _ hload, step_of_load _ hload, hfirst]
    rfl

/-- After the first stage an invocation does nothing before it comes to the shell command. -/
theorem effects_step (call : Call) (h : store.load files = .ok session) :
    ∃ rest, LeadsToCommand rest ∧
      (call.step store files).effects = (call.first store files session).effects ++ rest := by
  have hload : (call.around store files).store.load (call.around store files).files =
      .ok session := h
  exact effects_run _ _ _ _ hload

/-- **The first stage takes no name away**, whether or not it comes to saving. -/
theorem load_first_of_name {name : String} (hload : store.load files = .ok session)
    (hname : (session.get? name).isSome) (call : Call) : ∃ later,
      store.load (Effect.applyAll files (call.first store files session).effects) = .ok later ∧
        ∀ other, (session.get? other).isSome → (later.get? other).isSome := by
  by_cases hreaches : ∃ reply final, Reaches call.definition (call.scope session) call.config
      (call.around store files) call.verbose reply final
  · obtain ⟨reply, final, hreaches⟩ := hreaches
    obtain ⟨place, content, hfind⟩ := SessionStore.find?_of_load hload hname
    rcases SessionStore.saveScope_of_find? hfind final with hnothing | hsaved
    -- a number that is too long stops saving, and the file is as it was
    · obtain ⟨before, hquiet, hfirst⟩ := firstStage_of_reaches hreaches
      refine ⟨session, ?_, fun other hother => hother⟩
      have hnothing' : ((call.around store files).store.saveScope (call.around store files).files
          final).effects = [] := hnothing
      rw [Call.first, hfirst, hnothing', List.append_nil, Effect.applyAll_of_quiet hquiet, hload]
    · obtain ⟨later, hlater, hget⟩ := load_first_of_reaches hreaches hsaved
      refine ⟨later, hlater, fun other hother => ?_⟩
      simp [hget, Option.isSome_or, hother]
  · exact ⟨session, load_first_of_not_reaches hload hreaches, fun other hother => hother⟩

/-- **An invocation takes no name away** if its shell command does not. -/
theorem hasNames_after (hnames : store.HasNames files initial)
    (hshell : store.SparesNames initial files (call.step store files).effects) :
    store.HasNames (call.after store files) initial := by
  intro later hlater name hname
  cases hload : store.load files with
  | error reason =>
    rw [Call.after, step_of_load_error call hload] at hlater
    exact hnames later hlater name hname
  | ok session =>
    have hsession := hnames session hload name hname
    obtain ⟨middle, hmiddle, hkeeps⟩ := load_first_of_name hload hsession call
    obtain ⟨rest, hrest | ⟨before, command, after, hquiet, hrest⟩, heffects⟩ :=
      effects_step call hload
    · rw [Call.after, heffects, hrest, List.append_nil, hmiddle] at hlater
      cases hlater
      exact hkeeps name hsession
    -- what the first stage left is what the shell command finds
    · have hfound : store.HasNames (Effect.applyAll files
          ((call.first store files session).effects ++ before)) initial := by
        intro saved hsaved other hother
        rw [Effect.applyAll_append, Effect.applyAll_of_quiet hquiet, hmiddle] at hsaved
        cases hsaved
        exact hkeeps other (hnames session hload other hother)
      exact hshell _ command after (by rw [heffects, hrest, ← List.append_assoc]) hfound
        later hlater name hname

/-! ## A row of invocations -/

/-- What can be seen of a row of invocations: the steps, and after each the bytes of the session
file. -/
def observe (store : SessionStore) : FileTree → List Call → List (Step Stop Nat × Option ByteArray)
  | _, [] => []
  | files, call :: calls =>
    (call.step store files, store.bytes? (call.after store files)) ::
      observe store (call.after store files) calls

/-- No shell command of a row takes the names of a session away. -/
def SparesNames (store : SessionStore) (session : Session) : FileTree → List Call → Prop
  | _, [] => True
  | files, call :: calls =>
    store.SparesNames session files (call.step store files).effects ∧
      SparesNames store session (call.after store files) calls

theorem observe_eq_of_hasNames {calls calls' : List Call}
    (h : List.Forall₂ (Call.IsEdit initial) calls calls') : ∀ {files : FileTree},
      store.HasNames files initial → SparesNames store initial files calls →
        observe store files calls' = observe store files calls := by
  induction h with
  | nil => exact fun _ _ => rfl
  | cons hcall _ ih =>
    intro files hnames hshell
    have hstep := step_eq_of_isEdit hnames hcall
    rw [observe, observe, Call.after, Call.after, hstep]
    exact congrArg _ (ih (hasNames_after hnames hshell.1) hshell.2)

/-- **Saved names outrank an edited document.** Two rows of invocations whose documents differ only
in variables that were saved in the beginning go on in the same way: the same effects, the same
statuses and stops, and the same session file after each. -/
theorem observe_eq_of_isEdit {calls calls' : List Call} (hload : store.load files = .ok initial)
    (h : List.Forall₂ (Call.IsEdit initial) calls calls')
    (hshell : SparesNames store initial files calls) :
    observe store files calls' = observe store files calls := by
  refine observe_eq_of_hasNames h (fun saved hsaved name hname => ?_) hshell
  rw [hload] at hsaved
  cases hsaved
  exact hname

/-- A session with one variable. -/
def savedBase : Session := .ofList [("base", "saved")]

/-- A session file that holds it. -/
def baseFiles : FileTree :=
  FileTree.write ⟨.empty, [], []⟩ ["session.json"] savedBase.fileText

/-- A definition with a document that has one variable, where every request is answered with success
and every shell command empties the session file. -/
def callWith (definition : CommandDefinition) (base : String) : Call where
  definition
  arguments := .empty
  config := { defaults := .ofList [("base", .str base)] }
  exchange := .answered ⟨200, [], "", 0, 0⟩
  shell := fun _ _ => .ok { written := [(["session.json"], "{}".toUTF8)] }
  verbose := false

/-- A definition that shows the variable. -/
def showBase : CommandDefinition := { name := "show", response := some "at $base" }

theorem load_baseFiles : SessionStore.load ⟨.absolute ["session.json"]⟩ baseFiles =
    .ok savedBase := SessionStore.load_of_find? rfl

theorem isEdit_callWith (definition : CommandDefinition) (base base' : String) :
    Call.IsEdit savedBase (callWith definition base) (callWith definition base') := by
  refine ⟨.ofList [("base", .str base')], rfl, rfl, fun name hname => ?_⟩
  have hne : name ≠ "base" := by
    rintro rfl
    cases hname
  have hnone : ∀ v : Value, (OrderedMap.ofList [("base", v)]).get? name = none := by
    intro v
    have hnew : name ∉ [("base", v)].map Prod.fst := by simpa using hne
    exact lookup_of_not_mem hnew
  exact (hnone _).trans (hnone _).symm

/-- A saved variable is shown whatever the document says, also after another saving. -/
theorem observe_eq_of_isEdit_base :
    let store : SessionStore := ⟨.absolute ["session.json"]⟩
    let calls (base : String) := [callWith login base, callWith showBase base]
    store.load baseFiles = .ok savedBase ∧
      List.Forall₂ (Call.IsEdit savedBase) (calls "first") (calls "second") ∧
      SparesNames store savedBase baseFiles (calls "first") ∧
      observe store baseFiles (calls "second") = observe store baseFiles (calls "first") ∧
      (observe store baseFiles (calls "second")).map (fun seen => Effect.stdout seen.1.effects) =
        ["", "at saved\n"] := by
  have hedits : List.Forall₂ (Call.IsEdit savedBase)
      [callWith login "first", callWith showBase "first"]
      [callWith login "second", callWith showBase "second"] :=
    .cons (isEdit_callWith _ _ _) (.cons (isEdit_callWith _ _ _) .nil)
  have hspares : SparesNames ⟨.absolute ["session.json"]⟩ savedBase baseFiles
      [callWith login "first", callWith showBase "first"] :=
    ⟨SessionStore.sparesNames_of_not_mem (command_not_mem_run rfl _ _ _ _),
      SessionStore.sparesNames_of_not_mem (command_not_mem_run rfl _ _ _ _), trivial⟩
  exact ⟨load_baseFiles, hedits, hspares, observe_eq_of_isEdit load_baseFiles hedits hspares,
    by decide +kernel⟩

/-- Once a shell command has emptied the session, the document shows. -/
theorem observe_ne_of_emptied :
    let store : SessionStore := ⟨.absolute ["session.json"]⟩
    let empty : CommandDefinition := { name := "empty", execute := some "empty" }
    let calls (base : String) := [callWith empty base, callWith showBase base]
    store.load baseFiles = .ok savedBase ∧
      List.Forall₂ (Call.IsEdit savedBase) (calls "first") (calls "second") ∧
      observe store baseFiles (calls "second") ≠ observe store baseFiles (calls "first") := by
  refine ⟨load_baseFiles, .cons (isEdit_callWith _ _ _) (.cons (isEdit_callWith _ _ _) .nil),
    fun heq => ?_⟩
  have hstdout := congrArg (List.map fun seen => Effect.stdout seen.1.effects) heq
  exact absurd hstdout (by decide +kernel)

end Invocation

end CommandBook
