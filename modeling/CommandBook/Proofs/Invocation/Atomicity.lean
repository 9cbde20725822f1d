import CommandBook.Proofs.Invocation.Stages

/-!
# The session file changes as a whole or not at all

An invocation leaves the bytes of the session file alone, or it writes all of the texts of its
scope. It comes to writing only where `Reaches` holds: whatever goes wrong before, the file is as it
was. Saving itself may stop, for want of a directory or a place to write to; then, too, there is
what was there before.

## Main statements

* `bytes?_firstStage_of_reaches` — saving is all that counts
* `bytes?_run` — the bytes of the session file after an invocation
-/

namespace CommandBook.Invocation

variable {definition : CommandDefinition} {arguments : OrderedMap String String}
  {config : RunConfig} {around : Surroundings} {verbose : Bool}

/-- The bytes of the session file after the first stage. -/
theorem bytes?_firstStage_of_reaches {scope final : Scope} {reply : Reply}
    (h : Reaches definition scope config around verbose reply final) :
    around.store.bytes? (Effect.applyAll around.files
        (firstStage definition scope config around verbose).effects) =
      around.store.bytes? (Effect.applyAll around.files
        (around.store.saveScope around.files final).effects) := by
  obtain ⟨before, hquiet, hfirst⟩ := firstStage_of_reaches h
  rw [hfirst, Effect.applyAll_append, Effect.applyAll_of_quiet hquiet]

/-- **The session file after an invocation**, whether it has a status or stops. Where saving is
reached and goes well, the file holds the texts of the whole scope with what was captured; where
not, its bytes are those it had. An invocation that finds a session it cannot load does nothing at
all. The shell command leaves the file alone. -/
theorem bytes?_run
    (hshell : Effect.Spares around.store.path around.files
      (run definition arguments config around verbose).effects) :
    (∀ session reply final, around.store.load around.files = .ok session →
      Reaches definition (scopeOf config session arguments) config around verbose reply final →
      (around.store.saveScope around.files final).result = .ok () →
        around.store.bytes? (Effect.applyAll around.files
            (run definition arguments config around verbose).effects) =
          some (Session.ofScope final).fileText.toUTF8) ∧
    ((¬∃ session reply final, around.store.load around.files = .ok session ∧
      Reaches definition (scopeOf config session arguments) config around verbose reply final ∧
      (around.store.saveScope around.files final).result = .ok ()) →
        around.store.bytes? (Effect.applyAll around.files
            (run definition arguments config around verbose).effects) =
          around.store.bytes? around.files) ∧
    ∀ reason, around.store.load around.files = .error reason →
      run definition arguments config around verbose = ⟨[], .error reason⟩ := by
  refine ⟨fun session reply final hload hreaches hsave => ?_, fun hnot => ?_,
    fun reason hload => run_of_load_error hload⟩
  · rw [SessionStore.bytes?_congr (find?_run hload hshell), bytes?_firstStage_of_reaches hreaches,
      SessionStore.bytes?_saveScope hsave]
  -- three ways not to write: nothing is loaded, saving is not reached, or saving stops
  · cases hload : around.store.load around.files with
    | error reason =>
      rw [run_of_load_error hload]
      rfl
    | ok session =>
      rw [SessionStore.bytes?_congr (find?_run hload hshell)]
      by_cases hreaches : ∃ reply final,
          Reaches definition (scopeOf config session arguments) config around verbose reply final
      · obtain ⟨reply, final, hreaches⟩ := hreaches
        rw [bytes?_firstStage_of_reaches hreaches]
        cases hsave : (around.store.saveScope around.files final).result with
        | error reason => exact SessionStore.bytes?_saveScope_error hsave
        | ok _ => exact absurd ⟨session, reply, final, hload, hreaches, hsave⟩ hnot
      · rw [Effect.applyAll_of_quiet (isQuiet_firstStage hreaches)]

/-- A command that captures a text whatever the answer is. -/
def login : CommandDefinition :=
  { name := "login", endpoint := some "GET http://localhost", set := .ofList [("token", "abc")] }

/-- Every request is answered with success. -/
def answering (files : FileTree) (path : FilePath) : Surroundings :=
  { files
    store := ⟨path⟩
    exchange := .answered ⟨200, [], "", 0, 0⟩
    shell := fun _ _ => .error .nulInCommand }

theorem reaches_login (files : FileTree) (path : FilePath) : ∃ reply,
    Reaches login (scopeOf {} .empty .empty) {} (answering files path) false reply
      (.ofList [("token", .str "abc")]) :=
  ⟨_, ⟨_, _, rfl, rfl, rfl⟩, rfl, nofun, nofun, rfl, rfl⟩

/-- Without files the session file holds what was captured. -/
theorem bytes?_run_login :
    let around := answering ⟨.empty, [], []⟩ (.absolute ["session.json"])
    let effects := (run login .empty {} around false).effects
    Effect.Spares around.store.path around.files effects ∧
      around.store.bytes? (Effect.applyAll around.files effects) =
        some (Session.ofScope (.ofList [("token", .str "abc")])).fileText.toUTF8 := by
  obtain ⟨r, content, heffects⟩ : ∃ r content,
      (run login .empty {} (answering ⟨.empty, [], []⟩ (.absolute ["session.json"])) false).effects =
        [.request r, .write ["session.json"] content] := ⟨_, _, rfl⟩
  have hshell : Effect.Spares (.absolute ["session.json"]) ⟨.empty, [], []⟩
      (run login .empty {} (answering ⟨.empty, [], []⟩ (.absolute ["session.json"]))
        false).effects := by
    rw [heffects]
    exact Effect.spares_of_not_mem (by simp)
  obtain ⟨reply, hreaches⟩ := reaches_login ⟨.empty, [], []⟩ (.absolute ["session.json"])
  exact ⟨hshell, (bytes?_run hshell).1 .empty reply _ rfl hreaches rfl⟩

/-- Where the directory of the session file cannot be made, nothing is written although all was
captured. -/
theorem bytes?_run_login_blocked :
    let around := answering SessionStore.blocked SessionStore.blockedPath
    (∃ reply, Reaches login (scopeOf {} .empty .empty) {} around false reply
      (.ofList [("token", .str "abc")])) ∧
      around.store.load around.files = .ok .empty ∧
      Effect.Spares around.store.path around.files (run login .empty {} around false).effects ∧
      around.store.bytes? (Effect.applyAll around.files
        (run login .empty {} around false).effects) = none := by
  obtain ⟨r, heffects⟩ : ∃ r, (run login .empty {} (answering SessionStore.blocked
      SessionStore.blockedPath) false).effects = [.request r] := ⟨_, rfl⟩
  refine ⟨reaches_login _ _, rfl, ?_, rfl⟩
  rw [heffects]
  exact Effect.spares_of_not_mem (by simp)

end CommandBook.Invocation
