import CommandBook.CommandLine.Completion
import CommandBook.Proofs.Command.Partition
import CommandBook.Proofs.CommandLine.Extension

/-!
# Documents that are not accepted

A command of the document is looked up in the tree of all commands, so the document is loaded first.
Where it is not there, cannot be read, or has one wrong entry, loading it stops with an error, and
nothing has happened until then: the options that concern the session come later than the command.

## Main statements

* `load_eq_failure_iff` — when loading a document stops with an error
* `rejects_of_entry` — one wrong entry is enough
* `run_of_rejects` — a command line that names a command
-/

namespace CommandBook.CommandLine

variable {host : Host} {named : Option String} {e : ConfigError}

/-- Why the document that is named, or found where none is named, is not accepted: there is none, it
is no document of commands, or one of its commands is wrong. -/
inductive Rejects (host : Host) (named : Option String) : ConfigError → Prop
  | missing (h : findConfig host.files named = .ok none) :
      Rejects host named (.noFile ((searchedPaths host.files.home).map FilePath.toString))
  | unread {place : Location} {e : ConfigError}
      (hplace : findConfig host.files named = .ok (some place))
      (h : Config.load host.env host.files (some (.absolute place)) = .error (.config e)) :
      Rejects host named e
  | unbuilt {config : Config} {e : ConfigError} (hconfig : documentOf? host named = some config)
      (h : CommandTree.build config.commands = .error (.config e)) : Rejects host named e

/-! ## Loading -/

/-- **A document that is not accepted** stops with its error and does nothing. -/
theorem load_of_rejects (h : Rejects host named e) :
    load host named = .stop (.failure e.message) := by
  cases h with
  | missing hplace =>
    rw [load, hplace]
    rfl
  | @unread place _ hplace hconfig =>
    have hconfig : Config.load host.env host.files ((some place).map .absolute) = _ := hconfig
    rw [load, hplace, Step.ofExcept_ok_bind]
    simp only [hconfig]
    rfl
  | @unbuilt config _ hconfig htree =>
    obtain ⟨place, hplace, hconfig⟩ := exists_place_of_documentOf? hconfig
    rw [load, hplace, Step.ofExcept_ok_bind]
    simp only [hconfig]
    rw [Step.ofExcept_ok_bind, htree, Step.ofExcept_error_bind]
    rfl

/-- Loading stops with an error for no other reason. -/
theorem load_eq_failure_iff {message : String} :
    (load host named).result = .error (.failure message) ↔
      ∃ e, Rejects host named e ∧ e.message = message := by
  constructor
  · intro h
    rw [load] at h
    cases hplace : findConfig host.files named with
    | error f =>
      rw [hplace] at h
      cases h
    | ok place =>
      rw [hplace, Step.ofExcept_ok_bind] at h
      cases hconfig : Config.load host.env host.files (place.map .absolute) with
      | error reason =>
        simp only [hconfig, Step.ofExcept_error_bind] at h
        cases reason with
        | fault f => cases h
        | config e =>
          refine ⟨e, ?_, by cases h; rfl⟩
          cases place with
          | none =>
            cases hconfig
            exact .missing hplace
          | some place => exact .unread hplace hconfig
      | ok config =>
        simp only [hconfig, Step.ofExcept_ok_bind] at h
        cases htree : CommandTree.build config.commands with
        | error reason =>
          simp only [htree, Step.ofExcept_error_bind] at h
          cases reason with
          | fault f => cases h
          | config e =>
            have hdocument : documentOf? host named = some config := by
              rw [documentOf?, hplace]
              simp only [hconfig]
              rfl
            exact ⟨e, .unbuilt hdocument htree, by cases h; rfl⟩
        | ok tree =>
          simp only [htree, Step.ofExcept_ok_bind] at h
          cases h
  · rintro ⟨e, hrejects, rfl⟩
    rw [load_of_rejects hrejects]
    rfl

/-- **One wrong entry is enough**, whatever the entries behind it are. -/
theorem rejects_of_entry {config : Config} {before after : List (Leaf × Value)} {key : Leaf}
    {value : Value} (hconfig : documentOf? host named = some config)
    (hcommands : config.commands = before ++ (key, value) :: after)
    (hbefore : ∀ c ∈ before, CommandTree.IsValid c)
    (hwrong : CommandTree.entry key value = .error (.config e)) : Rejects host named e := by
  have hbuild : CommandTree.build config.commands = .error (.config e) := by
    rw [hcommands]
    exact CommandTree.build_of_first_wrong hbefore hwrong
  exact .unbuilt hconfig hbuild

/-! ## The whole command line -/

variable {words rest : List String} {r : ReadWords ToolOption} {name : String}

section Read
variable (hasked : (host.env.get? Completion.variableName).any (· != "") = false)
  (hread : readWords toolOptions false words = .ok r)
  (hhelp : r.options.any (·.1 == .help) = false)
include hasked hread hhelp

theorem run_of_named (hname : r.words = name :: rest) : run host words =
    Ending.finish (runNamed host (Settings.ofOptions host.env r.options) name rest) := by
  rw [run, hasked, if_neg Bool.false_ne_true, start, readTool_of_options none hread hhelp,
    Step.ok_bind]
  simp only [hname]

theorem run_of_unnamed (hname : r.words = []) : run host words =
    Ending.finish (runWithout host (Settings.ofOptions host.env r.options)) := by
  rw [run, hasked, if_neg Bool.false_ne_true, start, readTool_of_options none hread hhelp,
    Step.ok_bind]
  simp only [hname]

variable (hname : r.words = name :: rest)
  (hrejects : Rejects host (Settings.ofOptions host.env r.options).config e)
include hname hrejects

theorem run_eq_of_rejects : run host words = ⟨[.err ("Error: " ++ e.message)], .ok 1⟩ := by
  rw [run_of_named hasked hread hhelp hname, runNamed, lookUp, load_of_rejects hrejects]
  rfl

/-- **A command line that names a command** of a document that is not accepted, whether or not there
would be such a command, does nothing but report the error. -/
theorem run_of_rejects :
    (run host words).result = .ok 1 ∧
      Effect.stderr (run host words).effects = Effect.line ("Error: " ++ e.message) ∧
      Effect.stdout (run host words).effects = "" ∧
      Effect.requests (run host words).effects = [] ∧
      Effect.commands (run host words).effects = [] ∧
      Effect.applyAll host.files (run host words).effects = host.files := by
  rw [run_eq_of_rejects hasked hread hhelp hname hrejects]
  refine ⟨rfl, ?_, rfl, rfl, rfl, rfl⟩
  show String.join [Effect.line _] = _
  simp [String.join]

end Read

/-- A document with a command that names an argument twice behind one that is right, and a saved
session. -/
def twiceHost : Host where
  env := .empty
  files := (FileTree.write ⟨.empty, [], ["home"]⟩ ["yamlcmd.yaml"]
    "commands:\n  item <id>:\n    response: item $id\n  twice <a> <a>:\n    response: $a\n").write
      ["home", ".yamlcmd_session.json"] "\x7b\x7d"
  exchange := .timedOut
  shell := fun _ _ => .error .nulInCommand

/-- The right command does not run either, and the session is not cleared. -/
theorem run_of_rejects_twice :
    let s := run twiceHost ["--clear-session", "item", "7"]
    Rejects twiceHost none (.duplicateArgument "twice <a> <a>" "a") ∧
      s.result = .ok 1 ∧ Effect.stdout s.effects = "" ∧ Effect.requests s.effects = [] ∧
      Effect.commands s.effects = [] ∧
      Effect.applyAll twiceHost.files s.effects = twiceHost.files ∧
      Effect.stderr s.effects = "Error: Command 'twice <a> <a>': duplicate argument 'a'\n" := by
  have hresponses : (documentOf? twiceHost none).bind responses? =
      some [("item <id>", "item $id"), ("twice <a> <a>", "$a")] := by decide +kernel
  obtain ⟨config, hconfig, hresponses⟩ := Option.bind_eq_some_iff.1 hresponses
  obtain ⟨-, hcommands⟩ := of_responses? hresponses
  have hright : (CommandTree.entry (.str "item <id>") (responding "item $id")).toOption.isSome := by
    decide +kernel
  have hbefore : ∀ c ∈ [(Leaf.str "item <id>", responding "item $id")], CommandTree.IsValid c := by
    intro c hc
    obtain rfl := List.mem_singleton.1 hc
    obtain ⟨e, he⟩ := Option.isSome_iff_exists.1 hright
    exact ⟨e, eq_ok_of_toOption he⟩
  have hwrong : CommandTree.entry (.str "twice <a> <a>") (responding "$a") =
      .error (.config (.duplicateArgument "twice <a> <a>" "a")) := by
    rfl
  have hrejects : Rejects twiceHost none (.duplicateArgument "twice <a> <a>" "a") :=
    rejects_of_entry hconfig hcommands hbefore hwrong
  obtain ⟨hresult, hstderr, hstdout, hrequests, hcommands, hfiles⟩ :=
    @run_of_rejects twiceHost _ ["--clear-session", "item", "7"] ["7"]
      ⟨[(.clearSession, none)], ["item", "7"]⟩ "item" rfl rfl rfl rfl hrejects
  exact ⟨hrejects, hresult, hstdout, hrequests, hcommands, hfiles, hstderr.trans (by decide +kernel)⟩

end CommandBook.CommandLine
