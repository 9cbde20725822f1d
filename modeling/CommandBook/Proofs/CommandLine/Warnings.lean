import CommandBook.Proofs.CommandLine.Help
import CommandBook.Proofs.Invocation.Unwarned

/-!
# Warnings of entries that came too late

A command line that draws on the commands of a document warns of every entry of the document that
came too late, once, before anything else. The tree of commands is looked up for many purposes, once
for each command that a manual shows, and loaded for the first of them. Whatever the command line
does then, manuals, flaws and the run of a command, it does without a warning.

## Main definitions

* `CommandLine.Consults` — the command lines that draw on a document
* `CommandLine.WarnsOnce` — the warnings that such a command line has

## Main statements

* `CommandLine.run_warns` — the warnings of a command line
-/

namespace CommandBook

open Effect (WarnsNot Unwarned unwarned_of_forall warnsNot_append warnsNot_err)

/-! ## Texts of manuals -/

namespace Text

/-- The first line of a text begins with the indent for it. -/
theorem linesFrom_eq_or (width : Nat) (first others : List Char) : ∀ (steps : Nat)
    (cs : List (List Char)), linesFrom width first others steps false cs = [] ∨
      ∃ text more, linesFrom width first others steps false cs = (first ++ text) :: more
  | 0, _ => Or.inl rfl
  | _ + 1, [] => Or.inl rfl
  | steps + 1, c :: rest => by
    rw [linesFrom]
    simp only [Bool.false_and, Bool.false_eq_true, if_false]
    split
    · exact linesFrom_eq_or width first others steps _
    · exact Or.inr ⟨_, _, rfl⟩

theorem intercalate_cons_eq {α : Type} (sep first : List α) (others : List (List α)) :
    List.intercalate sep (first :: others) =
      first ++ if others.isEmpty then [] else sep ++ List.intercalate sep others := by
  cases others <;> simp [List.intercalate]

/-- A filled text begins with the indent of its first line. -/
theorem fill_eq_or (width : Nat) (first others cs : List Char) :
    fill width first others cs = [] ∨ ∃ rest, fill width first others cs = first ++ rest := by
  unfold fill joinLines
  rcases linesFrom_eq_or width first others (2 * cs.length + 2) (chunks cs) with h | ⟨text, more, h⟩
  · rw [h]
    exact Or.inl rfl
  · rw [h, intercalate_cons_eq, List.append_assoc]
    exact Or.inr ⟨_, rfl⟩

end Text

namespace Manual

variable (m : Manual)

theorem head?_usage_ne : m.usage.toList.head? ≠ some 'W' := by
  have hstart : ("Usage: " ++ m.path ++ " ").toList =
      'U' :: ("sage: ".toList ++ m.path.toList ++ " ".toList) := by
    simp only [String.toList_append]
    rfl
  unfold usage
  simp only
  split
  · rw [String.toList_ofList, hstart]
    rcases Text.fill_eq_or columns ('U' :: ("sage: ".toList ++ m.path.toList ++ " ".toList))
      (spaces (Text.width ("Usage: " ++ m.path ++ " ")))
      (Text.expandTabs 0 (String.intercalate " " m.pieces).toList) with h | ⟨rest, h⟩
    · rw [h]
      nofun
    · rw [h]
      simp
  · rw [String.toList_append, String.toList_append, hstart]
    simp

theorem warnsNot_text : (Effect.err m.text).WarnsNot := by
  refine warnsNot_err ?_
  have hprefix : m.text.toList <+: List.intercalate ['\n', '\n'] m.parts := by
    rw [text, String.toList_ofList]
    exact Text.dropTrailing_prefix _ _
  obtain ⟨rest, hrest⟩ := hprefix
  intro hhead
  have hwhole : (List.intercalate ['\n', '\n'] m.parts).head? = some 'W' := by
    rw [← hrest, List.head?_append, hhead]
    rfl
  obtain ⟨others, hparts⟩ : ∃ others, m.parts = m.usage.toList :: others := ⟨_, rfl⟩
  rw [hparts, Text.intercalate_cons_eq, List.head?_append] at hwhole
  have husage := m.head?_usage_ne
  cases hfirst : m.usage.toList.head? with
  | none =>
    rw [hfirst] at hwhole
    split at hwhole
    · cases hwhole
    · cases hwhole
  | some c =>
    rw [hfirst] at hwhole husage
    exact husage hwhole

theorem warnsNot_complaint (flaw : UsageFlaw) :
    ∀ e ∈ (m.complaint flaw).map Effect.err, e.WarnsNot := by
  intro e he
  obtain ⟨text, htext, rfl⟩ := List.mem_map.1 he
  unfold complaint at htext
  simp only at htext
  rcases List.mem_append.1 htext with htext | htext
  · split at htext
    · rw [List.mem_singleton.1 htext]
      refine warnsNot_err ?_
      have husage := m.head?_usage_ne
      rw [String.toList_append, String.toList_append, List.head?_append, List.head?_append]
      cases hfirst : m.usage.toList.head? with
      | none => simp
      | some c =>
        rw [hfirst] at husage
        exact husage
    · cases htext
  · rw [List.mem_singleton.1 htext]
    exact warnsNot_append rfl (by decide) flaw.message

end Manual

/-! ## Endings -/

namespace Ending

theorem warnsNot_effects (ending : Ending) : ∀ e ∈ ending.effects, e.WarnsNot := by
  cases ending with
  | done | fault => exact List.forall_mem_nil _
  | failure message =>
    exact List.forall_mem_singleton.2 (warnsNot_append rfl (by decide) message)
  | misuse manual flaw => exact manual.warnsNot_complaint flaw
  | guidance manual => exact List.forall_mem_singleton.2 manual.warnsNot_text

theorem unwarned_finish {s : Step Ending Nat} (h : Unwarned s.effects) :
    Unwarned (finish s).effects := by
  unfold finish
  split
  · exact h
  · next e _ => exact h.append (unwarned_of_forall e.warnsNot_effects)

/-- What comes first stays in front to the end. -/
theorem effects_finish_emitAll (es : List Effect) (s : Step Ending Nat) :
    (finish ((Step.emitAll es).bind fun _ => s)).effects = es ++ (finish s).effects := by
  obtain ⟨effects, ending | status⟩ := s
  · exact List.append_assoc es effects ending.effects
  · rfl

end Ending

/-! ## Commands and parents -/

namespace Place

variable {P : Effect → Prop} (hout : ∀ text, P (.out text))
include hout

theorem emits_showManual {α : Type} (m : Manual) (status : Nat) :
    (showManual m status : Step Ending α).Emits P :=
  (Step.emits_emit (hout _)).bind fun _ _ => Step.emits_ofExcept _

/-- Reading the words of a place may show its manual, and does nothing else. -/
theorem emits_read (p : Place) (mixed : Bool) (words : List String) :
    (p.read mixed words).Emits P := by
  unfold read
  refine (Step.emits_ofExcept _).bind fun r _ => ?_
  have hbound : ((p.check (Slots.fill p.parameters r.words).bind).bind fun values =>
      (Step.ok { values, rest := r.words.drop p.parameters.length } : Step Ending PlaceWords)).Emits
        P := (Step.emits_ofExcept _).bind fun _ _ => Step.emits_ok _
  simp only
  split
  · exact (emits_showManual hout _ _).bind fun _ _ => hbound
  · exact hbound

end Place

namespace CommandLine

variable {host : Host} {settings : Settings} {loaded : Loaded} {path : String} {e : CommandEntry}
  {node : CommandNode} {words : List String}

theorem unwarned_read (p : Place) (mixed : Bool) (words : List String) :
    Unwarned (p.read mixed words).effects :=
  unwarned_of_forall (p.emits_read (fun _ => trivial) mixed words)

theorem unwarned_handOver (p : Place) : Unwarned p.handOver.effects := by
  unfold Place.handOver
  split
  · exact .nil
  · exact .nil

theorem unwarned_invoke (host : Host) (settings : Settings) (loaded : Loaded)
    (definition : CommandDefinition) (values : OrderedMap String String) :
    Unwarned (invoke host settings loaded definition values).effects :=
  Invocation.unwarned_run definition values loaded.config.run _ settings.verbose

theorem unwarned_runEntry (host : Host) (settings : Settings) (loaded : Loaded) (path : String)
    (e : CommandEntry) (words : List String) :
    Unwarned (runEntry host settings loaded path e words).effects := by
  unfold runEntry
  refine Step.unwarned_bind (unwarned_read _ _ _) fun r _ => ?_
  have hrun : Unwarned ((Place.ofEntry path e).handOver.bind fun _ =>
      invoke host settings loaded e.definition r.values).effects :=
    Step.unwarned_bind (unwarned_handOver _) fun _ _ => unwarned_invoke _ _ _ _ _
  simp only
  split
  · exact Step.unwarned_bind .nil fun _ _ => hrun
  · exact hrun

theorem unwarned_runParent (host : Host) (settings : Settings) (loaded : Loaded) (path : String)
    (node : CommandNode) (words : List String) :
    Unwarned (runParent host settings loaded path node words).effects := by
  unfold runParent
  simp only
  split
  · exact Step.unwarned_bind .nil fun _ h => nomatch h
  refine Step.unwarned_bind (unwarned_read _ _ _) fun r _ => ?_
  split
  · exact Step.unwarned_bind (unwarned_handOver _) fun _ _ => unwarned_invoke _ _ _ _ _
  · exact .nil
  · split
    · exact Step.unwarned_bind (unwarned_handOver _) fun _ _ => unwarned_runEntry _ _ _ _ _ _
    · split
      · exact Step.unwarned_bind (unwarned_read _ _ _) fun _ _ => .nil
      · exact .nil

variable {named : Option String}

/-! ## Command lines -/

/-- The command lines that draw on the commands of a document, with the name that the document has:
they ask for the manual, name a command, ask for the list, or say nothing. -/
inductive Consults (host : Host) (r : ReadWords ToolOption) : Option String → Prop
  | manual (hhelp : r.options.any (·.1 == .help)) :
      Consults host r (Settings.documentOfHelp r.options)
  | command {name : String} {rest : List String}
      (hhelp : r.options.any (·.1 == .help) = false) (hwords : r.words = name :: rest) :
      Consults host r (Settings.ofOptions host.env r.options).config
  | list (hhelp : r.options.any (·.1 == .help) = false)
      (hlist : AsksForList (Settings.ofOptions host.env r.options) r.words) :
      Consults host r (Settings.ofOptions host.env r.options).config
  | bare (hhelp : r.options.any (·.1 == .help) = false) (hwords : r.words = [])
      (hclear : (Settings.ofOptions host.env r.options).clearSession = false)
      (hshow : (Settings.ofOptions host.env r.options).showSession = false)
      (hlist : (Settings.ofOptions host.env r.options).list = false) :
      Consults host r (Settings.ofOptions host.env r.options).config

/-- The warnings of a tree come first, and none comes behind them. -/
def WarnsFirst (tree : CommandTree) (es : List Effect) : Prop :=
  ∃ rest, es = tree.warnings.map .err ++ rest ∧ Unwarned rest

theorem warnsFirst_finish {s : Step Ending Nat} {tree : CommandTree} (h : Unwarned s.effects) :
    WarnsFirst tree
      (Ending.finish ((Step.emitAll (tree.warnings.map .err)).bind fun _ => s)).effects :=
  ⟨_, Ending.effects_finish_emitAll _ s, Ending.unwarned_finish h⟩

/-- What begins with loading a document that is accepted begins with its warnings. -/
theorem warnsFirst_load_bind {f : Loaded → Step Ending Nat}
    (hload : (load host named).result = .ok loaded) (hf : Unwarned (f loaded).effects) :
    WarnsFirst loaded.tree (Ending.finish ((load host named).bind f)).effects := by
  rw [load_eq_of_ok hload, Step.emitAll_bind_ok_bind]
  exact warnsFirst_finish hf

theorem unwarned_showManual {α : Type} (m : Manual) (status : Nat) :
    Unwarned (Place.showManual m status : Step Ending α).effects :=
  unwarned_of_forall (Place.emits_showManual (fun _ => trivial) m status)

theorem warnsFirst_showToolManual (hload : (load host named).result = .ok loaded) (status : Nat) :
    WarnsFirst loaded.tree (Ending.finish (showToolManual host none named status)).effects := by
  obtain ⟨place, hplace⟩ := findConfig_of_load hload
  have hshown : (showToolManual host none named status : Step Ending Nat) =
      ((load host named).bind fun loaded => .ok loaded.commands).bind fun commands =>
        Place.showManual (toolManual commands) status := by
    rw [showToolManual, shownCommands_of_find hplace]
    rfl
  rw [hshown, load_eq_of_ok hload, Step.emitAll_bind_ok_bind, Step.emitAll_bind_ok_bind]
  exact warnsFirst_finish (unwarned_showManual _ _)

/-- A tree that is kept gives no warnings when it is looked up again. -/
theorem unwarned_readTool (host : Host) (loaded : Loaded) (words : List String) :
    Unwarned (readTool host (some loaded) words).effects := by
  unfold readTool
  refine Step.unwarned_bind .nil fun r _ => ?_
  split
  · have hshown : Unwarned (showToolManual host (some loaded)
        (Settings.documentOfHelp r.options) 0 : Step Ending Unit).effects := by
      rw [showToolManual, shownCommands_kept]
      exact unwarned_showManual (toolManual loaded.commands) 0
    exact Step.unwarned_bind hshown fun _ _ => .nil
  · exact .nil

theorem warnsFirst_runNamed (hload : (load host settings.config).result = .ok loaded)
    (name : String) (words : List String) :
    WarnsFirst loaded.tree (Ending.finish (runNamed host settings name words)).effects := by
  refine warnsFirst_load_bind hload ?_
  simp only
  split
  · split
    · exact unwarned_runEntry _ _ _ _ _ _
    · exact unwarned_runParent _ _ _ _ _ _
  · split
    · exact Step.unwarned_bind (unwarned_readTool _ _ _) fun _ _ => .nil
    · exact .nil

theorem warnsFirst_list (hload : (load host settings.config).result = .ok loaded) :
    WarnsFirst loaded.tree (Ending.finish (list host settings)).effects := by
  refine warnsFirst_load_bind hload (Step.unwarned_bind (unwarned_of_forall ?_) fun _ _ => .nil)
  intro e he
  obtain ⟨text, -, rfl⟩ := List.mem_map.1 he
  trivial

variable {r : ReadWords ToolOption}

/-- **The warnings of a command line** that draws on the commands of a document. -/
theorem warnsFirst_run (hasked : (host.env.get? Completion.variableName).any (· != "") = false)
    (hread : readWords toolOptions false words = .ok r) (hconsults : Consults host r named)
    (hload : (load host named).result = .ok loaded) :
    WarnsFirst loaded.tree (run host words).effects := by
  cases hconsults with
  | manual hhelp =>
    rw [run_of_help hasked hread hhelp]
    exact warnsFirst_showToolManual hload 0
  | command hhelp hwords =>
    rw [run_of_named hasked hread hhelp hwords]
    exact warnsFirst_runNamed hload _ _
  | list hhelp hlist =>
    rw [run_of_unnamed hasked hread hhelp hlist.1, runWithout_of_asksForList host hlist]
    exact warnsFirst_list hload
  | bare hhelp hwords hclear hshow hlist =>
    rw [run_of_unnamed hasked hread hhelp hwords]
    simp only [runWithout, hclear, hshow, hlist, Bool.false_eq_true, if_false]
    exact warnsFirst_showToolManual hload 1

/-- The warning of an entry that came too late. -/
def lateWarning (name parent : String) : String :=
  s!"WARNING: '{name}' duplicates an earlier definition under '{parent}' and is ignored."

/-- The warnings of all entries of a document that came too late, parent by parent. -/
def lateWarnings (tree : CommandTree) : List Effect :=
  tree.entries.flatMap fun n => n.2.shadowed.map fun name => .err (lateWarning name n.1)

/-- A command line warns of the entries of a document that came too late. -/
structure WarnsOnce (host : Host) (named : Option String) (loaded : Loaded) (words : List String) :
    Prop where
  /-- Each of them has one warning, and there is no other one. -/
  reported : ∃ rest, (run host words).effects = lateWarnings loaded.tree ++ rest ∧ Unwarned rest
  /-- The parents stand in the order of the document, and so do the late entries of each. -/
  ordered : ∃ es, CommandTree.entriesOf loaded.config.commands = .ok es ∧
    loaded.tree.keys = (es.map (·.name.parent)).eraseDups ∧
    ∀ n ∈ loaded.tree.entries,
      n.2.shadowed = (lateEntries (CommandTree.ofParent n.1 es)).map (·.name.text)
  /-- Looking up many names warns as looking up one. -/
  kept : ∀ name names, lookUpAll host named none (name :: names) =
    ⟨lateWarnings loaded.tree, .ok ((name :: names).map loaded.tree.get?)⟩
  /-- A manual looks up all its commands, and warns as one lookup does. -/
  shown : shownCommands host none named = lookUpCommands host named none ∧
    lookUpCommands host named none = ⟨lateWarnings loaded.tree, .ok loaded.commands⟩

theorem build_of_load (h : (load host named).result = .ok loaded) :
    CommandTree.build loaded.config.commands = .ok loaded.tree := by
  obtain ⟨place, -, h⟩ := Step.result_bind_eq_ok_iff.1 h
  obtain ⟨config, -, h⟩ := Step.result_bind_eq_ok_iff.1 h
  obtain ⟨tree, htree, h⟩ := Step.result_bind_eq_ok_iff.1 h
  cases h
  exact mapError_eq_ok_iff.1 htree

theorem warnings_of_foldl_add (es : List CommandEntry) :
    (es.foldl CommandTree.add .empty).warnings =
      (es.foldl CommandTree.add .empty).entries.flatMap fun n =>
        n.2.shadowed.map fun name => lateWarning name n.1 := by
  refine List.flatMap_congr fun n hn => ?_
  obtain ⟨-, hnode⟩ := CommandTree.eq_ofRow_of_get? (OrderedMap.get?_eq_some_of_mem hn)
  rw [hnode, CommandNode.name_ofRow]
  rfl

/-- **Each entry that came too late is warned of once**, by every command line that draws on the
commands of a document, and no other entry is. -/
theorem run_warns (hasked : (host.env.get? Completion.variableName).any (· != "") = false)
    (hread : readWords toolOptions false words = .ok r) (hconsults : Consults host r named)
    (hload : (load host named).result = .ok loaded) : WarnsOnce host named loaded words := by
  obtain ⟨es, hes, htree⟩ := CommandTree.build_eq_ok_iff.1 (build_of_load hload)
  have hwarnings : loaded.tree.warnings.map Effect.err = lateWarnings loaded.tree := by
    rw [htree, warnings_of_foldl_add, List.map_flatMap, lateWarnings]
    simp only [List.map_map]
    rfl
  constructor
  case reported =>
    rw [← hwarnings]
    exact warnsFirst_run hasked hread hconsults hload
  case ordered =>
    refine ⟨es, hes, ?_, fun n hn => ?_⟩
    · rw [htree, CommandTree.keys_foldl_add]
    · rw [htree] at hn
      obtain ⟨-, hnode⟩ := CommandTree.eq_ofRow_of_get? (OrderedMap.get?_eq_some_of_mem hn)
      rw [hnode, CommandNode.shadowed_ofRow]
  case kept =>
    intro name names
    rw [← hwarnings, lookUpAll_cons, load_eq_of_accepted hload]
    exact congrArg (Step.mk · _) (List.append_nil _)
  case shown =>
    obtain ⟨place, hplace⟩ := findConfig_of_load hload
    refine ⟨shownCommands_eq_lookUpCommands hplace, ?_⟩
    rw [← hwarnings, lookUpCommands_eq, lookUp, load_eq_of_accepted hload]
    exact congrArg (Step.mk · _) (List.append_nil _)

/-- A document with an entry that comes too late under each of its parents. -/
def lateHost : Host where
  env := .empty
  files := FileTree.write ⟨.empty, [], []⟩ ["yamlcmd.yaml"]
    "commands: \x7bget, put, put <key>, get <page>\x7d"
  exchange := .timedOut
  shell := fun _ _ => .error .nulInCommand

/-- A command and the manual warn of both. -/
theorem run_warns_put : ∃ loaded, (load lateHost none).result = .ok loaded ∧
    loaded.tree.entries.map (fun n => (n.1, n.2.shadowed)) =
      [("get", ["get <page>"]), ("put", ["put <key>"])] ∧
    WarnsOnce lateHost none loaded ["-v", "put"] ∧
    WarnsOnce lateHost none loaded ["--help"] := by
  have hshadowed : (load lateHost none).result.toOption.map (fun l =>
      l.tree.entries.map fun n => (n.1, n.2.shadowed)) =
        some [("get", ["get <page>"]), ("put", ["put <key>"])] := by decide +kernel
  obtain ⟨loaded, hloaded, hshadowed⟩ := Option.map_eq_some_iff.1 hshadowed
  have hload := eq_ok_of_toOption hloaded
  refine ⟨loaded, hload, hshadowed, ?_, ?_⟩
  · exact @run_warns lateHost loaded ["-v", "put"] none ⟨[(.verbose, none)], ["put"]⟩ rfl rfl
      (.command rfl rfl) hload
  · exact @run_warns lateHost loaded ["--help"] none ⟨[(.help, none)], []⟩ rfl rfl
      (.manual rfl) hload

end CommandLine

end CommandBook
