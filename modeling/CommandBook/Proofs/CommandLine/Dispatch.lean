import CommandBook.CommandLine.Dispatch
import CommandBook.Proofs.CommandLine.Arguments
import CommandBook.Proofs.Effect
import Mathlib.Data.List.Nodup

/-!
# Which definition a command line runs

A parent of the document and words without a hyphen in front come to one run of one definition, or
to none at all. A first word that names a subcommand hands the words behind it to that subcommand,
and the parent's own arguments are passed over; otherwise all words are the parent's. The run gets
the declared names, each with its word, and a number of words that does not fit ends with status 2
before anything but lines on standard error.

## Main statements

* `runEntry_of_takes`, `runEntry_of_not_takes` — a command without subcommands
* `start_eq_runNamed` — without options the first word is the command
* `start_parent` — a parent with the words behind it
-/

namespace CommandBook.CommandLine

variable {host : Host} {settings : Settings} {loaded : Loaded} {path : String} {e : CommandEntry}
  {node : CommandNode} {words : List String}

/-! ## A command without subcommands -/

/-- The arguments of an entry with the words for them. -/
def boundTo (e : CommandEntry) (words : List String) : OrderedMap String String :=
  .ofList (e.name.arguments.zip words)

/-- **A fitting number of words** runs the definition. -/
theorem runEntry_of_takes (hapart : Parameter.AreApart (Parameter.ofName e.name))
    (hwords : ∀ w ∈ words, IsBareWord w) (htakes : e.name.Takes words) :
    runEntry host settings loaded path e words =
      invoke host settings loaded e.definition (boundTo e words) := by
  have hread := Place.read_of_takes (Place.parameters_ofEntry path e) hapart.nodup true hwords
    htakes
  have hhand := Place.handOver_of_not_mem (Place.parameters_ofEntry path e ▸ hapart.reserved)
  rw [runEntry, hread, hhand]
  rfl

/-- **Any other number of words** is a flaw. -/
theorem runEntry_of_not_takes (host : Host) (settings : Settings) (loaded : Loaded) (path : String)
    (hapart : Parameter.AreApart (Parameter.ofName e.name))
    (hwords : ∀ w ∈ words, IsBareWord w) (htakes : ¬e.name.Takes words) :
    ∃ flaw, runEntry host settings loaded path e words = (Place.ofEntry path e).flawed flaw := by
  have hread := Place.read_of_bare (Place.parameters_ofEntry path e) true hwords
  by_cases hfew : words.length < e.name.mandatory.length
  · obtain ⟨label, hbind⟩ := Slots.bind_fill_ofName_of_lt hapart.nodup hfew
    refine ⟨.argumentMissing label, ?_⟩
    rw [runEntry, hread, hbind]
    rfl
  -- a word is left over behind the last argument
  · have hbind := Slots.bind_fill_ofName hapart.nodup (Nat.le_of_not_lt hfew)
    have hlength : (Parameter.ofName e.name).length < words.length := by
      simp only [CommandName.Takes, Parameter.ofName, List.length_append, List.length_map] at htakes ⊢
      omega
    have hrest : words.drop (Parameter.ofName e.name).length ≠ [] := by
      simpa using hlength
    refine ⟨.extraWords (words.drop (Parameter.ofName e.name).length), ?_⟩
    obtain ⟨w, rest, hdrop⟩ := List.exists_cons_of_ne_nil hrest
    rw [runEntry, hread, hbind, hdrop]
    rfl

/-! ## A parent with subcommands -/

/-- A parent with a subcommand is no command without subcommands. -/
theorem leaf?_of_get? {name : String} (h : node.subcommands.get? name = some e) :
    node.leaf? = none := by
  unfold CommandNode.leaf?
  split
  · next hempty =>
    rw [OrderedMap.get?, List.isEmpty_iff.1 hempty] at h
    exact absurd h (by simp)
  · rfl

theorem eq_of_leaf? {own : CommandEntry} (h : node.leaf? = some own) (hown : node.own = some e) :
    own = e := by
  unfold CommandNode.leaf? at h
  split at h
  · exact Option.some.inj (h.symm.trans hown)
  · exact absurd h (by simp)

/-- A subcommand gets the words behind its name. -/
theorem runParent_of_get? (host : Host) (settings : Settings) (loaded : Loaded)
    (path : String) {name : String} {rest : List String}
    (hsub : node.subcommands.get? name = some e) (hname : IsBareWord name)
    (hrest : ∀ w ∈ rest, IsBareWord w) :
    runParent host settings loaded path node (name :: rest) =
      runEntry host settings loaded (String.intercalate " " [path, name]) e rest := by
  have hbare : ∀ w ∈ name :: rest, IsBareWord w := List.forall_mem_cons.2 ⟨hname, hrest⟩
  have hpassed : (name :: rest).head?.any (fun w => (node.subcommands.get? w).isSome) = true := by
    simp [hsub]
  -- no argument of the parent takes a word
  have hread : (Place.ofNode path node).withoutArguments.read false (name :: rest) =
      .ok { values := .empty, rest := name :: rest } :=
    Place.read_of_bare rfl false hbare
  have hhand : (Place.ofNode path node).withoutArguments.handOver = .ok () :=
    Place.handOver_of_not_mem List.not_mem_nil
  rw [runParent, hpassed]
  simp only [List.isEmpty_cons, Bool.false_and, if_true, Bool.false_eq_true, if_false, hread,
    Step.ok_bind, hsub, hhand]
  rfl

theorem runParent_of_subcommand (host : Host) (settings : Settings) (loaded : Loaded)
    (path : String) {name : String} {rest : List String}
    (hsub : node.subcommands.get? name = some e) (hname : IsBareWord name)
    (hrest : ∀ w ∈ rest, IsBareWord w) : ∃ path',
      runParent host settings loaded path node (name :: rest) =
        runEntry host settings loaded path' e rest :=
  ⟨_, runParent_of_get? host settings loaded path hsub hname hrest⟩

/-- Words that name no subcommand are the parent's own. -/
theorem runParent_of_own (hown : node.own = some e)
    (hapart : Parameter.AreApart (Parameter.ofName e.name))
    (hwords : ∀ w ∈ words, IsBareWord w)
    (hsub : ∀ w ∈ words.head?, node.subcommands.get? w = none) (htakes : e.name.Takes words) :
    runParent host settings loaded path node words =
      invoke host settings loaded e.definition (boundTo e words) := by
  have hpassed : words.head?.any (fun w => (node.subcommands.get? w).isSome) = false := by
    cases hhead : words.head? with
    | none => rfl
    | some w => simp [hsub w hhead]
  have hparameters := Place.parameters_ofNode hown path
  have hread := Place.read_of_takes hparameters hapart.nodup false hwords htakes
  have hhand := Place.handOver_of_not_mem (hparameters ▸ hapart.reserved)
  rw [runParent, hpassed]
  simp only [hown, Option.isNone_some, Bool.and_false, Bool.false_eq_true, if_false, hread,
    Step.ok_bind, hhand, boundTo]

/-! ## The whole command line -/

section Options
variable {r : ReadWords ToolOption} (loaded : Option Loaded)
  (hread : readWords toolOptions false words = .ok r)
include hread

/-- The options of the program are its settings, unless one of them asks for the manual. -/
theorem readTool_of_options (hhelp : r.options.any (·.1 == .help) = false) :
    readTool host loaded words = .ok (Settings.ofOptions host.env r.options, r.words) := by
  rw [readTool, hread, Step.ofExcept_ok_bind, hhelp]
  rfl

/-- The option for the manual comes before all others. -/
theorem readTool_of_help (hhelp : r.options.any (·.1 == .help)) :
    readTool host loaded words =
      showToolManual host loaded (Settings.documentOfHelp r.options) 0 := by
  rw [readTool, hread, Step.ofExcept_ok_bind, hhelp]
  simp only [if_true, showToolManual]
  -- the manual is the end in any case
  generalize shownCommands host loaded (Settings.documentOfHelp r.options) = shown
  obtain ⟨effects, reason | commands⟩ := shown
  · rfl
  · rfl

end Options

/-- **Without options the first word is the command.** -/
theorem start_eq_runNamed {parent : String} (hwords : ∀ w ∈ parent :: words, IsBareWord w) :
    start host (parent :: words) =
      runNamed host (Settings.ofOptions host.env []) parent words := by
  have hread := readWords_plain toolOptions false fun w hw => (hwords w hw).isOptionWord
  have htool : readTool host none (parent :: words) =
      .ok (Settings.ofOptions host.env [], parent :: words) := by
    rw [readTool, hread]
    rfl
  rw [start, htool, Step.ok_bind]

/-- Loading a document that is accepted does nothing but warn of entries that came too late. -/
theorem load_eq_of_ok {named : Option String} (h : (load host named).result = .ok loaded) :
    load host named = (Step.emitAll (loaded.tree.warnings.map .err)).bind fun _ => .ok loaded := by
  obtain ⟨place, hplace, h⟩ := Step.result_bind_eq_ok_iff.1 h
  obtain ⟨config, hconfig, h⟩ := Step.result_bind_eq_ok_iff.1 h
  obtain ⟨tree, htree, h⟩ := Step.result_bind_eq_ok_iff.1 h
  cases h
  rw [load, Step.ofExcept_bind hplace]
  show (Step.ofExcept _ >>= _) = _
  rw [Step.ofExcept_bind hconfig, Step.ofExcept_bind htree]
  rfl

/-- The same as effects with a value. -/
theorem load_eq_of_accepted {named : Option String} (h : (load host named).result = .ok loaded) :
    load host named = ⟨loaded.tree.warnings.map .err, .ok loaded⟩ := by
  rw [load_eq_of_ok h]
  exact congrArg (Step.mk · (.ok loaded)) (List.append_nil _)

/-- A command of the document runs after the warnings. -/
theorem runNamed_of_get? {parent : String} (hload : (load host settings.config).result = .ok loaded)
    (hnode : loaded.tree.get? parent = some node) :
    runNamed host settings parent words =
      (Step.emitAll (loaded.tree.warnings.map .err)).bind fun _ =>
        match node.leaf? with
        | some e => runEntry host settings loaded (toolName ++ " " ++ parent) e words
        | none => runParent host settings loaded (toolName ++ " " ++ parent) node words := by
  rw [runNamed, lookUp, load_eq_of_ok hload]
  show ((Step.emitAll _).bind _).bind _ = _
  rw [Step.emitAll_bind_ok_bind]
  generalize loaded.tree.get? parent = found at hnode
  subst hnode
  rfl

/-- A command line that does nothing but warn of entries that came too late and run one definition,
once: the names of its arguments have the words in order. -/
def RunsOnce (host : Host) (loaded : Loaded) (e : CommandEntry) (given line : List String) : Prop :=
  ∃ values : OrderedMap String String, values.entries = e.name.arguments.zip given ∧
    start host line = (Step.emitAll (loaded.tree.warnings.map .err)).bind fun _ =>
      invoke host (Settings.ofOptions host.env []) loaded e.definition values

/-- A command line that ends with status 2 and does nothing but say so on standard error. -/
def IsRefused (host : Host) (line : List String) : Prop :=
  (Ending.finish (start host line)).result = .ok 2 ∧
    ∀ effect ∈ (Ending.finish (start host line)).effects, ∃ text, effect = .err text

theorem entries_boundTo (hapart : Parameter.AreApart (Parameter.ofName e.name)) :
    (boundTo e words).entries = e.name.arguments.zip words := by
  -- the folded name depends on the name only, so the names are distinct as well
  have hfolded : (Parameter.ofName e.name).map Parameter.folded =
      e.name.arguments.map fun name => Parameter.folded ⟨name, true⟩ := by
    rw [← Slots.map_variableName_ofName, List.map_map]
    rfl
  have hnames : e.name.arguments.Nodup := List.Nodup.of_map _ (hfolded ▸ hapart.nodup)
  exact OrderedMap.entries_ofList (nodup_map_fst_zip words hnames)

/-- A flaw after warnings is refused. -/
theorem isRefused_of_flawed {line : List String} {place : Place} {flaw : UsageFlaw}
    (h : start host line = (Step.emitAll (loaded.tree.warnings.map .err)).bind fun _ =>
      place.flawed flaw) : IsRefused host line := by
  have hresult : (start host line).result = .error (.misuse place.manual flaw) := by
    rw [h]
    rfl
  have heffects : (start host line).effects = loaded.tree.warnings.map .err := by
    rw [h]
    exact List.append_nil _
  refine ⟨Ending.result_finish_error hresult, fun effect heffect => ?_⟩
  rw [Ending.effects_finish_error hresult, heffects, Ending.effects, ← List.map_append] at heffect
  obtain ⟨text, -, rfl⟩ := List.mem_map.1 heffect
  exact ⟨text, rfl⟩

/-- **A parent with the words behind it.** If the first word names a subcommand, that subcommand
takes the other words, or refuses them if their number does not fit. If it names none, or there is
no word, a parent that is a command itself takes all words if their number fits. -/
theorem start_parent {parent : String}
    (hload : (load host (Settings.ofOptions host.env []).config).result = .ok loaded)
    (hnode : loaded.tree.get? parent = some node)
    (hline : ∀ w ∈ parent :: words, IsBareWord w) :
    (∀ name rest e, words = name :: rest → node.subcommands.get? name = some e →
      Parameter.AreApart (Parameter.ofName e.name) →
        (e.name.Takes rest → RunsOnce host loaded e rest (parent :: words)) ∧
        (¬e.name.Takes rest → IsRefused host (parent :: words))) ∧
    ∀ e, node.own = some e → (∀ w ∈ words.head?, node.subcommands.get? w = none) →
      Parameter.AreApart (Parameter.ofName e.name) → e.name.Takes words →
        RunsOnce host loaded e words (parent :: words) := by
  have hwords := (List.forall_mem_cons.1 hline).2
  have hstart : start host (parent :: words) = _ := start_eq_runNamed hline
  rw [runNamed_of_get? hload hnode] at hstart
  constructor
  · rintro name rest e rfl hsub hapart
    obtain ⟨hname, hrest⟩ := List.forall_mem_cons.1 hwords
    have hleaf : node.leaf? = none := leaf?_of_get? hsub
    obtain ⟨path, hparent⟩ := runParent_of_subcommand host (Settings.ofOptions host.env []) loaded
      (toolName ++ " " ++ parent) hsub hname hrest
    simp only [hleaf, hparent] at hstart
    constructor
    · intro htakes
      rw [runEntry_of_takes hapart hrest htakes] at hstart
      exact ⟨boundTo e rest, entries_boundTo hapart, hstart⟩
    · intro htakes
      obtain ⟨flaw, hflaw⟩ := runEntry_of_not_takes host (Settings.ofOptions host.env []) loaded
        path hapart hrest htakes
      rw [hflaw] at hstart
      exact isRefused_of_flawed hstart
  · intro e hown hsub hapart htakes
    refine ⟨boundTo e words, entries_boundTo hapart, ?_⟩
    cases hleaf : node.leaf? with
    | some own =>
      obtain rfl : own = e := eq_of_leaf? hleaf hown
      simp only [hleaf, runEntry_of_takes hapart hwords htakes] at hstart
      exact hstart
    | none =>
      simp only [hleaf, runParent_of_own hown hapart hwords hsub htakes] at hstart
      exact hstart

/-- The names of the entries of a parent. -/
def Loaded.names? (loaded : Loaded) (parent : String) :
    Option (Option CommandName × List (String × CommandName)) :=
  (loaded.tree.get? parent).map fun node =>
    (node.own.map (·.name), node.subcommands.entries.map fun s => (s.1, s.2.name))

/-- A document with a parent that takes one word, and a subcommand of it that takes none. -/
def itemHost : Host where
  env := .empty
  files := FileTree.write ⟨.empty, [], []⟩ ["yamlcmd.yaml"]
    "commands:\n  item <id>:\n  item list:\n"
  exchange := .timedOut
  shell := fun _ _ => .error .nulInCommand

theorem start_parent_item : ∃ loaded node own sub,
    (load itemHost (Settings.ofOptions itemHost.env []).config).result = .ok loaded ∧
      loaded.tree.get? "item" = some node ∧ node.own = some own ∧
      node.subcommands.get? "list" = some sub ∧
      RunsOnce itemHost loaded own ["7"] ["item", "7"] ∧
      RunsOnce itemHost loaded sub [] ["item", "list"] ∧
      IsRefused itemHost ["item", "list", "7"] := by
  have hnames : (load itemHost (Settings.ofOptions itemHost.env []).config).result.toOption.bind
      (·.names? "item") = some (some ⟨"item <id>", "item", none, ["id"], []⟩,
        [("list", ⟨"item list", "item", some "list", [], []⟩)]) := by
    decide +kernel
  obtain ⟨loaded, hloaded, hnames⟩ := Option.bind_eq_some_iff.1 hnames
  obtain ⟨node, hnode, hnames⟩ := Option.map_eq_some_iff.1 hnames
  obtain ⟨hownNames, hsubs⟩ := Prod.mk.inj hnames
  obtain ⟨own, hown, hownName⟩ := Option.map_eq_some_iff.1 hownNames
  obtain ⟨⟨key, sub⟩, hentries, hsub⟩ := List.map_eq_singleton_iff.1 hsubs
  obtain ⟨rfl, hsubName⟩ := Prod.mk.inj hsub
  have hlist : node.subcommands.get? "list" = some sub := by
    rw [OrderedMap.get?, hentries]
    rfl
  have hseven : node.subcommands.get? "7" = none := by
    rw [OrderedMap.get?, hentries]
    rfl
  have hownApart : Parameter.AreApart (Parameter.ofName own.name) := by
    rw [hownName]
    exact ⟨by decide +kernel, by decide +kernel⟩
  have hsubApart : Parameter.AreApart (Parameter.ofName sub.name) := by
    rw [hsubName]
    exact ⟨by decide +kernel, by decide +kernel⟩
  have hload : (load itemHost (Settings.ofOptions itemHost.env []).config).result = .ok loaded := by
    revert hloaded
    cases (load itemHost (Settings.ofOptions itemHost.env []).config).result with
    | error e => exact fun h => absurd h (by simp [Except.toOption])
    | ok l => exact fun h => congrArg Except.ok (Option.some.inj h)
  refine ⟨loaded, node, own, sub, hload, hnode, hown, hlist, ?_, ?_, ?_⟩
  · refine (start_parent hload hnode (by decide +kernel)).2 own hown ?_ hownApart ?_
    · rintro w ⟨⟩
      exact hseven
    · rw [hownName]
      decide
  · refine ((start_parent hload hnode (by decide +kernel)).1 "list" [] sub rfl hlist
      hsubApart).1 ?_
    rw [hsubName]
    decide
  · refine ((start_parent hload hnode (by decide +kernel)).1 "list" ["7"] sub rfl hlist
      hsubApart).2 ?_
    rw [hsubName]
    decide

end CommandBook.CommandLine
