import CommandBook.Proofs.Command.Tree
import CommandBook.Proofs.CommandLine.Dispatch

/-!
# One more subcommand

A parent without subcommands takes all words for its own arguments. With the first subcommand it is
read in another way: words behind its arguments may name a subcommand. Still, what is not about the
new subcommand goes on as before: the words that were refused are refused, and those that were
accepted give the same run. `seen` is what the two ways of reading have in common, and `ownWords`
says what becomes of words that are a parent's own in either way.

The new subcommand is asked for in two places, as the first word and as the first word behind the
parent's own arguments. Only there it makes a difference.

## Main statements

* `seen_runEntry_of_own`, `seen_runParent_of_own` — the two ways of reading
* `seen_runNamed_of_own`, `seen_runNamed_of_sub` — the words behind a parent
* `finish_start_of_isExtension` — a document and the same with one more subcommand
-/

namespace CommandBook.CommandLine

variable {host : Host} {settings : Settings} {loaded loaded' : Loaded} {path parent : String}
  {e own : CommandEntry} {node : CommandNode} {words : List String}

/-! ## What is seen -/

/-- What can be seen of a command line: its effects but for the lines on standard error, and its
status. -/
def seen (s : Step Ending Nat) : List Effect × Except Fault Nat :=
  (Effect.withoutErr (Ending.finish s).effects, (Ending.finish s).result)

/-- What is seen of a command line that is refused: nothing but the status. -/
def refused : List Effect × Except Fault Nat := ([], .ok 2)

theorem seen_flawed (place : Place) (flaw : UsageFlaw) : seen (place.flawed flaw) = refused := by
  have herrs : ∀ effect ∈ (place.manual.complaint flaw).map Effect.err,
      ∃ text, effect = .err text := by
    intro effect heffect
    obtain ⟨text, -, rfl⟩ := List.mem_map.1 heffect
    exact ⟨text, rfl⟩
  exact congrArg (·, _) (Effect.withoutErr_of_forall herrs)

/-- Warnings are not seen. -/
theorem seen_warned (warnings : List String) (s : Step Ending Nat) :
    seen ((Step.emitAll (warnings.map .err)).bind fun _ => s) = seen s := by
  have herrs : Effect.withoutErr (warnings.map Effect.err) = [] := by
    refine Effect.withoutErr_of_forall fun effect heffect => ?_
    obtain ⟨text, -, rfl⟩ := List.mem_map.1 heffect
    exact ⟨text, rfl⟩
  have hfinish : Ending.finish ((Step.emitAll (warnings.map .err)).bind fun _ => s) =
      ⟨warnings.map .err ++ (Ending.finish s).effects, (Ending.finish s).result⟩ := by
    obtain ⟨effects, result⟩ := s
    cases result with
    | ok n => rfl
    | error ending => exact congrArg (Step.mk · _) (List.append_assoc _ _ _)
  rw [seen, hfinish, Effect.withoutErr_append, herrs, List.nil_append]
  rfl

/-! ## Words that are a parent's own -/

/-- What becomes of words that are a parent's own. The first word behind its arguments may name a
subcommand. -/
def ownWords (host : Host) (settings : Settings) (loaded : Loaded) (path : String)
    (own : CommandEntry) (sub? : String → Option CommandEntry) (words : List String) :
    List Effect × Except Fault Nat :=
  match (Slots.fill (Parameter.ofName own.name) words).bind with
  | .error _ => refused
  | .ok values =>
    match words.drop own.name.arguments.length with
    | [] =>
      seen ((Place.ofEntry path own).handOver.bind fun _ =>
        invoke host settings loaded own.definition values)
    | name :: rest =>
      match sub? name with
      | some e =>
        seen ((Place.ofEntry path own).handOver.bind fun _ =>
          runEntry host settings loaded ((Place.ofEntry path own).pathTo name) e rest)
      | none => refused

/-- Of the subcommands no more counts than which one the first word behind the arguments names. -/
theorem ownWords_congr {sub? sub?' : String → Option CommandEntry}
    (h : ∀ w ∈ (words.drop own.name.arguments.length).head?, sub?' w = sub? w) :
    ownWords host settings loaded path own sub?' words =
      ownWords host settings loaded path own sub? words := by
  unfold ownWords
  cases (Slots.fill (Parameter.ofName own.name) words).bind with
  | error flaw => rfl
  | ok values =>
    cases hdrop : words.drop own.name.arguments.length with
    | nil => rfl
    | cons name rest =>
      have hname : sub?' name = sub? name := h name (by rw [hdrop]; rfl)
      simp only [hname]

theorem length_ofName (n : CommandName) :
    (Parameter.ofName n).length = n.arguments.length := by
  simp [Parameter.ofName, CommandName.arguments]

section Own
variable (hwords : ∀ w ∈ words, IsBareWord w)
include hwords

/-- **A parent without subcommands** takes all words for its own. -/
theorem seen_runEntry_of_own (host : Host) (settings : Settings) (loaded : Loaded)
    (path : String) : seen (runEntry host settings loaded path own words) =
      ownWords host settings loaded path own (fun _ => none) words := by
  have hread := Place.read_of_bare (Place.parameters_ofEntry path own) true hwords
  rw [runEntry, hread, ownWords]
  cases (Slots.fill (Parameter.ofName own.name) words).bind with
  | error flaw => exact seen_flawed _ _
  | ok values =>
    rw [length_ofName]
    cases words.drop own.name.arguments.length with
    | nil => rfl
    | cons name rest => exact seen_flawed _ _

/-- **A parent with subcommands**, where the first word names none of them. -/
theorem seen_runParent_of_own (host : Host) (settings : Settings) (loaded : Loaded)
    (path : String) (hown : node.own = some own)
    (hsub : ∀ w ∈ words.head?, node.subcommands.get? w = none) :
    seen (runParent host settings loaded path node words) =
      ownWords host settings loaded path own node.subcommands.get? words := by
  have hpassed : words.head?.any (fun w => (node.subcommands.get? w).isSome) = false := by
    cases hhead : words.head? with
    | none => rfl
    | some w => simp [hsub w hhead]
  have hparameters := Place.parameters_ofNode hown path
  have hread : ∀ ws, (∀ w ∈ ws, IsBareWord w) → (Place.ofNode path node).read false ws = _ :=
    fun _ => Place.read_of_bare hparameters false
  rw [runParent, hpassed, ownWords]
  simp only [hown, Option.isNone_some, Bool.and_false, Bool.false_eq_true, if_false,
    hread words hwords]
  cases (Slots.fill (Parameter.ofName own.name) words).bind with
  | error flaw => exact seen_flawed _ _
  | ok values =>
    rw [length_ofName]
    cases hdrop : words.drop own.name.arguments.length with
    | nil =>
      simp only [Place.handOver, hparameters]
      rfl
    | cons name rest =>
      have hbehind : (((Place.ofNode path node).check (.ok values)).bind fun values =>
          (.ok ⟨values, name :: rest⟩ : Step Ending PlaceWords)) = .ok ⟨values, name :: rest⟩ := rfl
      have hrest : ∀ w ∈ name :: rest, IsBareWord w := fun w hw =>
        hwords w (List.mem_of_mem_drop (hdrop ▸ hw))
      rw [hbehind, Step.ok_bind]
      cases hname : node.subcommands.get? name with
      | some e =>
        simp only [hname, Place.handOver, Place.pathTo, hparameters]
        rfl
      | none =>
        simp only [hname]
        split
        -- before the word is reported, the words from there on are read once more
        · rw [hread _ hrest]
          cases (Slots.fill (Parameter.ofName own.name) (name :: rest)).bind <;>
            exact seen_flawed _ _
        · exact seen_flawed _ _

end Own

/-! ## The words behind a parent -/

theorem get?_eq_none_of_leaf? (h : node.leaf? = some e) (name : String) :
    node.subcommands.get? name = none := by
  cases hget : node.subcommands.get? name with
  | none => rfl
  | some sub =>
    rw [leaf?_of_get? hget] at h
    cases h

section Named
variable (hload : (load host settings.config).result = .ok loaded)
  (hnode : loaded.tree.get? parent = some node)
include hload hnode

/-- **The words of a parent that is a command itself**, where the first one names no subcommand. -/
theorem seen_runNamed_of_own (hown : node.own = some own)
    (hwords : ∀ w ∈ words, IsBareWord w)
    (hsub : ∀ w ∈ words.head?, node.subcommands.get? w = none) :
    seen (runNamed host settings parent words) =
      ownWords host settings loaded (toolName ++ " " ++ parent) own node.subcommands.get?
        words := by
  rw [runNamed_of_get? hload hnode, seen_warned]
  cases hleaf : node.leaf? with
  | some e =>
    obtain rfl : e = own := eq_of_leaf? hleaf hown
    have hnone : node.subcommands.get? = fun _ => none := funext (get?_eq_none_of_leaf? hleaf)
    rw [hnone]
    exact seen_runEntry_of_own hwords _ _ _ _
  | none => exact seen_runParent_of_own hwords _ _ _ _ hown hsub

/-- **The words of a subcommand.** -/
theorem seen_runNamed_of_sub {name : String} {rest : List String}
    (hsub : node.subcommands.get? name = some e) (hwords : ∀ w ∈ name :: rest, IsBareWord w) :
    seen (runNamed host settings parent (name :: rest)) =
      seen (runEntry host settings loaded
        (String.intercalate " " [toolName ++ " " ++ parent, name]) e rest) := by
  obtain ⟨hname, hrest⟩ := List.forall_mem_cons.1 hwords
  rw [runNamed_of_get? hload hnode, seen_warned]
  simp only [leaf?_of_get? hsub, runParent_of_get? _ _ _ _ hsub hname hrest]

end Named

/-! ## Two documents -/

/-- A run takes nothing of a document but what all commands share, and nothing of the settings that
name the document. -/
theorem invoke_congr (hrun : loaded'.config.run = loaded.config.run) (host : Host)
    (settings : Settings) (named : Option String) (definition : CommandDefinition)
    (values : OrderedMap String String) :
    invoke host { settings with config := named } loaded' definition values =
      invoke host settings loaded definition values := by
  rw [invoke, hrun]
  rfl

theorem runEntry_congr (hrun : loaded'.config.run = loaded.config.run) (host : Host)
    (settings : Settings) (named : Option String) (path : String) (e : CommandEntry)
    (words : List String) :
    runEntry host { settings with config := named } loaded' path e words =
      runEntry host settings loaded path e words := by
  simp only [runEntry, invoke_congr hrun]

theorem ownWords_with_config (hrun : loaded'.config.run = loaded.config.run) (host : Host)
    (settings : Settings) (named : Option String) (path : String) (own : CommandEntry)
    (sub? : String → Option CommandEntry) (words : List String) :
    ownWords host { settings with config := named } loaded' path own sub? words =
      ownWords host settings loaded path own sub? words := by
  simp only [ownWords, invoke_congr hrun, runEntry_congr hrun]

/-- The document that is named, if it is found and can be read. -/
def documentOf? (host : Host) (named : Option String) : Option Config :=
  match findConfig host.files named with
  | .error _ => none
  | .ok place => (Config.load host.env host.files (place.map .absolute)).toOption

theorem exists_place_of_documentOf? {named : Option String} {config : Config}
    (h : documentOf? host named = some config) :
    ∃ place, findConfig host.files named = .ok place ∧
      Config.load host.env host.files (place.map .absolute) = .ok config := by
  unfold documentOf? at h
  split at h
  · cases h
  · next place hplace => exact ⟨place, hplace, eq_ok_of_toOption h⟩

theorem result_load_of_document {named : Option String} {config : Config} {tree : CommandTree}
    (h : documentOf? host named = some config)
    (htree : CommandTree.build config.commands = .ok tree) :
    (load host named).result = .ok { config, tree } := by
  obtain ⟨place, hplace, hconfig⟩ := exists_place_of_documentOf? h
  rw [load, hplace, Step.ofExcept_ok_bind]
  simp only [hconfig]
  rw [Step.ofExcept_ok_bind, htree, Step.ofExcept_ok_bind]
  rfl

/-- A document with one more entry, which names a subcommand of a parent. -/
structure IsExtension (config config' : Config) (parent sub : String) : Prop where
  run : config'.run = config.run
  inserted : ∃ e, CommandTree.IsInsertion config.commands config'.commands e ∧
    e.name.parent = parent ∧ e.name.subcommand = some sub

/-- Words behind a parent ask for a subcommand: by the first word or, if that names no subcommand,
by the first word behind the parent's own arguments. -/
def AsksFor (sub? : String → Option CommandEntry) (own : CommandEntry) (sub : String)
    (words : List String) : Prop :=
  words.head? = some sub ∨
    (∀ w ∈ words.head?, sub? w = none) ∧
      (words.drop own.name.arguments.length).head? = some sub

/-- The words behind a parent, with one document and with the other. -/
theorem seen_runNamed_eq {node' : CommandNode} {named : Option String} {sub : String}
    (hload : (load host settings.config).result = .ok loaded)
    (hload' : (load host named).result = .ok loaded')
    (hrun : loaded'.config.run = loaded.config.run)
    (hnode : loaded.tree.get? parent = some node) (hnode' : loaded'.tree.get? parent = some node')
    (hown : node.own = some own) (hown' : node'.own = some own)
    (hget : ∀ w, w ≠ sub → node'.subcommands.get? w = node.subcommands.get? w)
    (hwords : ∀ w ∈ words, IsBareWord w)
    (hasks : ¬AsksFor node.subcommands.get? own sub words) :
    seen (runNamed host { settings with config := named } parent words) =
      seen (runNamed host settings parent words) := by
  have hhead : ∀ w ∈ words.head?, node'.subcommands.get? w = node.subcommands.get? w := by
    intro w hw
    refine hget w ?_
    rintro rfl
    exact hasks (Or.inl hw)
  by_cases hsub : ∀ w ∈ words.head?, node.subcommands.get? w = none
  · have hsub' : ∀ w ∈ words.head?, node'.subcommands.get? w = none := fun w hw =>
      (hhead w hw).trans (hsub w hw)
    have hname : ∀ w ∈ (words.drop own.name.arguments.length).head?,
        node'.subcommands.get? w = node.subcommands.get? w := by
      intro w hw
      refine hget w ?_
      rintro rfl
      exact hasks (Or.inr ⟨hsub, hw⟩)
    rw [seen_runNamed_of_own hload hnode hown hwords hsub,
      seen_runNamed_of_own hload' hnode' hown' hwords hsub', ownWords_congr hname,
      ownWords_with_config hrun]
  · cases words with
    | nil => exact absurd (fun _ hw => nomatch hw) hsub
    | cons name rest =>
      cases hname : node.subcommands.get? name with
      | none => exact absurd (by simpa using hname) hsub
      | some e =>
        have hname' : node'.subcommands.get? name = some e := (hhead name rfl).trans hname
        rw [seen_runNamed_of_sub hload hnode hname hwords,
          seen_runNamed_of_sub hload' hnode' hname' hwords, runEntry_congr hrun]

/-- **One more subcommand disturbs nothing else.** A document and the same with one more entry, for
a new subcommand of a parent that is a command itself: the parent with words behind it ends in the
same way, with the same output, requests, shell commands and changes of files, unless the new
subcommand is asked for. -/
theorem finish_start_of_isExtension {line line' : List String} {named : Option String}
    {config config' : Config} {tree : CommandTree} {sub : String}
    (hline : readTool host none line = .ok (settings, parent :: words))
    (hline' : readTool host none line' = .ok ({ settings with config := named }, parent :: words))
    (hconfig : documentOf? host settings.config = some config)
    (htree : CommandTree.build config.commands = .ok tree)
    (hconfig' : documentOf? host named = some config')
    (hext : IsExtension config config' parent sub)
    (hown : tree.at? parent none = some own)
    (hwords : ∀ w ∈ words, IsBareWord w)
    (hasks : ¬AsksFor (fun w => tree.at? parent (some w)) own sub words) :
    let s := Ending.finish (start host line)
    let s' := Ending.finish (start host line')
    s'.result = s.result ∧ Effect.stdout s'.effects = Effect.stdout s.effects ∧
      Effect.requests s'.effects = Effect.requests s.effects ∧
      Effect.commands s'.effects = Effect.commands s.effects ∧
      Effect.applyAll host.files s'.effects = Effect.applyAll host.files s.effects := by
  obtain ⟨e, hinsert, -, hsub⟩ := hext.inserted
  obtain ⟨tree', htree', hsame⟩ := CommandTree.exists_build_of_isInsertion htree hinsert
  have hat : ∀ place, place ≠ some sub → tree'.at? parent place = tree.at? parent place := by
    intro place hplace
    refine hsame parent place ?_
    rw [CommandTree.isAt, hsub, Bool.and_eq_false_iff]
    exact Or.inr (by simpa using Ne.symm hplace)
  have hown' : tree'.at? parent none = some own := (hat none (by simp)).trans hown
  obtain ⟨node, hnode, hnodeOwn⟩ := Option.bind_eq_some_iff.1 hown
  obtain ⟨node', hnode', hnodeOwn'⟩ := Option.bind_eq_some_iff.1 hown'
  have hget : ∀ w, tree.at? parent (some w) = node.subcommands.get? w := by
    intro w
    rw [CommandTree.at?, hnode]
    rfl
  have hget' : ∀ w, w ≠ sub → node'.subcommands.get? w = node.subcommands.get? w := by
    intro w hw
    rw [← hget, ← hat (some w) (by simpa using hw), CommandTree.at?, hnode']
    rfl
  have hstart : seen (start host line') = seen (start host line) := by
    rw [start, start, hline, hline', Step.ok_bind, Step.ok_bind]
    simp only [hget] at hasks
    exact seen_runNamed_eq (result_load_of_document hconfig htree)
      (result_load_of_document hconfig' htree') hext.run hnode hnode' hnodeOwn hnodeOwn' hget'
      hwords hasks
  obtain ⟨heffects, hresult⟩ := Prod.mk.inj hstart
  refine ⟨hresult, ?_, ?_, ?_, ?_⟩
  · rw [← Effect.stdout_withoutErr, heffects, Effect.stdout_withoutErr]
  · rw [← Effect.requests_withoutErr, heffects, Effect.requests_withoutErr]
  · rw [← Effect.commands_withoutErr, heffects, Effect.commands_withoutErr]
  · rw [← Effect.applyAll_withoutErr, heffects, Effect.applyAll_withoutErr]

/-- Two documents: one with a parent that takes one word, and the same with a subcommand of it. -/
def itemDocuments : Host where
  env := .empty
  files := (FileTree.write ⟨.empty, [], []⟩ ["a.yaml"]
    "commands:\n  item <id>:\n    response: item $id\n").write ["b.yaml"]
    "commands:\n  item <id>:\n    response: item $id\n  item list:\n    response: all\n"
  exchange := .timedOut
  shell := fun _ _ => .error .nulInCommand

/-- The definition with nothing but a response. -/
def responding (text : String) : Value := .map [(.str "response", .leaf (.str text))]

/-- Keys and responses of entries that have nothing else. -/
def texts? : List (Leaf × Value) → Option (List (String × String))
  | [] => some []
  | (.str key, .map [(.str "response", .leaf (.str text))]) :: rest =>
    (texts? rest).map ((key, text) :: ·)
  | _ => none

/-- Keys and responses of a document that has nothing else. -/
def responses? (config : Config) : Option (List (String × String)) :=
  match config.run.defaults.entries, config.run.headers.entries, config.run.timeout with
  | [], [], .whole 30 => texts? config.commands
  | _, _, _ => none

theorem commands_of_texts? {commands : List (Leaf × Value)} {texts : List (String × String)}
    (h : texts? commands = some texts) :
    commands = texts.map fun t => (.str t.1, responding t.2) := by
  fun_induction texts? commands generalizing texts with
  | case1 =>
    cases h
    rfl
  | case2 key text rest ih =>
    obtain ⟨texts, hrest, rfl⟩ := Option.map_eq_some_iff.1 h
    rw [ih hrest]
    rfl
  | case3 => cases h

theorem of_responses? {config : Config} {texts : List (String × String)}
    (h : responses? config = some texts) :
    config.run = {} ∧ config.commands = texts.map fun t => (.str t.1, responding t.2) := by
  rw [responses?] at h
  split at h
  · next hdefaults hheaders htimeout =>
    obtain ⟨⟨defaults, headers, timeout⟩, commands, directory⟩ := config
    refine ⟨?_, commands_of_texts? h⟩
    obtain rfl : defaults = .empty := OrderedMap.ext hdefaults
    obtain rfl : headers = .empty := OrderedMap.ext hheaders
    obtain rfl : timeout = .whole 30 := htimeout
    rfl
  · cases h

/-- Both documents can be read, and the second one is the first with one more entry. -/
theorem exists_itemDocuments : ∃ config config' tree own,
    documentOf? itemDocuments (some "a.yaml") = some config ∧
      documentOf? itemDocuments (some "b.yaml") = some config' ∧
      CommandTree.build config.commands = .ok tree ∧ IsExtension config config' "item" "list" ∧
      tree.at? "item" none = some own ∧ tree.at? "item" (some "list") = none ∧
      own.name = ⟨"item <id>", "item", none, ["id"], []⟩ := by
  have hread : (documentOf? itemDocuments (some "a.yaml")).bind responses? =
      some [("item <id>", "item $id")] := by decide +kernel
  have hread' : (documentOf? itemDocuments (some "b.yaml")).bind responses? =
      some [("item <id>", "item $id"), ("item list", "all")] := by decide +kernel
  obtain ⟨config, hconfig, hresponses⟩ := Option.bind_eq_some_iff.1 hread
  obtain ⟨config', hconfig', hresponses'⟩ := Option.bind_eq_some_iff.1 hread'
  obtain ⟨hrun, hcommands⟩ := of_responses? hresponses
  obtain ⟨hrun', hcommands'⟩ := of_responses? hresponses'
  have hplaces : (CommandTree.build [(.str "item <id>", responding "item $id")]).toOption.map
      (fun tree => ((tree.at? "item" none).map (·.name), (tree.at? "item" (some "list")).isNone)) =
        some (some ⟨"item <id>", "item", none, ["id"], []⟩, true) := by decide +kernel
  have hlist : (CommandTree.entry (.str "item list") (responding "all")).toOption.map (·.name) =
      some ⟨"item list", "item", some "list", [], []⟩ := by decide +kernel
  obtain ⟨tree, htree, hplaces⟩ := Option.map_eq_some_iff.1 hplaces
  obtain ⟨hownName, hnew⟩ := Prod.mk.inj hplaces
  obtain ⟨own, hown, hname⟩ := Option.map_eq_some_iff.1 hownName
  obtain ⟨e, he, hentry⟩ := Option.map_eq_some_iff.1 hlist
  refine ⟨config, config', tree, own, hconfig, hconfig', ?_, ⟨hrun'.trans hrun.symm, e, ?_, ?_, ?_⟩,
    hown, Option.isNone_iff_eq_none.1 hnew, hname⟩
  · rw [hcommands]
    exact eq_ok_of_toOption htree
  · exact ⟨_, _, _, [], by rw [hcommands, List.append_nil], hcommands', eq_ok_of_toOption he⟩
  · rw [hentry]
  · rw [hentry]

/-- The parent with a word for its argument is the same with both documents. -/
theorem finish_start_of_isExtension_item :
    let s := Ending.finish (start itemDocuments ["-c", "a.yaml", "item", "7"])
    let s' := Ending.finish (start itemDocuments ["-c", "b.yaml", "item", "7"])
    (∃ config config' tree own,
      documentOf? itemDocuments (some "a.yaml") = some config ∧
        documentOf? itemDocuments (some "b.yaml") = some config' ∧
        CommandTree.build config.commands = .ok tree ∧ IsExtension config config' "item" "list" ∧
        tree.at? "item" none = some own ∧
        ¬AsksFor (fun w => tree.at? "item" (some w)) own "list" ["7"]) ∧
      s'.result = s.result ∧ Effect.stdout s'.effects = Effect.stdout s.effects ∧
      Effect.requests s'.effects = Effect.requests s.effects ∧
      Effect.commands s'.effects = Effect.commands s.effects ∧
      Effect.applyAll itemDocuments.files s'.effects =
        Effect.applyAll itemDocuments.files s.effects ∧
      Effect.stdout s.effects = "item 7\n" := by
  obtain ⟨config, config', tree, own, hconfig, hconfig', htree, hext, hown, -, hname⟩ :=
    exists_itemDocuments
  have hline : ∀ named, readTool itemDocuments none ["-c", named, "item", "7"] =
      .ok ({ Settings.ofOptions .empty [] with config := some named }, ["item", "7"]) := by
    intro named
    rfl
  have hasks : ¬AsksFor (fun w => tree.at? "item" (some w)) own "list" ["7"] := by
    simp [AsksFor, hname, CommandName.arguments]
  obtain ⟨hresult, hstdout, hrequests, hcommands, hfiles⟩ :=
    finish_start_of_isExtension (hline "a.yaml") (hline "b.yaml") hconfig htree hconfig' hext hown
      (by decide) hasks
  exact ⟨⟨config, config', tree, own, hconfig, hconfig', htree, hext, hown, hasks⟩, hresult,
    hstdout, hrequests, hcommands, hfiles, by decide +kernel⟩

/-- A word behind the argument is refused, unless it has become the name of a subcommand. -/
theorem finish_start_ne_of_isExtension_item : ∃ config config' tree own,
    documentOf? itemDocuments (some "a.yaml") = some config ∧
      documentOf? itemDocuments (some "b.yaml") = some config' ∧
      CommandTree.build config.commands = .ok tree ∧ IsExtension config config' "item" "list" ∧
      tree.at? "item" none = some own ∧ tree.at? "item" (some "list") = none ∧
      (Ending.finish (start itemDocuments ["-c", "a.yaml", "item", "7", "list"])).result =
        .ok 2 ∧
      (Ending.finish (start itemDocuments ["-c", "b.yaml", "item", "7", "list"])).result =
        .ok 0 := by
  obtain ⟨config, config', tree, own, hconfig, hconfig', htree, hext, hown, hnew, -⟩ :=
    exists_itemDocuments
  exact ⟨config, config', tree, own, hconfig, hconfig', htree, hext, hown, hnew,
    eq_ok_of_toOption (by decide +kernel), eq_ok_of_toOption (by decide +kernel)⟩

end CommandBook.CommandLine
