import CommandBook.Proofs.CommandLine.Lookups
import CommandBook.Proofs.CommandLine.Rejection

/-!
# The document of the manual

A command line that asks for the manual shows the commands of a document. Which one that is does not
only depend on what names the document, but also on where this stands: the option `--config` counts
if it stands in front of the first `--help`, and the environment does not count at all. Listing the
commands, and running one, draw on the document that is named in either way.

## Main statements

* `fits_of_readWords` — options have values as their kind says
* `documentOfHelp_eq` — what names the document of the manual
* `run_help` — the manual, the list and the commands of one document
-/

namespace CommandBook

/-! ## Options and their values -/

section Fits
variable {κ : Type} {specs : List (OptionSpec κ)}

/-- An option that is known, with a value if it takes one. -/
def OptionSpec.Fits (specs : List (OptionSpec κ)) (o : κ × Option String) : Prop :=
  ∃ s ∈ specs, s.key = o.1 ∧ s.takesValue = o.2.isSome

/-- An option that waits for its value takes one. -/
def OptionSpec.Awaits (specs : List (OptionSpec κ)) (o : κ × String) : Prop :=
  ∃ s ∈ specs, s.key = o.1 ∧ s.takesValue = true

/-- What a word gives fits, and so will what it leaves open. -/
structure ReadOption.Fits (specs : List (OptionSpec κ)) (r : ReadOption κ) : Prop where
  given : ∀ o ∈ r.given, OptionSpec.Fits specs o
  open? : ∀ o ∈ r.open?, OptionSpec.Awaits specs o

theorem ReadOption.fits_given {s : OptionSpec κ} {v : Option String} (hs : s ∈ specs)
    (hv : s.takesValue = v.isSome) : ReadOption.Fits specs { given := [(s.key, v)] } where
  given := fun o ho => by
    obtain rfl := List.mem_singleton.1 ho
    exact ⟨s, hs, rfl, hv⟩
  open? := fun o ho => nomatch ho

theorem ReadOption.fits_open {s : OptionSpec κ} {name : String} (hs : s ∈ specs)
    (hv : s.takesValue = true) : ReadOption.Fits specs { open? := some (s.key, name) } where
  given := fun o ho => absurd ho List.not_mem_nil
  open? := fun o ho => by
    cases ho
    exact ⟨s, hs, rfl, hv⟩

theorem fits_of_readLetters {cs : List Char} {r : ReadOption κ}
    (h : readLetters specs cs = .ok r) : r.Fits specs := by
  fun_induction readLetters specs cs generalizing r with
  | case1 =>
    cases h
    exact ⟨fun o ho => absurd ho List.not_mem_nil, fun o ho => nomatch ho⟩
  | case2 => cases h
  | case3 c rest _ s hs hvalue =>
    cases h
    exact ReadOption.fits_open (List.mem_of_find?_eq_some hs) hvalue
  | case4 c rest s hs hvalue hempty =>
    cases h
    exact ReadOption.fits_given (List.mem_of_find?_eq_some hs) hvalue
  | case5 c rest s hs hvalue ih =>
    obtain ⟨r', hrest, h⟩ := exists_of_bind_eq_ok h
    cases h
    obtain ⟨hgiven, hopen⟩ := ih hrest
    refine ⟨?_, hopen⟩
    intro o ho
    rcases List.mem_cons.1 ho with rfl | ho
    · exact ⟨s, List.mem_of_find?_eq_some hs, rfl, by simpa using hvalue⟩
    · exact hgiven o ho

theorem fits_of_readOption {w : List Char} {r : ReadOption κ}
    (h : readOption specs w = .ok r) : r.Fits specs := by
  unfold readOption at h
  simp only at h
  split at h
  · next s value hs _ =>
    have hmem := List.mem_of_find?_eq_some hs
    split at h
    · next hvalue =>
      cases h
      exact ReadOption.fits_given hmem hvalue
    · cases h
  · next s hs _ =>
    have hmem := List.mem_of_find?_eq_some hs
    split at h
    · next hvalue =>
      cases h
      exact ReadOption.fits_open hmem hvalue
    · next hvalue =>
      cases h
      exact ReadOption.fits_given hmem (by simpa using hvalue)
  · split at h
    · cases h
    · exact fits_of_readLetters h

theorem fits_of_readWordsFrom {mixed : Bool} {waiting : Option (κ × String)} {ws : List String}
    {r : ReadWords κ} (hwaiting : ∀ o ∈ waiting, OptionSpec.Awaits specs o)
    (h : readWordsFrom specs mixed waiting ws = .ok r) :
    ∀ o ∈ r.options, OptionSpec.Fits specs o := by
  fun_induction readWordsFrom specs mixed waiting ws generalizing r with
  | case1 =>
    cases h
    exact fun o ho => absurd ho List.not_mem_nil
  | case2 => cases h
  | case3 key name w rest ih =>
    obtain ⟨r', hrest, h⟩ := exists_of_bind_eq_ok h
    cases h
    intro o ho
    rcases List.mem_cons.1 ho with rfl | ho
    · obtain ⟨s, hs, hkey, hvalue⟩ := hwaiting _ rfl
      exact ⟨s, hs, hkey, hvalue⟩
    · exact ih (fun o ho => nomatch ho) hrest o ho
  | case4 =>
    cases h
    exact fun o ho => absurd ho List.not_mem_nil
  | case5 w rest _ _ ih =>
    obtain ⟨given, hgiven, h⟩ := exists_of_bind_eq_ok h
    obtain ⟨r', hrest, h⟩ := exists_of_bind_eq_ok h
    cases h
    have hfits := fits_of_readOption hgiven
    intro o ho
    rcases List.mem_append.1 ho with ho | ho
    · exact hfits.given o ho
    · exact ih given hfits.open? hrest o ho
  | case6 w rest _ _ _ ih =>
    obtain ⟨r', hrest, h⟩ := exists_of_bind_eq_ok h
    cases h
    intro o ho
    exact ih (fun o ho => nomatch ho) hrest o ho
  | case7 =>
    cases h
    exact fun o ho => absurd ho List.not_mem_nil

/-- **Options have values as their kind says.** -/
theorem fits_of_readWords {mixed : Bool} {ws : List String} {r : ReadWords κ}
    (h : readWords specs mixed ws = .ok r) : ∀ o ∈ r.options, OptionSpec.Fits specs o := by
  refine fits_of_readWordsFrom ?_ h
  intro o ho
  cases ho

end Fits

/-! ## What names the document -/

namespace Settings

variable {given : Given}

/-- The option for the document stands in front of the first one for the manual, if there is any. -/
def IsNamedInFront (given : Given) : Prop :=
  ∃ before value after, given = before ++ (.config, value) :: after ∧ ∀ o ∈ before, o.1 ≠ .help

theorem isNamedInFront_iff : IsNamedInFront given ↔
    ∃ value, given.find? (fun o => o.1 == .config || o.1 == .help) = some (.config, value) := by
  constructor
  · rintro ⟨before, value, after, rfl, hbefore⟩
    induction before with
    | nil => exact ⟨value, rfl⟩
    | cons o before ih =>
      obtain ⟨key, v⟩ := o
      obtain ⟨hkey, hbefore⟩ := List.forall_mem_cons.1 hbefore
      by_cases hconfig : key = .config
      · subst hconfig
        exact ⟨v, rfl⟩
      -- another option is passed over
      · obtain ⟨value', hfind⟩ := ih hbefore
        refine ⟨value', ?_⟩
        rw [List.cons_append, List.find?_cons_of_neg (by simpa using ⟨hconfig, hkey⟩)]
        exact hfind
  · rintro ⟨value, hfind⟩
    obtain ⟨-, before, after, hgiven, hbefore⟩ := List.find?_eq_some_iff_append.1 hfind
    refine ⟨before, value, after, hgiven, ?_⟩
    rintro o ho hhelp
    have hpassed := hbefore o ho
    simp [hhelp] at hpassed

theorem documentOfHelp_of_isNamedInFront (h : IsNamedInFront given) :
    documentOfHelp given = lastValue given .config := by
  obtain ⟨value, hfind⟩ := isNamedInFront_iff.1 h
  unfold documentOfHelp
  rw [hfind]

theorem documentOfHelp_of_not (h : ¬IsNamedInFront given) : documentOfHelp given = none := by
  unfold documentOfHelp
  split
  · next value hfind => exact absurd (isNamedInFront_iff.2 ⟨value, hfind⟩) h
  · rfl

/-- An option for the document has a value. -/
theorem isSome_lastValue (hfits : ∀ o ∈ given, OptionSpec.Fits toolOptions o)
    (h : IsNamedInFront given) : (lastValue given .config).isSome := by
  obtain ⟨before, value, after, rfl, -⟩ := h
  have hne : ((before ++ (.config, value) :: after).filter (·.1 == ToolOption.config)) ≠ [] := by
    simp
  obtain ⟨o, ho⟩ := Option.ne_none_iff_exists'.1 (mt List.getLast?_eq_none_iff.1 hne)
  obtain ⟨hmem, hkey⟩ := List.mem_filter.1 (List.mem_of_getLast? ho)
  obtain ⟨s, hs, hskey, hvalue⟩ := hfits o hmem
  have htakes : ∀ s ∈ toolOptions, s.key = .config → s.takesValue = true := by decide
  rw [lastValue, ho]
  show o.2.isSome = true
  rw [← hvalue]
  exact htakes s hs (hskey.trans (eq_of_beq hkey))

/-- **What names the document of the manual**: what names the document, if this is an option in
front. -/
theorem documentOfHelp_eq (env : Environment)
    (hfits : ∀ o ∈ given, OptionSpec.Fits toolOptions o) (h : IsNamedInFront given) :
    documentOfHelp given = (ofOptions env given).config := by
  obtain ⟨value, hvalue⟩ := Option.isSome_iff_exists.1 (isSome_lastValue hfits h)
  rw [documentOfHelp_of_isNamedInFront h, ofOptions]
  simp only [hvalue, Option.some_or]

end Settings

/-! ## The end of a manual -/

theorem exists_intercalate_concat {α : Type} (sep last : List α) : ∀ before : List (List α),
    ∃ front, List.intercalate sep (before ++ [last]) = front ++ last
  | [] => ⟨[], by simp [List.intercalate]⟩
  | [first] => ⟨first ++ sep, by simp [List.intercalate]⟩
  | first :: second :: before => by
    obtain ⟨front, hfront⟩ := exists_intercalate_concat sep last (second :: before)
    refine ⟨first ++ sep ++ front, ?_⟩
    rw [List.append_assoc, ← hfront]
    simp [List.intercalate]

/-- A manual with commands ends as the list of them does. -/
theorem Manual.getLast?_text {m : Manual} {c : Char}
    (h : (termList "Commands" m.commandRows).getLast?.bind List.getLast? = some c)
    (hline : c ≠ '\n') : m.text.toList.getLast? = some c := by
  obtain ⟨block, hblock, hlast⟩ := Option.bind_eq_some_iff.1 h
  obtain ⟨rows, hrows⟩ := List.getLast?_eq_some_iff.1 hblock
  obtain ⟨text, rfl⟩ := List.getLast?_eq_some_iff.1 hlast
  obtain ⟨before, hparts⟩ : ∃ before, m.parts = before ++ [text ++ [c]] := by
    unfold Manual.parts
    rw [hrows, ← List.append_assoc]
    exact ⟨_, rfl⟩
  obtain ⟨front, hfront⟩ := exists_intercalate_concat ['\n', '\n'] (text ++ [c]) before
  have htext : m.text.toList = front ++ text ++ [c] := by
    rw [Manual.text, hparts, hfront, String.toList_ofList, Text.dropTrailing]
    simp [hline]
  rw [htext, List.getLast?_concat]

namespace CommandLine

variable {host : Host} {named : Option String} {loaded : Loaded}

/-! ## The manual with a document -/

/-- An empty name counts as none. -/
theorem findConfig_congr {named' : Option String} (files : FileTree)
    (h : given? named' = given? named) : findConfig files named' = findConfig files named := by
  rw [findConfig, findConfig, h]

theorem findConfig_of_load (h : (load host named).result = .ok loaded) :
    ∃ place, findConfig host.files named = .ok (some place) := by
  cases hplace : findConfig host.files named with
  | error f =>
    rw [load, hplace] at h
    cases h
  | ok place =>
    cases place with
    | some place => exact ⟨place, rfl⟩
    | none =>
      rw [load_of_rejects (.missing hplace)] at h
      cases h

variable {words words' : List String} {r r' : ReadWords ToolOption}

/-- The manual is shown with the commands of a document, after the warnings of it. There may be no
document, but a document that is not accepted is an error. -/
structure ShowsCommandsOf (host : Host) (named : Option String) (words : List String) : Prop where
  accepted : ∀ loaded, (load host named).result = .ok loaded →
    run host words =
      ⟨loaded.tree.warnings.map .err ++ [.out (toolManual loaded.commands).text], .ok 0⟩
  missing : findConfig host.files named = .ok none →
    run host words = ⟨[.out (toolManual []).text], .ok 0⟩
  rejected : ∀ e place, Rejects host named e → findConfig host.files named = .ok (some place) →
    run host words = ⟨[.err ("Error: " ++ e.message)], .ok 1⟩

/-- A command line that asks for the list. -/
def AsksForList (settings : Settings) (words : List String) : Prop :=
  words = [] ∧ settings.list ∧ settings.clearSession = false ∧ settings.showSession = false

theorem runWithout_of_asksForList {settings : Settings} (host : Host)
    (h : AsksForList settings words) : runWithout host settings = list host settings := by
  obtain ⟨-, hlist, hclear, hshow⟩ := h
  simp only [runWithout, hclear, hshow, hlist, Bool.false_eq_true, if_false, if_true]

/-- The commands of a document are listed or run, after the warnings of it. A document that is
missing or not accepted is an error. -/
structure UsesCommandsOf (host : Host) (named : Option String) (settings : Settings)
    (behind words : List String) : Prop where
  listed : AsksForList settings behind → ∀ loaded, (load host named).result = .ok loaded →
    run host words =
      ⟨loaded.tree.warnings.map .err ++ loaded.tree.listing.map .out, .ok 0⟩
  ran : ∀ name rest loaded node, behind = name :: rest → (load host named).result = .ok loaded →
    loaded.tree.get? name = some node →
    run host words = Ending.finish ((Step.emitAll (loaded.tree.warnings.map .err)).bind fun _ =>
      match node.leaf? with
      | some e => runEntry host settings loaded (toolName ++ " " ++ name) e rest
      | none => runParent host settings loaded (toolName ++ " " ++ name) node rest)
  rejected : AsksForList settings behind ∨ behind ≠ [] → ∀ e, Rejects host named e →
    run host words = ⟨[.err ("Error: " ++ e.message)], .ok 1⟩

section Read
variable (hasked : (host.env.get? Completion.variableName).any (· != "") = false)
  (hread : readWords toolOptions false words = .ok r)
include hasked hread

theorem run_of_help (hhelp : r.options.any (·.1 == .help)) :
    run host words =
      Ending.finish (showToolManual host none (Settings.documentOfHelp r.options) 0) := by
  rw [run, hasked, if_neg Bool.false_ne_true, start, readTool_of_help none hread hhelp]
  unfold showToolManual
  generalize shownCommands host none (Settings.documentOfHelp r.options) = shown
  obtain ⟨effects, reason | commands⟩ := shown
  · rfl
  · rfl

theorem showsCommandsOf_documentOfHelp (hhelp : r.options.any (·.1 == .help))
    (named : Option String)
    (hnamed : given? named = given? (Settings.documentOfHelp r.options)) :
    ShowsCommandsOf host named words := by
  have hfind := findConfig_congr host.files hnamed
  have hload : load host named = load host (Settings.documentOfHelp r.options) := by
    rw [load, load, hfind]
  have hrun := run_of_help hasked hread hhelp
  constructor
  case accepted =>
    intro loaded hloaded
    obtain ⟨place, hplace⟩ := findConfig_of_load hloaded
    rw [hrun, showToolManual, shownCommands_of_find (hfind ▸ hplace), ← hload,
      load_eq_of_accepted hloaded]
    show (⟨((_ ++ []) ++ [.out (toolManual loaded.commands).text]) ++ [], .ok 0⟩ :
      Step Fault Nat) = _
    rw [List.append_nil, List.append_nil]
  case missing =>
    intro hplace
    rw [hrun, showToolManual, shownCommands, ← hfind, hplace]
    rfl
  case rejected =>
    intro e place hrejects hplace
    rw [hrun, showToolManual, shownCommands_of_find (hfind ▸ hplace), ← hload,
      load_of_rejects hrejects]
    rfl

theorem usesCommandsOf_settings (hhelp : r.options.any (·.1 == .help) = false) :
    UsesCommandsOf host (Settings.ofOptions host.env r.options).config
      (Settings.ofOptions host.env r.options) r.words words := by
  constructor
  case listed =>
    intro hasks loaded hload
    rw [run_of_unnamed hasked hread hhelp hasks.1, runWithout_of_asksForList host hasks, list,
      lookUp, load_eq_of_accepted hload]
    exact congrArg (fun es => Step.mk (loaded.tree.warnings.map .err ++ es) (.ok 0))
      (List.append_nil _)
  case ran =>
    intro name rest loaded node hname hload hnode
    rw [run_of_named hasked hread hhelp hname]
    exact congrArg Ending.finish (runNamed_of_get? hload hnode)
  case rejected =>
    intro hasks e hrejects
    rcases hasks with hasks | hne
    · rw [run_of_unnamed hasked hread hhelp hasks.1, runWithout_of_asksForList host hasks, list,
        lookUp, load_of_rejects hrejects]
      rfl
    · obtain ⟨name, rest, hname⟩ := List.exists_cons_of_ne_nil hne
      exact run_eq_of_rejects hasked hread hhelp hname hrejects

end Read

/-- **Which document the manual draws on.** One command line asks for the manual; another one, with
the same option for the document in the same environment, lists or runs commands. The manual shows
the commands of the same document if the option stands in front of it, or if neither the option nor
the environment names a document. Otherwise it shows those of the document that is found where none
is named. -/
theorem run_help (hasked : (host.env.get? Completion.variableName).any (· != "") = false)
    (hread : readWords toolOptions false words = .ok r) (hhelp : r.options.any (·.1 == .help))
    (hread' : readWords toolOptions false words' = .ok r')
    (hhelp' : r'.options.any (·.1 == .help) = false)
    (hsame : Settings.lastValue r'.options .config = Settings.lastValue r.options .config) :
    let named := (Settings.ofOptions host.env r.options).config
    UsesCommandsOf host named (Settings.ofOptions host.env r'.options) r'.words words' ∧
      (Settings.IsNamedInFront r.options ∨ given? named = none →
        ShowsCommandsOf host named words) ∧
      (¬Settings.IsNamedInFront r.options → ShowsCommandsOf host none words) := by
  intro named
  have hnamed : (Settings.ofOptions host.env r'.options).config = named := by
    simp only [named, Settings.ofOptions, hsame]
  have hfits := fits_of_readWords hread
  refine ⟨?_, ?_, ?_⟩
  · rw [← hnamed]
    exact usesCommandsOf_settings hasked hread' hhelp'
  · intro hcounts
    refine showsCommandsOf_documentOfHelp hasked hread hhelp named ?_
    by_cases hfront : Settings.IsNamedInFront r.options
    · rw [Settings.documentOfHelp_eq host.env hfits hfront]
    · rw [Settings.documentOfHelp_of_not hfront, hcounts.resolve_left hfront]
      rfl
  · intro hfront
    refine showsCommandsOf_documentOfHelp hasked hread hhelp none ?_
    rw [Settings.documentOfHelp_of_not hfront]

/-- Two documents: one that is found where none is named, and one that the environment names. -/
def environmentHost : Host where
  env := .ofList [("YAMLCMD_CONFIG", "b.yaml")]
  files := (FileTree.write ⟨.empty, [], []⟩ ["yamlcmd.yaml"]
    "commands:\n  item:\n    response: one\n").write ["b.yaml"]
    "commands:\n  other:\n    response: two\n"
  exchange := .timedOut
  shell := fun _ _ => .error .nulInCommand

theorem commands_environmentHost (named : Option String) (name about : String)
    (h : (load environmentHost named).result.toOption.map (fun l =>
      (l.tree.warnings, l.commands.map fun c => (c.name, c.about))) = some ([], [(name, about)])) :
    ∃ loaded, (load environmentHost named).result = .ok loaded ∧ loaded.tree.warnings = [] ∧
      loaded.commands = [⟨name, about⟩] := by
  obtain ⟨loaded, hloaded, h⟩ := Option.map_eq_some_iff.1 h
  obtain ⟨hwarnings, hcommands⟩ := Prod.mk.inj h
  refine ⟨loaded, eq_ok_of_toOption hloaded, hwarnings, ?_⟩
  obtain ⟨⟨name', about'⟩, hentry, hpair⟩ := List.map_eq_singleton_iff.1 hcommands
  cases hpair
  exact hentry

/-- The option in front of the manual names its document, and behind it does not. -/
theorem run_help_option : ∃ found loaded,
    (load environmentHost none).result = .ok found ∧
      found.commands = [⟨"item", "Execute item"⟩] ∧
      (load environmentHost (some "b.yaml")).result = .ok loaded ∧
      loaded.commands = [⟨"other", "Execute other"⟩] ∧
      run environmentHost ["-c", "b.yaml", "--list"] = ⟨loaded.tree.listing.map .out, .ok 0⟩ ∧
      run environmentHost ["-c", "b.yaml", "--help"] =
        ⟨[.out (toolManual loaded.commands).text], .ok 0⟩ ∧
      run environmentHost ["--help", "-c", "b.yaml"] =
        ⟨[.out (toolManual found.commands).text], .ok 0⟩ := by
  obtain ⟨found, hfound, hwarnings, hcommands⟩ :=
    commands_environmentHost none "item" "Execute item" (by decide +kernel)
  obtain ⟨loaded, hloaded, hwarnings', hcommands'⟩ :=
    commands_environmentHost (some "b.yaml") "other" "Execute other" (by decide +kernel)
  have hfront : Settings.IsNamedInFront [(.config, some "b.yaml"), (.help, none)] :=
    ⟨[], _, _, rfl, fun o ho => absurd ho List.not_mem_nil⟩
  have hbehind : ¬Settings.IsNamedInFront [(.help, none), (.config, some "b.yaml")] := by
    rw [Settings.isNamedInFront_iff]
    rintro ⟨value, hfind⟩
    cases hfind
  obtain ⟨huses, hshows, -⟩ := @run_help environmentHost ["-c", "b.yaml", "--help"]
    ["-c", "b.yaml", "--list"] ⟨[(.config, some "b.yaml"), (.help, none)], []⟩
    ⟨[(.config, some "b.yaml"), (.list, none)], []⟩ rfl rfl rfl rfl rfl rfl
  obtain ⟨-, -, hshows'⟩ := @run_help environmentHost ["--help", "-c", "b.yaml"]
    ["-c", "b.yaml", "--list"] ⟨[(.help, none), (.config, some "b.yaml")], []⟩
    ⟨[(.config, some "b.yaml"), (.list, none)], []⟩ rfl rfl rfl rfl rfl rfl
  have hlist := huses.listed ⟨rfl, rfl, rfl, rfl⟩ loaded hloaded
  have hhelp := (hshows (Or.inl hfront)).accepted loaded hloaded
  have hhelp' := (hshows' hbehind).accepted found hfound
  rw [hwarnings'] at hlist hhelp
  rw [hwarnings] at hhelp'
  exact ⟨found, loaded, hfound, hcommands, hloaded, hcommands', hlist, hhelp, hhelp'⟩

/-- What names a document by the environment only does not count for the manual, which shows the
commands of another document than the list. -/
theorem run_help_environment :
    ∃ found loaded, (load environmentHost none).result = .ok found ∧
      found.commands = [⟨"item", "Execute item"⟩] ∧
      (load environmentHost (Settings.ofOptions environmentHost.env []).config).result =
        .ok loaded ∧ loaded.commands = [⟨"other", "Execute other"⟩] ∧
      run environmentHost ["--list"] = ⟨loaded.tree.listing.map .out, .ok 0⟩ ∧
      run environmentHost ["--help"] = ⟨[.out (toolManual found.commands).text], .ok 0⟩ ∧
      (toolManual found.commands).text ≠ (toolManual loaded.commands).text := by
  obtain ⟨found, hfound, hwarnings, hcommands⟩ :=
    commands_environmentHost none "item" "Execute item" (by decide +kernel)
  obtain ⟨loaded, hloaded, hwarnings', hcommands'⟩ :=
    commands_environmentHost (some "b.yaml") "other" "Execute other" (by decide +kernel)
  have hlist : run environmentHost ["--list"] = _ :=
    (@usesCommandsOf_settings environmentHost ["--list"] ⟨[(.list, none)], []⟩ rfl rfl rfl).listed
      ⟨rfl, rfl, rfl, rfl⟩ loaded hloaded
  have hhelp : run environmentHost ["--help"] = _ :=
    (@showsCommandsOf_documentOfHelp environmentHost ["--help"] ⟨[(.help, none)], []⟩ rfl rfl rfl
      none rfl).accepted found hfound
  rw [hwarnings'] at hlist
  rw [hwarnings] at hhelp
  refine ⟨found, loaded, hfound, hcommands, hloaded, hcommands', hlist, hhelp, fun htext => ?_⟩
  -- the manuals end with different letters
  have hlast := congrArg (fun text : String => text.toList.getLast?) htext
  rw [hcommands, hcommands'] at hlast
  have hitem : (termList "Commands"
      (toolManual [⟨"item", "Execute item"⟩]).commandRows).getLast?.bind List.getLast? =
        some 'm' := by decide +kernel
  have hother : (termList "Commands"
      (toolManual [⟨"other", "Execute other"⟩]).commandRows).getLast?.bind List.getLast? =
        some 'r' := by decide +kernel
  simp only [Manual.getLast?_text hitem (by decide),
    Manual.getLast?_text hother (by decide)] at hlast
  cases hlast

end CommandLine

end CommandBook
