import CommandBook.Proofs.Config.Sections

/-!
# How reading a document fails

What is wrong with a document has a report of its own, unless it is one of a few things that the
checks do not look for: the path is too long to be looked up; the file is not UTF-8; a scalar looks
like a number or a date and is none; the environment file is not named by a text, cannot be looked
up or is not UTF-8; or an integer in a section of texts is too long to be written. The stages of
reading come in a fixed order, and each of these counts only where the stages before it have passed.

## Main definitions

* `EnvironmentEscapes`, `KeyTooLong`, `Escapes` — what makes reading a document end by a fault
* `IsRead` — what a document holds that has been read

## Main statements

* `load_eq_fault_iff` — reading ends by a fault exactly where something escapes the checks
* `load_outcomes` — all ends of reading a document
-/

namespace CommandBook

/-- A value is written, or it is a fault, and what comes then is for the next values to say. -/
theorem text?_fails_or {v : Value} {f : Fault} {P : Prop} :
    (v.text? = .error f ∨ ∃ text, v.text? = .ok text ∧ f = .numeralTooLong ∧ P) ↔
      f = .numeralTooLong ∧ (v.fits = false ∨ P) := by
  cases hfits : v.fits <;> simp [Value.text?, hfits, eq_comm]

namespace Config

variable {env : Environment} {files : FileTree} {path : FilePath} {shown name : String}
  {directory : Location} {fields : Fields} {config : Config} {f : Fault}

theorem ofFault_eq_fault_iff {α : Type} {r : Except Fault α} :
    Rejection.ofFault r = .error (.fault f) ↔ r = .error f := by
  simp [Rejection.ofFault, mapError_eq_error_iff]

theorem ofFault_eq_ok_iff {α : Type} {r : Except Fault α} {a : α} :
    Rejection.ofFault r = .ok a ↔ r = .ok a := mapError_eq_ok_iff

theorem mapError_config_ne_fault {α : Type} (r : Except ConfigError α) :
    r.mapError Rejection.config ≠ .error (.fault f) := by
  simp [mapError_eq_error_iff]

/-! ## Sections -/

/-- Entries are a fault where a key is too long to be written. -/
theorem sectionEntries_eq_error_iff {entries : List (Leaf × Value)}
    {acc : OrderedMap String Value} : sectionEntries entries acc = .error f ↔
      f = .numeralTooLong ∧ ∃ e ∈ entries, e.1.fits = false := by
  induction entries generalizing acc with
  | nil => simp [sectionEntries]
  | cons e entries ih =>
    simp only [sectionEntries, bind_eq_error_iff, ih, Leaf.text?, text?_fails_or, Value.fits,
      List.exists_mem_cons_iff]

/-- Values are a fault where one is too long to be written. -/
theorem textsOf_eq_error_iff {row : List (String × Value)} :
    textsOf row = .error f ↔ f = .numeralTooLong ∧ ∃ e ∈ row, e.2.fits = false := by
  induction row with
  | nil => simp [textsOf]
  | cons e row ih =>
    simp only [textsOf, bind_eq_error_iff, ih, pure, Except.pure, reduceCtorEq, and_false,
      exists_false, or_false, text?_fails_or, List.exists_mem_cons_iff]

/-- A section with a key that is an integer too long to be written. -/
def KeyTooLong (fields : Fields) (name : String) : Prop :=
  ∃ entries, fields.get? name sectionDepth = some (.map entries) ∧ ∃ e ∈ entries, e.1.fits = false

theorem sectionOf_eq_fault_iff : sectionOf shown name fields = .error (.fault f) ↔
    f = .numeralTooLong ∧ KeyTooLong fields name := by
  unfold sectionOf KeyTooLong
  cases hfield : fields.get? name sectionDepth with
  | none => simp [Value.null, Value.holds, Leaf.holds]
  | some content =>
    cases content with
    | map entries =>
      cases entries with
      | nil => simp [Value.holds]
      | cons e entries =>
        simp only [Option.getD_some, Value.holds, List.isEmpty_cons, Bool.not_false, if_true,
          ofFault_eq_fault_iff, sectionEntries_eq_error_iff, Option.some.injEq, Value.map.injEq,
          exists_eq_left']
    | leaf | list | set | pairs | enclosing =>
      simp only [Option.getD_some]
      split <;> simp

/-! ## The environment file -/

/-- What makes reading the environment file end by a fault. -/
inductive EnvironmentEscapes (files : FileTree) (directory : Location) (fields : Fields) :
    Fault → Prop
  /-- It is named by a number, a date, a list or the like. -/
  | notText (v : Value) : fields.get? "env_file" 0 = some v → v.holds → (∀ name, v ≠ .str name) →
      EnvironmentEscapes files directory fields .environmentFileNotText
  | path (name : String) : fields.get? "env_file" 0 = some (.str name) → name ≠ "" →
      files.entry ((FilePath.absolute directory).join (.ofString name)) = .error .nameTooLong →
      EnvironmentEscapes files directory fields .nameTooLong
  | bytes (name : String) (l : Location) (content : ByteArray) :
      fields.get? "env_file" 0 = some (.str name) → name ≠ "" →
      files.entry ((FilePath.absolute directory).join (.ofString name)) = .ok (l, .file content) →
      String.fromUTF8? content = none → EnvironmentEscapes files directory fields .notUtf8

theorem layeredOver_eq_error_iff {p : FilePath} :
    EnvFile.layeredOver env files p = .error f ↔
      (f = .nameTooLong ∧ files.entry p = .error .nameTooLong) ∨
      ∃ l content, files.entry p = .ok (l, .file content) ∧ f = .notUtf8 ∧
        String.fromUTF8? content = none := by
  unfold EnvFile.layeredOver
  split
  · next l content hfind =>
    rw [FileTree.find?_eq_some_iff.1 hfind, bind_eq_error_iff, FileTree.decode_eq_error_iff]
    simp [pure, Except.pure]
  · next found hnot hfind =>
    have hentry : files.entry p ≠ .error .nameTooLong := fun h => by
      simp [FileTree.find?, h] at hfind
    have hfile : ∀ l content, files.entry p ≠ .ok (l, .file content) := fun l content h =>
      hnot l content (by simpa using hfind.symm.trans (FileTree.find?_eq_some_iff.2 h))
    simp [hentry, hfile]
  · next g hfind =>
    obtain ⟨rfl, hentry⟩ := FileTree.find?_eq_error_iff.1 hfind
    simp [hentry, eq_comm]

theorem environmentOf_eq_error_iff : environmentOf env files directory fields = .error f ↔
    EnvironmentEscapes files directory fields f := by
  unfold environmentOf
  constructor
  · intro h
    cases hfield : fields.get? "env_file" 0 with
    | none => simp [hfield, Value.null, Value.holds, Leaf.holds] at h
    | some v =>
      simp only [hfield, Option.getD_some] at h
      split at h
      · next hholds =>
        split at h
        · next name =>
          have hname : name ≠ "" := by simpa [Value.holds, Leaf.holds] using hholds
          rcases layeredOver_eq_error_iff.1 h with ⟨rfl, hentry⟩ | ⟨l, content, hentry, rfl, hutf8⟩
          · exact .path name hfield hname hentry
          · exact .bytes name l content hfield hname hentry hutf8
        · next hnot =>
          cases h
          exact .notText v hfield hholds fun name hv => hnot name hv
      · cases h
  · intro h
    cases h with
    | notText v hfield hholds hnot =>
      simp only [hfield, Option.getD_some, hholds, if_true]
      split
      · next name => exact absurd rfl (hnot name)
      · rfl
    | path name hfield hname hentry =>
      simp [hfield, Value.str, Value.holds, Leaf.holds, hname, layeredOver_eq_error_iff, hentry]
    | bytes name l content hfield hname hentry hutf8 =>
      simp [hfield, Value.str, Value.holds, Leaf.holds, hname, layeredOver_eq_error_iff, hentry,
        hutf8]

/-! ## A whole document -/

theorem commandsOf_eq_ok_iff {commands : List (Leaf × Value)} :
    commandsOf shown fields = .ok commands ↔
      fields.get? "commands" commandDepth = some (.map commands) := by
  unfold commandsOf
  split
  · next h => simp [h]
  · next h => simp [h]
  · next v hnot h => simpa [h] using hnot commands

/-- What makes reading the sections of a document end by a fault, in the order in which they are
read: each counts where what is read before it is in order. -/
inductive SectionsEscape (env : Environment) (files : FileTree) (shown : String)
    (directory : Location) (fields : Fields) : Fault → Prop
  | environment {commands : List (Leaf × Value)} {f : Fault} :
      fields.get? "commands" commandDepth = some (.map commands) →
      EnvironmentEscapes files directory fields f →
      SectionsEscape env files shown directory fields f
  | variableName {commands : List (Leaf × Value)} {environment : Environment} :
      fields.get? "commands" commandDepth = some (.map commands) →
      environmentOf env files directory fields = .ok environment →
      KeyTooLong fields "variables" →
      SectionsEscape env files shown directory fields .numeralTooLong
  | headerName {commands : List (Leaf × Value)} {environment : Environment}
      {given : OrderedMap String Value} :
      fields.get? "commands" commandDepth = some (.map commands) →
      environmentOf env files directory fields = .ok environment →
      sectionOf shown "variables" fields = .ok given → KeyTooLong fields "headers" →
      SectionsEscape env files shown directory fields .numeralTooLong
  /-- Values are written last of all, and only those that no later key has replaced. -/
  | value {commands : List (Leaf × Value)} {environment : Environment}
      {given shared : OrderedMap String Value} {timeout : Seconds} :
      fields.get? "commands" commandDepth = some (.map commands) →
      environmentOf env files directory fields = .ok environment →
      sectionOf shown "variables" fields = .ok given →
      sectionOf shown "headers" fields = .ok shared →
      timeoutOf shown fields = .ok timeout →
      (∃ e ∈ given.entries ++ shared.entries, e.2.fits = false) →
      SectionsEscape env files shown directory fields .numeralTooLong

theorem ofFields_eq_fault_iff : ofFields shown directory env files fields = .error (.fault f) ↔
    SectionsEscape env files shown directory fields f := by
  simp only [ofFields, bind_eq_error_iff, mapError_eq_ok_iff, mapError_config_ne_fault, false_or,
    ofFault_eq_fault_iff, ofFault_eq_ok_iff, environmentOf_eq_error_iff, sectionOf_eq_fault_iff,
    textsOf_eq_error_iff, textsOf_eq_ok_iff, commandsOf_eq_ok_iff, pure, Except.pure, reduceCtorEq,
    and_false, exists_false, or_false]
  constructor
  · rintro ⟨commands, hcommands, henv | ⟨environment, henv, ⟨rfl, hkey⟩ | ⟨given, hgiven,
      ⟨rfl, hkey⟩ | ⟨shared, hshared, timeout, htimeout, hvalue⟩⟩⟩⟩
    · exact .environment hcommands henv
    · exact .variableName hcommands henv hkey
    · exact .headerName hcommands henv hgiven hkey
    · rcases hvalue with ⟨rfl, e, he, hlong⟩ | ⟨_, -, rfl, e, he, hlong⟩
      · exact .value hcommands henv hgiven hshared htimeout
          ⟨e, List.mem_append_left _ he, hlong⟩
      · exact .value hcommands henv hgiven hshared htimeout
          ⟨e, List.mem_append_right _ he, hlong⟩
  · intro h
    cases h with
    | environment hcommands henv => exact ⟨_, hcommands, Or.inl henv⟩
    | variableName hcommands henv hkey =>
      exact ⟨_, hcommands, Or.inr ⟨_, henv, Or.inl ⟨rfl, hkey⟩⟩⟩
    | headerName hcommands henv hgiven hkey =>
      exact ⟨_, hcommands, Or.inr ⟨_, henv, Or.inr ⟨_, hgiven, Or.inl ⟨rfl, hkey⟩⟩⟩⟩
    | @value _ _ given shared _ hcommands henv hgiven hshared htimeout hlong =>
      refine ⟨_, hcommands, Or.inr ⟨_, henv, Or.inr ⟨_, hgiven, Or.inr ⟨_, hshared, _, htimeout, ?_⟩⟩⟩⟩
      by_cases hfits : ∀ e ∈ given.entries, e.2.fits
      · obtain ⟨e, he, hlong⟩ := hlong
        rcases List.mem_append.1 he with he | he
        · rw [hfits e he] at hlong
          cases hlong
        · exact Or.inr ⟨_, ⟨hfits, rfl⟩, rfl, e, he, hlong⟩
      · push Not at hfits
        obtain ⟨e, he, hlong⟩ := hfits
        exact Or.inl ⟨rfl, e, he, by simpa using hlong⟩

theorem contentOf_eq_fault_iff {text : String} : contentOf shown text = .error (.fault f) ↔
    Yaml.Document.ofText text.toList = .error (.fault f) := by
  unfold contentOf
  split
  · next h => simp [h]
  · next h => simp [h]
  · next h => simp [h]

/-- What makes reading a document end by a fault. -/
inductive Escapes (env : Environment) (files : FileTree) (path : FilePath) : Fault → Prop
  | path : files.entry path = .error .nameTooLong → Escapes env files path .nameTooLong
  | bytes {l : Location} {content : ByteArray} : files.entry path = .ok (l, .file content) →
      String.fromUTF8? content = none → Escapes env files path .notUtf8
  /-- Something in the text is written like a value of its kind and is none. -/
  | scalar {l : Location} {content : ByteArray} {text : String} {f : Fault} :
      files.entry path = .ok (l, .file content) → String.fromUTF8? content = some text →
      Yaml.Document.ofText (Text.unifyLineEnds text.toList) = .error (.fault f) →
      Escapes env files path f
  | sections {directory : Location} {fields : Fields} {f : Fault} :
      documentAt files path = .ok (directory, fields) →
      SectionsEscape env files path.toString directory fields f → Escapes env files path f

theorem documentAt_eq_fault_iff : documentAt files path = .error (.fault f) ↔
    (f = .nameTooLong ∧ files.entry path = .error .nameTooLong) ∨
    ∃ l content, files.entry path = .ok (l, .file content) ∧
      ((f = .notUtf8 ∧ String.fromUTF8? content = none) ∨
      ∃ text, String.fromUTF8? content = some text ∧
        Yaml.Document.ofText (Text.unifyLineEnds text.toList) = .error (.fault f)) := by
  have hread : ∀ content : ByteArray, ∀ l : Location,
      ((Rejection.ofFault (FileTree.decode content) >>= fun text =>
        contentOf path.toString text >>= fun content =>
          (fieldsOf path.toString content).mapError Rejection.config >>= fun fields =>
            pure (l.dropLast, fields)) = .error (.fault f)) ↔
        (f = .notUtf8 ∧ String.fromUTF8? content = none) ∨
        ∃ text, String.fromUTF8? content = some text ∧
          Yaml.Document.ofText (Text.unifyLineEnds text.toList) = .error (.fault f) := by
    intro content l
    simp [bind_eq_error_iff, ofFault_eq_fault_iff, ofFault_eq_ok_iff, FileTree.decode_eq_error_iff,
      FileTree.decode_eq_ok_iff, contentOf_eq_fault_iff, mapError_config_ne_fault, pure, Except.pure]
  rw [documentAt, bind_eq_error_iff, ofFault_eq_fault_iff, FileTree.find?_eq_error_iff]
  simp only [ofFault_eq_ok_iff]
  refine or_congr Iff.rfl ⟨?_, ?_⟩
  · rintro ⟨_ | ⟨l, _ | content⟩, hfound, hfault⟩
    · cases hfault
    · cases hfault
    · exact ⟨l, content, FileTree.find?_eq_some_iff.1 hfound, (hread content l).1 hfault⟩
  · rintro ⟨l, content, hentry, hfault⟩
    exact ⟨_, FileTree.find?_eq_some_iff.2 hentry, (hread content l).2 hfault⟩

/-- **Reading ends by a fault** exactly where something escapes the checks. -/
theorem load_eq_fault_iff :
    load env files (some path) = .error (.fault f) ↔ Escapes env files path f := by
  rw [load_some, bind_eq_error_iff, documentAt_eq_fault_iff]
  simp only [ofFields_eq_fault_iff]
  constructor
  · rintro ((⟨rfl, hentry⟩ | ⟨l, content, hentry, ⟨rfl, hutf8⟩ | ⟨text, htext, hyaml⟩⟩) |
      ⟨⟨directory, fields⟩, hdocument, hsections⟩)
    · exact .path hentry
    · exact .bytes hentry hutf8
    · exact .scalar hentry htext hyaml
    · exact .sections hdocument hsections
  · intro h
    cases h with
    | path hentry => exact Or.inl (Or.inl ⟨rfl, hentry⟩)
    | bytes hentry hutf8 => exact Or.inl (Or.inr ⟨_, _, hentry, Or.inl ⟨rfl, hutf8⟩⟩)
    | scalar hentry htext hyaml =>
      exact Or.inl (Or.inr ⟨_, _, hentry, Or.inr ⟨_, htext, hyaml⟩⟩)
    | sections hdocument hsections => exact Or.inr ⟨_, hdocument, hsections⟩

/-- What is read from a document: its commands are the mapping that it has for them, and its
variables are texts. That its headers are texts is in their type. -/
structure IsRead (files : FileTree) (path : FilePath) (config : Config) : Prop where
  commands : ∃ directory fields, documentAt files path = .ok (directory, fields) ∧
    fields.get? "commands" commandDepth = some (.map config.commands)
  variables_text : ∀ e ∈ config.run.defaults.entries, ∃ text, e.2 = .str text

theorem isRead_of_load (h : load env files (some path) = .ok config) :
    IsRead files path config := by
  obtain ⟨directory, fields, environment, given, hdocument, hholds⟩ := load_eq_ok_iff.1 h
  refine ⟨⟨directory, fields, hdocument, commandsOf_eq_ok_iff.1 hholds.commandsOf_eq⟩, ?_⟩
  intro e he
  rw [hholds.defaults_eq] at he
  obtain ⟨_, -, rfl⟩ := List.mem_map.1 he
  exact ⟨_, rfl⟩

/-- **All ends of reading a document.** It is read, or what is wrong with it is reported, unless
something escapes the checks; then reading ends by that fault. -/
theorem load_outcomes (env : Environment) (files : FileTree) (path : Option FilePath) :
    ((∀ p ∈ path, ∀ f, ¬ Escapes env files p f) →
      (∃ p ∈ path, ∃ config, load env files path = .ok config ∧ IsRead files p config) ∨
        ∃ e, load env files path = .error (.config e)) ∧
    ∀ p ∈ path, ∀ f, Escapes env files p f → load env files path = .error (.fault f) := by
  constructor
  · intro hnone
    cases path with
    | none => exact Or.inr ⟨_, rfl⟩
    | some p =>
      cases hload : load env files (some p) with
      | ok config => exact Or.inl ⟨p, rfl, config, rfl, isRead_of_load hload⟩
      | error rejection =>
        cases rejection with
        | config e => exact Or.inr ⟨e, rfl⟩
        | fault f => exact absurd (load_eq_fault_iff.1 hload) (hnone p rfl f)
  · rintro p hp f hescapes
    obtain rfl : path = some p := hp
    exact load_eq_fault_iff.2 hescapes

/-! ## A document and bytes that are none -/

/-- A directory with one file in it. -/
def filesWith (content : ByteArray) : FileTree :=
  FileTree.put ⟨.empty, [], ["home"]⟩ ["yamlcmd.yaml"] (.file content)

def documentPath : FilePath := .ofString "yamlcmd.yaml"

theorem entry_filesWith (content : ByteArray) :
    (filesWith content).entry documentPath = .ok (["yamlcmd.yaml"], .file content) := rfl

/-- A byte that stands in no text escapes. -/
theorem escapes_byte : Escapes .empty (filesWith ⟨#[0xff]⟩) documentPath .notUtf8 :=
  .bytes (entry_filesWith _) rfl

/-- A document without commands is read, and a byte that stands in no text is not. -/
theorem load_outcomes_byte :
    (∃ config, load .empty (filesWith "commands: \x7b\x7d".toUTF8) (some documentPath) =
      .ok config ∧ IsRead (filesWith "commands: \x7b\x7d".toUTF8) documentPath config) ∧
    Escapes .empty (filesWith ⟨#[0xff]⟩) documentPath .notUtf8 ∧
    load .empty (filesWith ⟨#[0xff]⟩) (some documentPath) = .error (.fault .notUtf8) := by
  have hread : (load .empty (filesWith "commands: \x7b\x7d".toUTF8)
      (some documentPath)).toOption.isSome := by decide +kernel
  obtain ⟨config, hconfig⟩ := Option.isSome_iff_exists.1 hread
  have hload := eq_ok_of_toOption hconfig
  have hnone : ∀ p ∈ some documentPath, ∀ f,
      ¬ Escapes .empty (filesWith "commands: \x7b\x7d".toUTF8) p f := by
    rintro p ⟨⟩ f hescapes
    rw [load_eq_fault_iff.2 hescapes] at hload
    cases hload
  refine ⟨?_, escapes_byte, (load_outcomes _ _ _).2 _ rfl _ escapes_byte⟩
  rcases (load_outcomes _ _ _).1 hnone with ⟨p, ⟨⟩, hfound⟩ | ⟨e, he⟩
  · exact hfound
  · rw [hload] at he
    cases he

/-- Bytes that are no text are no error with a report. -/
theorem load_ne_reported : ¬ ∀ (env : Environment) (files : FileTree) (path : Option FilePath),
    (∃ config, load env files path = .ok config) ∨
      ∃ e, load env files path = .error (.config e) := by
  intro hreported
  have hfault := load_eq_fault_iff.2 escapes_byte
  rcases hreported .empty (filesWith ⟨#[0xff]⟩) (some documentPath) with
    ⟨config, hload⟩ | ⟨e, hload⟩
  · rw [hfault] at hload
    cases hload
  · rw [hfault] at hload
    cases hload

end Config

end CommandBook
