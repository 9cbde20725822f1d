import CommandBook.Config
import CommandBook.Proofs.Command.Definition

/-!
# The sections of an accepted document

A document is read in two steps: its fields are found at a path, and then its sections are read
from them. An accepted document has passed every check on the way, and each part of the result is
that of its own section. The sections of texts have one form: keys are written as texts, of keys
with one text the last value counts, and then values are written as texts.

## Main definitions

* `Config.documentAt` — the fields of the document at a path
* `Config.HasTexts`, `Config.Holds` — what an accepted document holds

## Main statements

* `Config.sectionEntries_eq_ok_iff` — the entries of a section
* `Config.load_eq_ok_iff` — accepted documents
-/

namespace CommandBook

variable {env : Environment} {files : FileTree} {path : FilePath} {shown name : String}
  {directory : Location} {config : Config}

namespace Config

/-- The value of an entry of a section, which is empty where none is given. -/
def blanked (v : Value) : Value := if v.isNull then .str "" else v

/-- **The entries of a section**: keys as texts, and what is null is empty. -/
theorem sectionEntries_eq_ok_iff {entries : List (Leaf × Value)} {out : OrderedMap String Value} :
    sectionEntries entries .empty = .ok out ↔
      ∃ row, named entries = .ok row ∧ out = (OrderedMap.ofList row).mapValues blanked := by
  simp only [OrderedMap.mapValues_ofList]
  have hrow : ∀ acc, sectionEntries entries acc = .ok out ↔ ∃ row, named entries = .ok row ∧
      out = (row.map fun e => (e.1, blanked e.2)).foldl (fun acc e => acc.insert e.1 e.2) acc := by
    induction entries with
    | nil =>
      intro acc
      constructor
      · rintro ⟨⟩
        exact ⟨[], rfl, rfl⟩
      · rintro ⟨_, ⟨⟩, rfl⟩
        rfl
    | cons e entries ih =>
      intro acc
      obtain ⟨k, v⟩ := e
      simp only [sectionEntries, named_cons_eq_ok_iff, bind_eq_ok_iff, ih]
      constructor
      · rintro ⟨key, hkey, row, hnamed, rfl⟩
        exact ⟨_, ⟨key, row, hkey, hnamed, rfl⟩, rfl⟩
      · rintro ⟨_, ⟨key, row, hkey, hnamed, rfl⟩, rfl⟩
        exact ⟨key, hkey, row, hnamed, rfl⟩
  exact hrow .empty

/-- The texts of a row of values, none of which is too long to write. -/
theorem textsOf_eq_ok_iff {row : List (String × Value)} {texts : List (String × String)} :
    textsOf row = .ok texts ↔
      (∀ e ∈ row, e.2.fits) ∧ texts = row.map fun e => (e.1, e.2.text) := by
  induction row generalizing texts with
  | nil =>
    rw [textsOf]
    constructor
    · rintro ⟨⟩
      exact ⟨fun _ he => absurd he List.not_mem_nil, rfl⟩
    · rintro ⟨-, rfl⟩
      rfl
  | cons e row ih =>
    obtain ⟨k, v⟩ := e
    simp only [textsOf, bind_eq_ok_iff, text?_eq_ok_iff, ih, List.forall_mem_cons, List.map_cons]
    constructor
    · rintro ⟨text, ⟨hfits, rfl⟩, rest, ⟨hrest, rfl⟩, hout⟩
      exact ⟨⟨hfits, hrest⟩, (Except.ok.inj hout).symm⟩
    · rintro ⟨⟨hfits, hrest⟩, rfl⟩
      exact ⟨_, ⟨hfits, rfl⟩, _, ⟨hrest, rfl⟩, rfl⟩

/-! ## Fields -/

/-- The document at a path: the directory in which it lies, and its fields. -/
def documentAt (files : FileTree) (path : FilePath) : Except Rejection (Location × Fields) := do
  match ← Rejection.ofFault (files.find? path) with
  | some (l, .file content) =>
    let text ← Rejection.ofFault (FileTree.decode content)
    let content ← contentOf path.toString text
    let fields ← (fieldsOf path.toString content).mapError .config
    return (l.dropLast, fields)
  | _ => throw (.config (.fileMissing path.toString))

/-- A document is read from the fields that are found at its path. -/
theorem load_some (env : Environment) (files : FileTree) (path : FilePath) :
    load env files (some path) = documentAt files path >>= fun document =>
      ofFields path.toString document.1 env files document.2 := by
  rw [load, documentAt, bind_assoc]
  congr 1
  funext found
  rcases found with _ | ⟨l, _ | content⟩
  · rfl
  · rfl
  · simp only [bind_assoc, pure_bind]

/-! ## Sections -/

/-- A section of texts: a mapping whose values can be written, with texts for its keys. -/
def HasTexts (shown name : String) (fields : Fields) (texts : OrderedMap String String) : Prop :=
  ∃ content, sectionOf shown name fields = .ok content ∧ (∀ e ∈ content.entries, e.2.fits) ∧
    texts = content.mapValues Value.text

/-- A section with a mapping. -/
theorem HasTexts.exists_named {fields : Fields} {texts : OrderedMap String String}
    {entries : List (Leaf × Value)} (h : HasTexts shown name fields texts)
    (hfield : fields.get? name sectionDepth = some (.map entries)) :
    ∃ row, named entries = .ok row ∧
      texts = (OrderedMap.ofList row).mapValues fun v => (blanked v).text := by
  obtain ⟨content, hcontent, -, rfl⟩ := h
  have hentries : sectionEntries entries .empty = .ok content := by
    rw [sectionOf, hfield] at hcontent
    cases entries with
    | nil => exact congrArg Except.ok (Except.ok.inj hcontent)
    | cons e entries => exact mapError_eq_ok_iff.1 hcontent
  obtain ⟨row, hrow, rfl⟩ := sectionEntries_eq_ok_iff.1 hentries
  exact ⟨row, hrow, OrderedMap.ext (List.map_map ..)⟩

theorem HasTexts.eq_empty {fields : Fields} {texts : OrderedMap String String}
    (h : HasTexts shown name fields texts) (hfield : fields.get? name sectionDepth = none) :
    texts = .empty := by
  obtain ⟨content, hcontent, -, rfl⟩ := h
  rw [sectionOf, hfield] at hcontent
  obtain rfl := Except.ok.inj hcontent
  rfl

/-- What an accepted document holds, section by section. -/
structure Holds (env : Environment) (files : FileTree) (shown : String) (directory : Location)
    (fields : Fields) (environment : Environment) (given : OrderedMap String String)
    (config : Config) : Prop where
  directory_eq : config.directory = directory
  commandsOf_eq : commandsOf shown fields = .ok config.commands
  environmentOf_eq : environmentOf env files directory fields = .ok environment
  hasVariables : HasTexts shown "variables" fields given
  /-- Environment references are replaced in variables, and only there. -/
  defaults_eq : config.run.defaults =
    given.mapValues fun text => .str (Template.expand environment text)
  hasHeaders : HasTexts shown "headers" fields config.run.headers
  timeoutOf_eq : timeoutOf shown fields = .ok config.run.timeout

theorem ofList_expanded (environment : Environment) (content : OrderedMap String Value) :
    OrderedMap.ofList ((content.entries.map fun e => (e.1, e.2.text)).map fun e =>
      (e.1, Value.str (Template.expand environment e.2))) =
      (content.mapValues Value.text).mapValues fun text =>
        .str (Template.expand environment text) :=
  OrderedMap.ofList_map_entries (fun text => Value.str (Template.expand environment text))
    (content.mapValues Value.text)

theorem ofFields_eq_ok_iff {fields : Fields} :
    ofFields shown directory env files fields = .ok config ↔
      ∃ environment given,
        Holds env files shown directory fields environment given config := by
  simp only [ofFields, bind_eq_ok_iff, mapError_eq_ok_iff, Rejection.ofFault, textsOf_eq_ok_iff]
  constructor
  · rintro ⟨commands, hcommands, environment, henvironment, content, hcontent, shared, hshared,
      timeout, htimeout, _, ⟨hcontentFits, rfl⟩, _, ⟨hsharedFits, rfl⟩, hconfig⟩
    obtain rfl := Except.ok.inj hconfig
    refine ⟨environment, content.mapValues Value.text, rfl, hcommands, henvironment,
      ⟨content, hcontent, hcontentFits, rfl⟩, ofList_expanded environment content,
      ⟨shared, hshared, hsharedFits, OrderedMap.ofList_map_entries _ _⟩, htimeout⟩
  · rintro ⟨environment, _, rfl, hcommands, henvironment,
      ⟨content, hcontent, hcontentFits, rfl⟩, hdefaults, ⟨shared, hshared, hsharedFits, hheaders⟩,
      htimeout⟩
    refine ⟨_, hcommands, _, henvironment, content, hcontent, shared, hshared, _, htimeout, _,
      ⟨hcontentFits, rfl⟩, _, ⟨hsharedFits, rfl⟩, ?_⟩
    rw [ofList_expanded, ← hdefaults, OrderedMap.ofList_map_entries, ← hheaders]
    rfl

/-- **Accepted documents** are those with fields that hold what is read from them. -/
theorem load_eq_ok_iff : load env files (some path) = .ok config ↔
    ∃ directory fields environment given, documentAt files path = .ok (directory, fields) ∧
      Holds env files path.toString directory fields environment given config := by
  rw [load_some, bind_eq_ok_iff]
  simp only [ofFields_eq_ok_iff]
  constructor
  · rintro ⟨⟨directory, fields⟩, hdocument, environment, given, hholds⟩
    exact ⟨directory, fields, environment, given, hdocument, hholds⟩
  · rintro ⟨directory, fields, environment, given, hdocument, hholds⟩
    exact ⟨(directory, fields), hdocument, environment, given, hholds⟩

end Config

end CommandBook
