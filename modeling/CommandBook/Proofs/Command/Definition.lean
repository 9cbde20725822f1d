import CommandBook.Command.Definition
import CommandBook.Proofs.Effect

/-!
# What an accepted definition holds

Each part of a definition is read from its own field, whatever the other fields hold. Mappings have
one form: keys and values are written as texts, and of keys with one text the last value counts.

## Main definitions

* `named` — the entries of a mapping under the texts of their keys
* `CommandDefinition.Holds` — what an accepted definition holds

## Main statements

* `CommandDefinition.textEntries_eq_ok_iff` — the entries of a field
* `CommandDefinition.ofFields_eq_ok_iff` — accepted definitions
* `CommandDefinition.Holds.congr` — definitions of entries that differ in their headers only
-/

namespace CommandBook

/-! ## Mappings with texts for keys -/

/-- The entries of a mapping under the texts of their keys, unless a key is too long to write. -/
def named (entries : List (Leaf × Value)) : Except Fault (List (String × Value)) :=
  entries.mapM fun e => do return (← e.1.text?, e.2)

theorem named_cons_eq_ok_iff {e : Leaf × Value} {rest : List (Leaf × Value)}
    {row : List (String × Value)} : named (e :: rest) = .ok row ↔
      ∃ key row', e.1.text? = .ok key ∧ named rest = .ok row' ∧ row = (key, e.2) :: row' := by
  rw [named, List.mapM_cons]
  simp only [bind_eq_ok_iff, pure, Except.pure, Except.ok.injEq]
  constructor
  · rintro ⟨_, ⟨key, hkey, rfl⟩, row', hrow, rfl⟩
    exact ⟨key, row', hkey, hrow, rfl⟩
  · rintro ⟨key, row', hkey, hrow, rfl⟩
    exact ⟨_, ⟨key, hkey, rfl⟩, row', hrow, rfl⟩

theorem text?_eq_ok_iff {v : Value} {text : String} :
    v.text? = .ok text ↔ v.fits ∧ v.text = text := by
  unfold Value.text?
  split <;> simp [*]

namespace CommandDefinition

/-- **The entries of a command's field**: keys and values as texts. -/
theorem textEntries_eq_ok_iff {entries : List (Leaf × Value)}
    {out : OrderedMap String String} : textEntries entries .empty = .ok out ↔
      ∃ row, named entries = .ok row ∧ (∀ e ∈ row, e.2.fits) ∧
        out = (OrderedMap.ofList row).mapValues Value.text := by
  simp only [OrderedMap.mapValues_ofList]
  have hrow : ∀ acc, textEntries entries acc = .ok out ↔ ∃ row, named entries = .ok row ∧
      (∀ e ∈ row, e.2.fits) ∧
        out = (row.map fun e => (e.1, e.2.text)).foldl (fun acc e => acc.insert e.1 e.2) acc := by
    induction entries with
    | nil =>
      intro acc
      constructor
      · rintro ⟨⟩
        exact ⟨[], rfl, fun _ he => absurd he List.not_mem_nil, rfl⟩
      · rintro ⟨_, ⟨⟩, -, rfl⟩
        rfl
    | cons e entries ih =>
      intro acc
      obtain ⟨k, v⟩ := e
      simp only [textEntries, named_cons_eq_ok_iff, bind_eq_ok_iff, text?_eq_ok_iff, ih]
      constructor
      · rintro ⟨key, hkey, text, ⟨hfits, rfl⟩, row, hnamed, hrest, rfl⟩
        exact ⟨_, ⟨key, row, hkey, hnamed, rfl⟩, List.forall_mem_cons.2 ⟨hfits, hrest⟩, rfl⟩
      · rintro ⟨_, ⟨key, row, hkey, hnamed, rfl⟩, hfits, rfl⟩
        obtain ⟨hfirst, hrest⟩ := List.forall_mem_cons.1 hfits
        exact ⟨key, hkey, _, ⟨hfirst, rfl⟩, row, hnamed, hrest, rfl⟩
  exact hrow .empty

/-! ## Fields -/

variable {name : String} {fields fields' : List (Leaf × Value)}
  {definition definition' : CommandDefinition}

/-- What an accepted definition holds, field by field. -/
structure Holds (name : String) (fields : List (Leaf × Value)) (definition : CommandDefinition) :
    Prop where
  name_eq : definition.name = name
  endpoint : ∃ given, textField name fields "endpoint" = .ok given ∧
    given.mapM (checkEndpoint name) = .ok definition.endpoint
  response : textField name fields "response" = .ok definition.response
  execute : textField name fields "execute" = .ok definition.execute
  description : textField name fields "description" = .ok definition.description
  set : ∃ entries, mappingField name fields "set" = .ok entries ∧
    textEntries entries .empty = .ok definition.set
  headers : ∃ entries, mappingField name fields "headers" = .ok entries ∧
    textEntries entries .empty = .ok definition.headers
  body_eq : definition.body = (Value.field? "body" fields).getD .null

/-- **Accepted definitions** are those that hold what is read from their fields. -/
theorem ofFields_eq_ok_iff :
    ofFields name fields = .ok definition ↔ Holds name fields definition := by
  simp only [ofFields, bind_eq_ok_iff, mapError_eq_ok_iff, Rejection.ofFault]
  constructor
  · rintro ⟨given, hgiven, response, hresponse, execute, hexecute, description, hdescription,
      endpoint, hendpoint, set, hset, headers, hheaders, setTexts, hsetTexts, headerTexts,
      hheaderTexts, hdefinition⟩
    obtain rfl := Except.ok.inj hdefinition
    exact ⟨rfl, ⟨given, hgiven, hendpoint⟩, hresponse, hexecute, hdescription,
      ⟨set, hset, hsetTexts⟩, ⟨headers, hheaders, hheaderTexts⟩, rfl⟩
  · rintro ⟨rfl, ⟨given, hgiven, hendpoint⟩, hresponse, hexecute, hdescription,
      ⟨set, hset, hsetTexts⟩, ⟨headers, hheaders, hheaderTexts⟩, hbody⟩
    refine ⟨given, hgiven, _, hresponse, _, hexecute, _, hdescription, _, hendpoint, set, hset,
      headers, hheaders, _, hsetTexts, _, hheaderTexts, ?_⟩
    rw [← hbody]
    rfl

theorem textField_congr {key : String} (h : Value.field? key fields' = Value.field? key fields) :
    textField name fields' key = textField name fields key := by
  rw [textField, textField, h]

theorem mappingField_congr {key : String}
    (h : Value.field? key fields' = Value.field? key fields) :
    mappingField name fields' key = mappingField name fields key := by
  rw [mappingField, mappingField, h]

/-- **Entries that differ in their headers only** give definitions that differ in them only. -/
theorem Holds.congr (h : Holds name fields definition) (h' : Holds name fields' definition')
    (hfields : ∀ key, key ≠ "headers" → Value.field? key fields' = Value.field? key fields) :
    definition' = { definition with headers := definition'.headers } := by
  have htext : ∀ {key : String} {a a' : Option String}, key ≠ "headers" →
      textField name fields key = .ok a → textField name fields' key = .ok a' → a' = a := by
    intro key a a' hkey ha ha'
    rw [textField_congr (hfields key hkey), ha] at ha'
    exact (Except.ok.inj ha').symm
  have hendpoint : definition'.endpoint = definition.endpoint := by
    obtain ⟨given, hgiven, hendpoint⟩ := h.endpoint
    obtain ⟨given', hgiven', hendpoint'⟩ := h'.endpoint
    rw [htext (by decide) hgiven hgiven', hendpoint] at hendpoint'
    exact (Except.ok.inj hendpoint').symm
  have hset : definition'.set = definition.set := by
    obtain ⟨entries, hentries, hset⟩ := h.set
    obtain ⟨entries', hentries', hset'⟩ := h'.set
    rw [mappingField_congr (hfields "set" (by decide)), hentries] at hentries'
    rw [← Except.ok.inj hentries', hset] at hset'
    exact (Except.ok.inj hset').symm
  have hbody : definition'.body = definition.body := by
    rw [h.body_eq, h'.body_eq, hfields "body" (by decide)]
  have hname := h'.name_eq.trans h.name_eq.symm
  have hresponse := htext (by decide) h.response h'.response
  have hexecute := htext (by decide) h.execute h'.execute
  have hdescription := htext (by decide) h.description h'.description
  cases definition
  cases definition'
  simp only [CommandDefinition.mk.injEq]
  exact ⟨hname, hendpoint, hbody, hresponse, hset, hexecute, hdescription, trivial⟩

/-- A mapping in the field of headers. -/
theorem Holds.exists_named {entries : List (Leaf × Value)} (h : Holds name fields definition)
    (hfield : Value.field? "headers" fields = some (.map entries)) :
    ∃ row, named entries = .ok row ∧
      definition.headers = (OrderedMap.ofList row).mapValues Value.text := by
  obtain ⟨given, hgiven, htexts⟩ := h.headers
  rw [mappingField, hfield] at hgiven
  obtain rfl := Except.ok.inj hgiven
  obtain ⟨row, hrow, -, hheaders⟩ := textEntries_eq_ok_iff.1 htexts
  exact ⟨row, hrow, hheaders⟩

theorem Holds.headers_of_absent (h : Holds name fields definition)
    (hfield : Value.field? "headers" fields = none) : definition.headers = .empty := by
  obtain ⟨given, hgiven, htexts⟩ := h.headers
  rw [mappingField, hfield] at hgiven
  obtain rfl := Except.ok.inj hgiven
  exact (Except.ok.inj htexts).symm

end CommandDefinition

end CommandBook
