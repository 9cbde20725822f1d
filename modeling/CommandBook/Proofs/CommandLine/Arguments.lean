import CommandBook.CommandLine.Place
import CommandBook.Proofs.Effect
import Mathlib.Data.List.Basic
import Mathlib.Data.List.Find

/-!
# The words that arguments take

Arguments with different folded names do not meet on the command line: each has the slot that it
fills, so the words go to the names in order. Then words are too few if a mandatory argument is left
without one, and too many if one is left over.

## Main statements

* `Slots.bind_fill_ofName`, `Slots.bind_fill_ofName_of_lt` — enough words, and too few
* `Place.read_of_bare` — what a place makes of words that are no options
-/

namespace CommandBook

/-- A word that begins with no hyphen. -/
def IsBareWord (w : String) : Prop := w.toList.head? ≠ some '-'

instance (w : String) : Decidable (IsBareWord w) := inferInstanceAs (Decidable (_ ≠ _))

theorem IsBareWord.isOptionWord {w : String} (h : IsBareWord w) : isOptionWord w = false := by
  unfold CommandBook.isOptionWord
  split
  · next heq => exact absurd (by rw [heq]; rfl) h
  · rfl

namespace Parameter

/-- Arguments that do not meet on the command line: no two have one folded name, and none has the
name that the program keeps for what it hands to a command itself. -/
structure AreApart (ps : List Parameter) : Prop where
  nodup : (ps.map folded).Nodup
  reserved : Place.reservedName ∉ ps.map folded

end Parameter

theorem nodup_map_fst_zip {α β : Type} : ∀ {l : List α} (l' : List β), l.Nodup →
    ((l.zip l').map Prod.fst).Nodup
  | [], _, _ => List.nodup_nil
  | _ :: _, [], _ => List.nodup_nil
  | a :: l, b :: l', h => by
    rw [List.nodup_cons] at h
    rw [List.zip_cons_cons, List.map_cons, List.nodup_cons]
    refine ⟨fun ha => ?_, nodup_map_fst_zip l' h.2⟩
    obtain ⟨e, he, rfl⟩ := List.mem_map.1 ha
    exact h.1 (List.of_mem_zip he).1

/-- A number of words that is neither too small nor too large for the arguments of a command. -/
def CommandName.Takes (n : CommandName) (words : List String) : Prop :=
  n.mandatory.length ≤ words.length ∧ words.length ≤ n.mandatory.length + n.optional.length

instance (n : CommandName) (words : List String) : Decidable (n.Takes words) :=
  inferInstanceAs (Decidable (_ ∧ _))

namespace Slots

variable {slots : Slots}

/-! ## Slots with different folded names -/

/-- The last slot with the folded name of a slot is that slot. -/
theorem last?_of_mem {s : Parameter × Option String}
    (h : (slots.map (·.1.folded)).Nodup) (hs : s ∈ slots) : slots.last? s.1.folded = some s := by
  induction slots with
  | nil => exact absurd hs List.not_mem_nil
  | cons t rest ih =>
    rw [List.map_cons, List.nodup_cons] at h
    rw [last?, List.filter_cons]
    rcases List.mem_cons.1 hs with rfl | hs
    -- no later slot has the name of the first one
    · have hrest : rest.filter (·.1.folded == s.1.folded) = [] := by
        rw [List.filter_eq_nil_iff]
        intro u hu heq
        exact h.1 (beq_iff_eq.1 heq ▸ List.mem_map_of_mem hu)
      rw [hrest, if_pos (by simp)]
      rfl
    · have hmem : s.1.folded ∈ rest.map (·.1.folded) := List.mem_map.2 ⟨s, hs, rfl⟩
      have hne : t.1.folded ≠ s.1.folded := fun heq => h.1 (heq.symm ▸ hmem)
      rw [if_neg (by simpa using hne)]
      exact ih h.2 hs

/-- A slot that is mandatory and has no word. -/
def lacks (s : Parameter × Option String) : Bool := s.1.required && s.2.isNone

/-- What each slot gives on its own. -/
def bindings (slots : Slots) : List (String × String) :=
  slots.filterMap fun s => s.2.map (s.1.variableName, ·)

/-- **Slots that do not meet** give what each of them gives. -/
theorem bind_of_nodup (h : (slots.map (·.1.folded)).Nodup) :
    slots.bind = match slots.find? lacks with
      | some s => .error (.argumentMissing s.1.label)
      | none => .ok (.ofList slots.bindings) := by
  have hlacks : slots.find? (fun s => s.1.required && (slots.value? s.1.folded).isNone) =
      slots.find? lacks := by
    refine List.find?_congr fun s hs => ?_
    rw [value?, last?_of_mem h hs]
    rfl
  have hbindings : slots.filterMap (fun s => slots.binding? s.1) = slots.bindings := by
    refine List.filterMap_congr fun s hs => ?_
    rw [binding?, last?_of_mem h hs]
    rfl
  rw [bind, hlacks]
  cases slots.find? lacks with
  | some s => rfl
  | none => exact congrArg (fun b => Except.ok (OrderedMap.ofList b)) hbindings

/-! ## Filling -/

theorem map_fst_fill (ps : List Parameter) (ws : List String) : (fill ps ws).map Prod.fst = ps := by
  induction ps generalizing ws with
  | nil => rfl
  | cons p ps ih => cases ws <;> simp [fill, ih]

theorem map_folded_fill (ps : List Parameter) (ws : List String) :
    (fill ps ws).map (·.1.folded) = ps.map Parameter.folded := by
  have h := congrArg (List.map Parameter.folded) (map_fst_fill ps ws)
  rwa [List.map_map] at h

/-- The words go to the names in order. -/
theorem bindings_fill (ps : List Parameter) (ws : List String) :
    (fill ps ws).bindings = (ps.map Parameter.variableName).zip ws := by
  induction ps generalizing ws with
  | nil => rfl
  | cons p ps ih =>
    cases ws with
    | nil =>
      have hrest := ih []
      rw [List.zip_nil_right] at hrest
      simpa [fill, bindings] using hrest
    | cons w ws =>
      have hrest := ih ws
      simpa [fill, bindings] using hrest

/-- The arguments that are left without a word are those behind the last word. -/
theorem find?_lacks_fill (ps : List Parameter) (ws : List String) :
    (fill ps ws).find? lacks = ((ps.drop ws.length).find? (·.required)).map (·, none) := by
  induction ps generalizing ws with
  | nil => cases ws <;> rfl
  | cons p ps ih =>
    cases ws with
    | nil =>
      have hrest := ih []
      rw [List.length_nil, List.drop_zero] at hrest
      cases hp : p.required <;> simp [fill, lacks, hp, hrest]
    | cons w ws =>
      have hrest := ih ws
      simp [fill, lacks, hrest]

variable {n : CommandName} {words : List String}

theorem map_variableName_ofName (n : CommandName) :
    (Parameter.ofName n).map Parameter.variableName = n.arguments := by
  simp [Parameter.ofName, CommandName.arguments, Function.comp_def]

/-- **With enough words** each name, mandatory ones first, has the word at its place. -/
theorem bind_fill_ofName (hn : ((Parameter.ofName n).map Parameter.folded).Nodup)
    (h : n.mandatory.length ≤ words.length) :
    (fill (Parameter.ofName n) words).bind = .ok (.ofList (n.arguments.zip words)) := by
  -- only optional arguments are left without a word
  have hnone : ((Parameter.ofName n).drop words.length).find? (·.required) = none := by
    rw [List.find?_eq_none, Parameter.ofName, List.drop_append, List.drop_of_length_le (by simpa),
      List.nil_append]
    intro p hp
    obtain ⟨name, -, rfl⟩ := List.mem_map.1 (List.mem_of_mem_drop hp)
    simp
  rw [bind_of_nodup (by rwa [map_folded_fill]), find?_lacks_fill, hnone, bindings_fill,
    map_variableName_ofName]
  rfl

/-- **With too few words** a mandatory argument is missing. -/
theorem bind_fill_ofName_of_lt (hn : ((Parameter.ofName n).map Parameter.folded).Nodup)
    (h : words.length < n.mandatory.length) :
    ∃ label, (fill (Parameter.ofName n) words).bind = .error (.argumentMissing label) := by
  -- the first argument without a word is mandatory
  have hsome : (((Parameter.ofName n).drop words.length).find? (·.required)).isSome := by
    rw [List.find?_isSome]
    have hlt : words.length < (Parameter.ofName n).length := by
      simp [Parameter.ofName]
      omega
    refine ⟨(Parameter.ofName n)[words.length], ?_, ?_⟩
    · rw [List.drop_eq_getElem_cons hlt]
      exact List.mem_cons_self
    · simp [Parameter.ofName, h]
  obtain ⟨p, hp⟩ := Option.isSome_iff_exists.1 hsome
  refine ⟨p.label, ?_⟩
  rw [bind_of_nodup (by rwa [map_folded_fill]), find?_lacks_fill, hp]
  rfl

end Slots

/-! ## Places -/

namespace Place

variable {p : Place} {words : List String}

theorem parameters_ofEntry (path : String) (e : CommandEntry) :
    (ofEntry path e).parameters = Parameter.ofName e.name := rfl

theorem parameters_ofNode {node : CommandNode} {e : CommandEntry} (h : node.own = some e)
    (path : String) : (ofNode path node).parameters = Parameter.ofName e.name := by
  rw [ofNode, h]
  rfl

/-- **What a place makes of words that are no options**: it fills its arguments with them. -/
theorem read_of_bare {ps : List Parameter} (hp : p.parameters = ps) (mixed : Bool)
    (h : ∀ w ∈ words, IsBareWord w) :
    p.read mixed words = (p.check (Slots.fill ps words).bind).bind fun values =>
      .ok { values, rest := words.drop ps.length } := by
  subst hp
  rw [read, readWords_plain p.options mixed fun w hw => (h w hw).isOptionWord]
  rfl

/-- A command takes a fitting number of words, in the order of its arguments. -/
theorem read_of_takes {n : CommandName} (hp : p.parameters = Parameter.ofName n)
    (hn : ((Parameter.ofName n).map Parameter.folded).Nodup) (mixed : Bool)
    (h : ∀ w ∈ words, IsBareWord w) (htakes : n.Takes words) :
    p.read mixed words = .ok { values := .ofList (n.arguments.zip words), rest := [] } := by
  have hlength : (Parameter.ofName n).length = n.mandatory.length + n.optional.length := by
    simp [Parameter.ofName]
  rw [read_of_bare hp mixed h, Slots.bind_fill_ofName hn htakes.1,
    List.drop_of_length_le (by rw [hlength]; exact htakes.2)]
  rfl

theorem handOver_of_not_mem (h : Place.reservedName ∉ p.parameters.map Parameter.folded) :
    p.handOver = .ok () := by
  have hany : p.parameters.any (·.folded == reservedName) = false := by
    rw [List.any_eq_false]
    intro q hq heq
    exact h (beq_iff_eq.1 heq ▸ List.mem_map_of_mem hq)
  rw [handOver, hany]
  rfl

end Place

end CommandBook
