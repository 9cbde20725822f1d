import CommandBook.Proofs.Template.Environment

/-!
# The wording of values

A value is worded as literals with references between them. Where no literal has a dollar sign and
none goes on with the identifier in front of it, the references that are found in the value are
those of its wording: a brace is closed by the first one behind it, whatever else stands there, and
an identifier ends where its literal begins. So each reference is replaced on its own, by the
variable or by its own characters, and the literals stay.

## Main statements

* `pieces_toList_value` — the pieces of a value are the parts of its wording
* `exists_wording_iff` — which values have a wording
* `expand_wording` — a value is expanded reference by reference
-/

namespace CommandBook.Template

variable {literal rest cs : List Char} {env : Environment}

/-! ## References as they are written -/

/-- A reference to a variable in one of the two ways to write it. -/
inductive Mention where
  | identifier (name : List Char)
  | braced (name : List Char)
deriving DecidableEq, Repr

namespace Mention

/-- The variable. -/
def name : Mention → String
  | identifier name => String.ofList name
  | braced name => String.ofList name

/-- The characters of the reference. -/
def written : Mention → List Char
  | identifier name => '$' :: name
  | braced name => '$' :: '\x7b' :: name ++ ['\x7d']

/-- The reference can be written in front of the literal. -/
def StandsBefore (literal : List Char) : Mention → Prop
  | identifier name => IsIdentifier name ∧ EndsIdentifier literal
  | braced name => IsBraced name

instance (literal : List Char) : DecidablePred (StandsBefore literal)
  | identifier name => inferInstanceAs (Decidable (IsIdentifier name ∧ EndsIdentifier literal))
  | braced name => inferInstanceAs (Decidable (IsBraced name))

/-- What is found where the reference is written. -/
def ref : Mention → VariableRef
  | identifier name => identifierRef name
  | braced name => bracedRef name

@[simp] theorem name_ref (m : Mention) : m.ref.name = m.name := by
  cases m <;> rfl

@[simp] theorem written_ref (m : Mention) : m.ref.written = m.written := by
  cases m <;> rfl

end Mention

/-- What a reference stands for: the value of the variable, be it empty, or the characters of the
reference where the variable is not set. -/
inductive StandsFor (env : Environment) : Mention → List Char → Prop
  | set {m : Mention} {v : String} (h : env.get? m.name = some v) : StandsFor env m v.toList
  | unset {m : Mention} (h : env.get? m.name = none) : StandsFor env m m.written

theorem standsFor_iff {m : Mention} {text : List Char} :
    StandsFor env m text ↔ text = expandRef env m.ref := by
  rw [expandRef, Mention.name_ref, Mention.written_ref]
  constructor
  · rintro (h | h) <;> rw [h]
  · rintro rfl
    cases h : env.get? m.name with
    | some v => exact .set h
    | none => exact .unset h

/-! ## Literals and references in front of a text -/

theorem variableRef_of_ne_dollar {c : Char} (h : c ≠ '$') (cs : List Char) :
    variableRef (c :: cs) = none := by
  rw [Option.eq_none_iff_forall_ne_some]
  rintro ⟨r, length⟩ hsome
  rcases variableRef_eq_some_iff.1 hsome with ⟨_, _, _, _, heq, _⟩ | ⟨_, _, _, heq, _⟩
  all_goals exact h (List.cons.inj heq).1

/-- A literal without dollar signs stays as it is. -/
theorem pieces_literal_append (h : '$' ∉ cs) (rest : List Char) :
    pieces variableRef (cs ++ rest) = cs.map .char ++ pieces variableRef rest := by
  induction cs with
  | nil => rfl
  | cons c cs ih =>
    rw [List.mem_cons, not_or] at h
    rw [List.cons_append, pieces_literal (variableRef_of_ne_dollar (Ne.symm h.1) _), ih h.2]
    rfl

/-- A reference in front of its literal is found as it is written. -/
theorem pieces_written_append {m : Mention} (h : m.StandsBefore literal)
    (hrest : EndsIdentifier rest) :
    pieces variableRef (m.written ++ (literal ++ rest)) =
      .ref m.ref :: pieces variableRef (literal ++ rest) := by
  cases m with
  | identifier name => exact pieces_identifier h.1 (h.2.append hrest)
  | braced name =>
    have hpieces := pieces_braced h (literal ++ rest)
    rwa [List.append_cons, ← List.cons_append, ← List.cons_append] at hpieces

/-! ## Wordings -/

/-- A wording of a value: the literal in front, and each reference with the literal behind it. -/
structure Wording where
  first : List Char
  later : List (Mention × List Char)
deriving DecidableEq, Repr

namespace Wording

/-- The literals in their places, with a text for each reference between them. -/
def write (text : Mention → List Char) (w : Wording) : List Char :=
  w.first ++ w.later.flatMap fun r => text r.1 ++ r.2

/-- The value that has this wording. -/
def value (w : Wording) : String := String.ofList (w.write Mention.written)

/-- Parts that stay apart when they are written: the literals have no dollar signs, and none goes on
with the identifier in front of it. -/
structure StaysApart (w : Wording) : Prop where
  first : '$' ∉ w.first
  standsBefore : ∀ r ∈ w.later, r.1.StandsBefore r.2
  literal : ∀ r ∈ w.later, '$' ∉ r.2

instance (w : Wording) : Decidable w.StaysApart :=
  decidable_of_iff ('$' ∉ w.first ∧ (∀ r ∈ w.later, r.1.StandsBefore r.2) ∧
    ∀ r ∈ w.later, '$' ∉ r.2) ⟨fun h => ⟨h.1, h.2.1, h.2.2⟩, fun h => ⟨h.1, h.2, h.3⟩⟩

variable {w : Wording}

theorem endsIdentifier_later (later : List (Mention × List Char)) :
    EndsIdentifier (later.flatMap fun r => r.1.written ++ r.2) := by
  cases later with
  | nil => simp [EndsIdentifier]
  | cons r later =>
    obtain ⟨m, literal⟩ := r
    cases m <;> exact endsIdentifier_dollar _

theorem pieces_later : ∀ {later : List (Mention × List Char)},
    (∀ r ∈ later, r.1.StandsBefore r.2) → (∀ r ∈ later, '$' ∉ r.2) →
      pieces variableRef (later.flatMap fun r => r.1.written ++ r.2) =
        later.flatMap fun r => .ref r.1.ref :: r.2.map .char
  | [], _, _ => rfl
  | r :: later, hbefore, hliteral => by
    have hlater := pieces_later (fun r hr => hbefore r (List.mem_cons_of_mem _ hr))
      fun r hr => hliteral r (List.mem_cons_of_mem _ hr)
    -- an identifier ends at its literal, or where that is empty at the next dollar sign
    rw [List.flatMap_cons, List.append_assoc,
      pieces_written_append (hbefore r List.mem_cons_self) (endsIdentifier_later later),
      pieces_literal_append (hliteral r List.mem_cons_self), hlater, List.flatMap_cons,
      List.cons_append]

/-- **The pieces of a value** are the parts of its wording. -/
theorem pieces_toList_value (h : w.StaysApart) :
    pieces variableRef w.value.toList =
      w.first.map .char ++ w.later.flatMap fun r => .ref r.1.ref :: r.2.map .char := by
  rw [value, String.toList_ofList, write, pieces_literal_append h.first,
    pieces_later h.standsBefore h.literal]

theorem mem_references_value (h : w.StaysApart) {r : VariableRef} :
    r ∈ references variableRef w.value.toList ↔ ∃ p ∈ w.later, p.1.ref = r := by
  rw [mem_references_iff, pieces_toList_value h]
  simp [eq_comm]

theorem fill_pieces_value (h : w.StaysApart) (text : VariableRef → List Char) :
    fill text (pieces variableRef w.value.toList) = w.write fun m => text m.ref := by
  rw [pieces_toList_value h, fill_append, fill_map_char, fill_flatMap_ref text Mention.ref]
  rfl

/-- A reference in front of a wording. -/
theorem StaysApart.cons {m : Mention} (hm : m.StandsBefore w.first) (hw : w.StaysApart) :
    StaysApart ⟨[], (m, w.first) :: w.later⟩ where
  first := List.not_mem_nil
  standsBefore := List.forall_mem_cons.2 ⟨hm, hw.standsBefore⟩
  literal := List.forall_mem_cons.2 ⟨hw.first, hw.literal⟩

theorem write_cons (text : Mention → List Char) (m : Mention) (w : Wording) :
    write text ⟨[], (m, w.first) :: w.later⟩ = text m ++ w.write text := by
  simp [write]

end Wording

/-! ## Which values have a wording -/

/-- A text in which no dollar sign is a literal has a wording. -/
theorem exists_write_written (h : .char '$' ∉ pieces variableRef cs) :
    ∃ w : Wording, w.StaysApart ∧ w.write Mention.written = cs := by
  induction cs using variableRef_induction with
  | nil => exact ⟨⟨[], []⟩, ⟨by simp, by simp, by simp⟩, rfl⟩
  | literal c cs hform ih =>
    rw [pieces_literal hform, List.mem_cons, not_or] at h
    obtain ⟨w, hw, rfl⟩ := ih h.2
    have hc : '$' ≠ c := fun heq => h.1 (congrArg Piece.char heq)
    refine ⟨⟨c :: w.first, w.later⟩, ⟨?_, hw.standsBefore, hw.literal⟩, rfl⟩
    simpa [hc] using hw.first
  | identifier name cs hname hcs ih =>
    rw [pieces_identifier hname hcs, List.mem_cons, not_or] at h
    obtain ⟨w, hw, rfl⟩ := ih h.2
    have hbefore : (Mention.identifier name).StandsBefore w.first := ⟨hname, hcs.of_append⟩
    exact ⟨_, hw.cons hbefore, Wording.write_cons _ _ w⟩
  | braced name cs hname ih =>
    rw [pieces_braced hname, List.mem_cons, not_or] at h
    obtain ⟨w, hw, rfl⟩ := ih h.2
    have hbefore : (Mention.braced name).StandsBefore w.first := hname
    refine ⟨_, hw.cons hbefore, ?_⟩
    rw [Wording.write_cons]
    simp [Mention.written]

/-- **A value has a wording** if every dollar sign that is not inside a reference begins one. -/
theorem exists_wording_iff {value : String} : (∃ w : Wording, w.StaysApart ∧ w.value = value) ↔
    .char '$' ∉ pieces variableRef value.toList := by
  constructor
  · rintro ⟨w, hw, rfl⟩ hmem
    rw [Wording.pieces_toList_value hw, List.mem_append, List.mem_flatMap] at hmem
    rcases hmem with hfirst | ⟨r, hr, hlater⟩
    · exact hw.first (by simpa using hfirst)
    · exact hw.literal r hr (by simpa using hlater)
  · intro h
    obtain ⟨w, hw, hwrite⟩ := exists_write_written h
    exact ⟨w, hw, by rw [Wording.value, hwrite, String.ofList_toList]⟩

/-! ## Reference by reference -/

/-- **A value is expanded reference by reference.** The literals of its wording stay, and each
reference becomes what it stands for, which is not looked at again. So the value stays as it is
where none of its references is to a variable that is set, and other variables do not matter. -/
theorem expand_wording {w : Wording} (hw : w.StaysApart) (env : Environment) :
    (∃ text : Mention → List Char, (∀ m, StandsFor env m (text m)) ∧
      expand env w.value = String.ofList (w.write text)) ∧
    ((∀ r ∈ w.later, env.get? r.1.name = none) → expand env w.value = w.value) ∧
    ∀ other : Environment, (∀ r ∈ w.later, other.get? r.1.name = env.get? r.1.name) →
      expand other w.value = expand env w.value := by
  refine ⟨⟨fun m => expandRef env m.ref, fun m => standsFor_iff.2 rfl, ?_⟩, ?_, ?_⟩
  · rw [expand, Wording.fill_pieces_value hw]
  · intro hunset
    refine expand_of_unset fun r hr => ?_
    obtain ⟨p, hp, rfl⟩ := (Wording.mem_references_value hw).1 hr
    rw [Mention.name_ref, hunset p hp]
  · intro other hagree
    refine expand_congr fun r hr => ?_
    obtain ⟨p, hp, rfl⟩ := (Wording.mem_references_value hw).1 hr
    rw [Mention.name_ref, hagree p hp]

/-- The wording of `p${A}$B-$E${no{$x}.` -/
def mixed : Wording :=
  ⟨['p'], [(.braced ['A'], []), (.identifier ['B'], ['-']), (.identifier ['E'], []),
    (.braced ['n', 'o', '\x7b', '$', 'x'], ['.'])]⟩

/-- A value that looks like a reference, an empty one, and a reference that is not set; a variable
with the name that stands in its braces does not matter. -/
theorem expand_wording_mixed :
    let env : Environment := .ofList [("A", "$B"), ("B", "b"), ("E", "")]
    mixed.StaysApart ∧ mixed.value = "p$\x7bA\x7d$B-$E$\x7bno\x7b$x\x7d." ∧
      expand env mixed.value = "p$Bb-$\x7bno\x7b$x\x7d." ∧
      expand (env.insert "x" "y") mixed.value = "p$Bb-$\x7bno\x7b$x\x7d." ∧
      expand .empty mixed.value = mixed.value := by
  intro env
  have happart : mixed.StaysApart := by decide
  obtain ⟨⟨text, htext, hexpand⟩, -, hother⟩ := expand_wording happart env
  obtain ⟨-, hunset, -⟩ := expand_wording happart .empty
  have htexts : text = fun m => expandRef env m.ref := funext fun m => standsFor_iff.1 (htext m)
  have hfilled : String.ofList (mixed.write text) = "p$Bb-$\x7bno\x7b$x\x7d." := by
    rw [htexts]
    decide
  rw [hfilled] at hexpand
  have hagree : ∀ r ∈ mixed.later, (env.insert "x" "y").get? r.1.name = env.get? r.1.name := by
    decide
  exact ⟨happart, by decide, hexpand, (hother _ hagree).trans hexpand, hunset (by decide)⟩

end CommandBook.Template
