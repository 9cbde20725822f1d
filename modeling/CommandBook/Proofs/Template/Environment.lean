import CommandBook.Template.Environment

/-!
# Values with environment references

A reference is an identifier behind a dollar sign, or any text in braces there. Which references a
value has is settled from left to right, so a dollar sign begins a new reference unless a brace has
been opened in front of it that is closed behind it. A reference to a variable that is not set keeps
its own characters, and the value in front of it and behind it is expanded on its own.

## Main statements

* `variableRef_eq_some_iff` — the reference at the start of a text
* `pieces_append_dollar` — a text in front of a dollar sign
* `expand_unset` — a reference to a variable that is not set
* `expand_congr`, `expand_of_unset` — what the environment matters to a value
-/

namespace CommandBook.Template

variable {name front back rest cs : List Char} {env : Environment}

/-! ## The reference at the start of a text -/

/-- A letter or an underscore, and behind it letters, digits and underscores. -/
structure IsIdentifier (name : List Char) : Prop where
  ne_nil : name ≠ []
  isIdentifierStart : ∀ c ∈ name.head?, isIdentifierStart c
  isIdentifierPart : ∀ c ∈ name, isIdentifierPart c

/-- The text goes on with no identifier. -/
def EndsIdentifier (rest : List Char) : Prop := ∀ c ∈ rest.head?, isIdentifierPart c = false

/-- What stands in braces. -/
structure IsBraced (name : List Char) : Prop where
  ne_nil : name ≠ []
  brace_not_mem : '\x7d' ∉ name

instance (name : List Char) : Decidable (IsIdentifier name) :=
  decidable_of_iff (name ≠ [] ∧ name.head?.all isIdentifierStart ∧ name.all isIdentifierPart) <| by
    rw [Option.all_eq_true, List.all_eq_true]
    exact ⟨fun h => ⟨h.1, h.2.1, h.2.2⟩, fun h => ⟨h.1, h.2, h.3⟩⟩

instance (rest : List Char) : Decidable (EndsIdentifier rest) :=
  decidable_of_iff (rest.head?.all (!isIdentifierPart ·)) <| by
    simp [EndsIdentifier, Option.all_eq_true]

instance (name : List Char) : Decidable (IsBraced name) :=
  decidable_of_iff (name ≠ [] ∧ '\x7d' ∉ name) ⟨fun h => ⟨h.1, h.2⟩, fun h => ⟨h.1, h.2⟩⟩

/-- A reference to an identifier, as it is written. -/
def identifierRef (name : List Char) : VariableRef := ⟨String.ofList name, '$' :: name⟩

/-- A reference to a name in braces, as it is written. -/
def bracedRef (name : List Char) : VariableRef :=
  ⟨String.ofList name, '$' :: '\x7b' :: name ++ ['\x7d']⟩

theorem isIdentifierPart_of_isIdentifierStart {c : Char} (h : isIdentifierStart c) :
    isIdentifierPart c := by
  rw [isIdentifierStart, Bool.or_eq_true] at h
  rw [isIdentifierPart, Char.isAlphanum, Bool.or_eq_true, Bool.or_eq_true]
  exact h.imp_left .inl

theorem variableRef_identifier (hname : IsIdentifier name) (hrest : EndsIdentifier rest) :
    variableRef ('$' :: (name ++ rest)) = some (identifierRef name, name.length + 1) := by
  obtain ⟨c, cs, rfl⟩ := List.exists_cons_of_ne_nil hname.ne_nil
  have hstart : isIdentifierStart c := hname.isIdentifierStart c rfl
  have hcs : (cs ++ rest).takeWhile isIdentifierPart = cs :=
    takeWhile_append_of_ends (fun d hd => hname.isIdentifierPart d (List.mem_cons_of_mem _ hd))
      hrest
  have hbrace : c ≠ '\x7b' := by
    rintro rfl
    exact absurd hstart (by decide)
  simp only [variableRef, List.cons_append]
  simp [hstart, hcs, identifierRef]

theorem variableRef_braced (hname : IsBraced name) (rest : List Char) :
    variableRef ('$' :: '\x7b' :: (name ++ '\x7d' :: rest)) =
      some (bracedRef name, name.length + 3) := by
  have htake : (name ++ '\x7d' :: rest).takeWhile (· != '\x7d') = name := by
    refine takeWhile_append_of_ends (fun c hc => ?_) fun c hc => ?_
    · have hne : c ≠ '\x7d' := fun heq => hname.brace_not_mem (heq ▸ hc)
      simpa using hne
    · obtain rfl : '\x7d' = c := Option.some.inj hc
      rfl
  simp [variableRef, htake, hname.ne_nil, bracedRef]

/-- Text in braces goes up to the first closing one. -/
theorem exists_isBraced_of_closed {text : List Char}
    (hname : text.takeWhile (· != '\x7d') ≠ [])
    (hclosed : text.drop (text.takeWhile (· != '\x7d')).length ≠ []) :
    IsBraced (text.takeWhile (· != '\x7d')) ∧
      ∃ rest, text = text.takeWhile (· != '\x7d') ++ '\x7d' :: rest := by
  have hsplit := List.takeWhile_append_dropWhile (p := (· != '\x7d')) (l := text)
  have hdrop : (text.takeWhile (· != '\x7d') ++ text.dropWhile (· != '\x7d')).drop
      (text.takeWhile (· != '\x7d')).length = text.dropWhile (· != '\x7d') := List.drop_left
  rw [hsplit] at hdrop
  rw [hdrop] at hclosed
  obtain ⟨c, rest, hbehind⟩ := List.exists_cons_of_ne_nil hclosed
  have hbrace := eq_false_of_mem_head?_dropWhile (· != '\x7d') text c (by rw [hbehind]; rfl)
  obtain rfl : c = '\x7d' := by simpa using hbrace
  refine ⟨⟨hname, fun hmem => ?_⟩, rest, ?_⟩
  · simpa using List.all_eq_true.1 (List.all_takeWhile (p := (· != '\x7d'))) _ hmem
  · rw [← hbehind, hsplit]

/-- **The reference at the start of a text**: an identifier, or a name in braces. -/
theorem variableRef_eq_some_iff {r : VariableRef} {length : Nat} :
    variableRef cs = some (r, length) ↔
      (∃ name rest, IsIdentifier name ∧ EndsIdentifier rest ∧ cs = '$' :: (name ++ rest) ∧
        r = identifierRef name ∧ length = name.length + 1) ∨
      ∃ name rest, IsBraced name ∧ cs = '$' :: '\x7b' :: (name ++ '\x7d' :: rest) ∧
        r = bracedRef name ∧ length = name.length + 3 := by
  constructor
  · intro h
    unfold variableRef at h
    split at h
    · next text =>
      simp only [Option.ite_none_left_eq_some, Bool.not_eq_true, Bool.or_eq_false_iff,
        List.isEmpty_eq_false_iff, Option.some.injEq, Prod.mk.injEq] at h
      obtain ⟨⟨hname, hclosed⟩, rfl, rfl⟩ := h
      obtain ⟨hbraced, rest, htext⟩ := exists_isBraced_of_closed hname hclosed
      refine .inr ⟨_, rest, hbraced, ?_, rfl, rfl⟩
      rw [← htext]
    · next c text hbrace =>
      simp only [Option.ite_none_right_eq_some, Option.some.injEq, Prod.mk.injEq] at h
      obtain ⟨hstart, rfl, rfl⟩ := h
      refine .inl ⟨c :: text.takeWhile isIdentifierPart, text.dropWhile isIdentifierPart,
        ⟨List.cons_ne_nil _ _, ?_, ?_⟩, eq_false_of_mem_head?_dropWhile _ _, ?_, rfl, rfl⟩
      · intro d hd
        obtain rfl : c = d := Option.some.inj hd
        exact hstart
      · intro d hd
        rcases List.mem_cons.1 hd with rfl | hd
        · exact isIdentifierPart_of_isIdentifierStart hstart
        · exact List.all_eq_true.1 List.all_takeWhile d hd
      · rw [List.cons_append, List.takeWhile_append_dropWhile]
    · cases h
  · rintro (⟨name, rest, hname, hrest, rfl, rfl, rfl⟩ | ⟨name, rest, hname, rfl, rfl, rfl⟩)
    · exact variableRef_identifier hname hrest
    · exact variableRef_braced hname rest

/-! ## The pieces of a value from left to right -/

theorem pieces_literal {c : Char} (h : variableRef (c :: rest) = none) :
    pieces variableRef (c :: rest) = .char c :: pieces variableRef rest := by
  rw [pieces, piecesFrom, h]
  rfl

theorem pieces_identifier (hname : IsIdentifier name) (hrest : EndsIdentifier rest) :
    pieces variableRef ('$' :: (name ++ rest)) =
      .ref (identifierRef name) :: pieces variableRef rest := by
  rw [pieces_cons_ref (variableRef_identifier hname hrest), Nat.add_sub_cancel, List.drop_left]

theorem pieces_braced (hname : IsBraced name) (rest : List Char) :
    pieces variableRef ('$' :: '\x7b' :: (name ++ '\x7d' :: rest)) =
      .ref (bracedRef name) :: pieces variableRef rest := by
  have hlen : (name ++ ['\x7d']).length = name.length + 1 := by simp
  rw [pieces_cons_ref (variableRef_braced hname rest), Nat.add_sub_assoc (by decide),
    List.drop_succ_cons, List.append_cons, ← hlen, List.drop_left]

/-- Values piece by piece: characters that stand for themselves, and the two kinds of references. -/
theorem variableRef_induction {P : List Char → Prop} (nil : P [])
    (literal : ∀ c rest, variableRef (c :: rest) = none → P rest → P (c :: rest))
    (identifier : ∀ name rest, IsIdentifier name → EndsIdentifier rest → P rest →
      P ('$' :: (name ++ rest)))
    (braced : ∀ name rest, IsBraced name → P rest → P ('$' :: '\x7b' :: (name ++ '\x7d' :: rest))) :
    ∀ cs, P cs
  | [] => nil
  | c :: cs => by
    cases hform : variableRef (c :: cs) with
    | none => exact literal c cs hform (variableRef_induction nil literal identifier braced cs)
    | some found =>
      obtain ⟨r, length⟩ := found
      rcases variableRef_eq_some_iff.1 hform with
        ⟨name, rest, hname, hrest, heq, -, -⟩ | ⟨name, rest, hname, heq, -, -⟩
      · have hlen := congrArg List.length heq
        rw [heq]
        exact identifier name rest hname hrest
          (variableRef_induction nil literal identifier braced rest)
      · have hlen := congrArg List.length heq
        rw [heq]
        exact braced name rest hname (variableRef_induction nil literal identifier braced rest)
termination_by cs => cs.length
decreasing_by
  · simp
  all_goals
    simp only [List.length_cons, List.length_append] at hlen ⊢
    omega

/-! ## Values in two parts -/

/-- No brace is opened in the first text and closed in the second one. -/
def IsApart (front back : List Char) : Prop :=
  ∀ before name, front = before ++ '$' :: '\x7b' :: name → '\x7d' ∉ name → '\x7d' ∉ back

theorem IsApart.of_append_left (cs : List Char) (h : IsApart (cs ++ front) back) :
    IsApart front back := by
  rintro before name rfl hname
  exact h (cs ++ before) name (by simp) hname

theorem EndsIdentifier.of_append (h : EndsIdentifier (rest ++ back)) : EndsIdentifier rest := by
  intro c hc
  refine h c ?_
  cases rest with
  | nil => cases hc
  | cons d rest => exact hc

theorem EndsIdentifier.append (h : EndsIdentifier rest) (hback : EndsIdentifier back) :
    EndsIdentifier (rest ++ back) := by
  cases rest with
  | nil => exact hback
  | cons c rest => exact h

/-- A dollar sign goes on with no identifier. -/
theorem endsIdentifier_dollar (back : List Char) : EndsIdentifier ('$' :: back) := by
  intro c hc
  obtain rfl : '$' = c := Option.some.inj hc
  rfl

theorem IsIdentifier.dollar_not_mem (h : IsIdentifier name) : '$' ∉ name := by
  intro hmem
  exact absurd (h.isIdentifierPart _ hmem) (by decide)

/-- A character that stands for itself does so in front of a dollar sign as well. -/
theorem variableRef_append_dollar {c : Char} (h : variableRef (c :: cs) = none)
    (happart : IsApart (c :: cs) ('$' :: back)) :
    variableRef (c :: (cs ++ '$' :: back)) = none := by
  rw [Option.eq_none_iff_forall_ne_some]
  rintro ⟨r, length⟩ hsome
  refine absurd h (Option.isSome_iff_ne_none.1 ?_)
  rcases variableRef_eq_some_iff.1 hsome with
    ⟨name, rest, hname, hrest, heq, -, -⟩ | ⟨name, rest, hname, heq, -, -⟩
  · -- the identifier ends in front of the dollar sign
    obtain ⟨rfl, hrow⟩ := List.cons.inj heq
    rcases List.append_eq_append_iff.1 hrow with ⟨inside, rfl, hbehind⟩ | ⟨inside, rfl, rfl⟩
    · cases inside with
      | nil =>
        rw [List.append_nil] at hname
        have hends : EndsIdentifier [] := fun _ hd => by cases hd
        have hnone := variableRef_identifier hname hends
        rw [List.append_nil] at hnone
        rw [hnone]
        rfl
      | cons d inside =>
        obtain rfl : '$' = d := (List.cons.inj hbehind).1
        exact absurd (List.mem_append_right _ List.mem_cons_self) hname.dollar_not_mem
    · rw [variableRef_identifier hname hrest.of_append]
      rfl
  · -- the brace is closed in front of the dollar sign
    obtain ⟨rfl, hrow⟩ := List.cons.inj heq
    cases cs with
    | nil => cases hrow
    | cons d cs =>
      obtain ⟨rfl, hbraced⟩ := List.cons.inj hrow
      rcases List.append_eq_append_iff.1 hbraced with
        ⟨inside, rfl, hbehind⟩ | ⟨inside, rfl, hinside⟩
      · have hclosed := happart [] cs rfl fun h => hname.brace_not_mem (List.mem_append_left _ h)
        rw [hbehind] at hclosed
        exact absurd (List.mem_append_right _ List.mem_cons_self) hclosed
      · cases inside with
        | nil => cases hinside
        | cons d inside =>
          obtain rfl : '\x7d' = d := (List.cons.inj hinside).1
          rw [variableRef_braced hname inside]
          rfl

/-- **The pieces of a value in front of a dollar sign and from there on.** -/
theorem pieces_append_dollar (happart : IsApart front ('$' :: back)) :
    pieces variableRef (front ++ '$' :: back) =
      pieces variableRef front ++ pieces variableRef ('$' :: back) := by
  induction front using variableRef_induction with
  | nil => rfl
  | literal c cs hform ih =>
    have hrest := ih (happart.of_append_left [c])
    rw [List.cons_append, pieces_literal (variableRef_append_dollar hform happart),
      pieces_literal hform, hrest, List.cons_append]
  | identifier name cs hname hcs ih =>
    have hrest := ih (happart.of_append_left ('$' :: name))
    rw [List.cons_append, List.append_assoc,
      pieces_identifier hname (hcs.append (endsIdentifier_dollar back)),
      pieces_identifier hname hcs, hrest, List.cons_append]
  | braced name cs hname ih =>
    have hbraced : IsApart ('$' :: '\x7b' :: (name ++ ['\x7d']) ++ cs) ('$' :: back) := by
      simpa using happart
    have hrest := ih hbraced.of_append_left
    rw [List.cons_append, List.cons_append, List.append_assoc, List.cons_append,
      pieces_braced hname, pieces_braced hname, hrest, List.cons_append]

/-- **A reference to a variable that is not set** stays as it is written, and the value in front of
it and behind it is expanded on its own. -/
theorem expand_unset {s y t : String} (hy : IsIdentifier y.toList) (ht : EndsIdentifier t.toList)
    (hunset : env.get? y = none) (happart : IsApart s.toList ("$" ++ y ++ t).toList) :
    expand env (s ++ "$" ++ y ++ t) = expand env s ++ "$" ++ y ++ expand env t := by
  have hbehind : ("$" ++ y ++ t).toList = '$' :: (y.toList ++ t.toList) := by simp
  have hrow : (s ++ "$" ++ y ++ t).toList = s.toList ++ '$' :: (y.toList ++ t.toList) := by simp
  rw [hbehind] at happart
  have hwritten : expandRef env (identifierRef y.toList) = '$' :: y.toList := by
    simp [expandRef, identifierRef, hunset]
  have hfill : fill (expandRef env) (.ref (identifierRef y.toList) :: pieces variableRef t.toList) =
      '$' :: y.toList ++ fill (expandRef env) (pieces variableRef t.toList) :=
    congrArg (· ++ fill (expandRef env) (pieces variableRef t.toList)) hwritten
  rw [expand, hrow, pieces_append_dollar happart, pieces_identifier hy ht, fill_append, hfill]
  simp [expand, String.append_assoc]

/-! ## What the environment matters to a value -/

section Environment
variable {other : Environment} {value : String}

/-- A text whose references stay as they are written stays as it is. -/
theorem fill_written (cs : List Char) :
    fill VariableRef.written (pieces variableRef cs) = cs := by
  induction cs using variableRef_induction with
  | nil => rfl
  | literal c cs hform ih =>
    rw [pieces_literal hform]
    exact congrArg (c :: ·) ih
  | identifier name cs hname hcs ih =>
    rw [pieces_identifier hname hcs, fill_ref_cons, ih]
    rfl
  | braced name cs hname ih =>
    rw [pieces_braced hname, fill_ref_cons, ih]
    simp [bracedRef]

/-- **Only the variables that a value refers to** matter to it. -/
theorem expand_congr
    (h : ∀ r ∈ references variableRef value.toList, env.get? r.name = other.get? r.name) :
    expand env value = expand other value := by
  refine congrArg String.ofList (fill_congr fun r hr => ?_)
  rw [expandRef, expandRef, h r hr]

/-- **A value that refers to no variable that is set** stays as it is. -/
theorem expand_of_unset (h : ∀ r ∈ references variableRef value.toList, env.get? r.name = none) :
    expand env value = value := by
  have hwritten : ∀ r ∈ references variableRef value.toList, expandRef env r = r.written := by
    intro r hr
    rw [expandRef, h r hr]
  rw [expand, fill_congr hwritten, fill_written, String.ofList_toList]

end Environment

end CommandBook.Template
