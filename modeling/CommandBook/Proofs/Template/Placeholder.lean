import CommandBook.Template.Placeholder

/-!
# Texts with placeholders

Read from left to right, a text is made of three kinds of pieces: characters other than the dollar
sign, dollar signs without a name behind them, and placeholders. All but the placeholders stay as
they are. The pieces of a text in two parts are those of the parts, unless the cut between them
goes through a placeholder. So a text is resolved part by part: what has been put in is not read
again, and it takes in nothing of the text around it.

## Main statements

* `pieces_induction` — texts piece by piece
* `pieces_append`, `resolve_append` — a text in two parts
* `resolves_iff` — the laws of resolving, which no other function has
* `references_eq_nil_iff`, `resolve_of_references_eq_nil` — texts without placeholders
-/

namespace CommandBook.Template

/-! ## The pieces of a text from left to right -/

/-- The text goes on with no name. -/
def EndsName (rest : List Char) : Prop := ∀ c ∈ rest.head?, isNameChar c = false

/-- A row of name characters, one at least. -/
structure IsName (name : List Char) : Prop where
  ne_nil : name ≠ []
  isNameChar : ∀ c ∈ name, isNameChar c

theorem pieces_cons {c : Char} (h : c ≠ '$') (rest : List Char) :
    pieces placeholder (c :: rest) = .char c :: pieces placeholder rest := by
  have hform : placeholder (c :: rest) = none := by
    unfold placeholder
    split
    · next heq => exact absurd (List.cons.inj heq).1 h
    · rfl
  rw [pieces, piecesFrom, hform]
  rfl

/-- A dollar sign without a name behind it is literal. -/
theorem pieces_dollar {rest : List Char} (hrest : EndsName rest) :
    pieces placeholder ('$' :: rest) = .char '$' :: pieces placeholder rest := by
  have hform : placeholder ('$' :: rest) = none := by
    have hname := takeWhile_append_of_ends (fun c hc => absurd hc List.not_mem_nil) hrest
    rw [List.nil_append] at hname
    simp [placeholder, hname]
  rw [pieces, piecesFrom, hform]
  rfl

/-- A dollar sign and a name are one reference. -/
theorem pieces_name {name rest : List Char} (hname : IsName name) (hrest : EndsName rest) :
    pieces placeholder ('$' :: name ++ rest) =
      .ref (String.ofList name) :: pieces placeholder rest := by
  have hform : placeholder ('$' :: (name ++ rest)) = some (String.ofList name, name.length + 1) := by
    simp [placeholder, takeWhile_append_of_ends hname.isNameChar hrest, hname.ne_nil]
  rw [List.cons_append, pieces_cons_ref hform]
  simp

/-- What is behind the name at the front of a text goes on with none. -/
theorem endsName_dropWhile (cs : List Char) : EndsName (cs.dropWhile isNameChar) :=
  eq_false_of_mem_head?_dropWhile isNameChar cs

/-- Texts piece by piece: other characters, dollar signs that are literal and references. -/
theorem pieces_induction {P : List Char → Prop} (nil : P [])
    (char : ∀ c rest, c ≠ '$' → P rest → P (c :: rest))
    (dollar : ∀ rest, EndsName rest → P rest → P ('$' :: rest))
    (name : ∀ name rest, IsName name → EndsName rest → P rest → P ('$' :: name ++ rest)) :
    ∀ cs, P cs
  | [] => nil
  | c :: cs => by
    have hlen : (cs.dropWhile isNameChar).length ≤ cs.length :=
      (List.dropWhile_sublist isNameChar).length_le
    have hrest := pieces_induction nil char dollar name (cs.dropWhile isNameChar)
    by_cases hc : c = '$'
    · subst hc
      by_cases hname : cs.takeWhile isNameChar = []
      -- a literal dollar sign takes no more than itself
      · have hcs : cs.dropWhile isNameChar = cs := by
          have happ := List.takeWhile_append_dropWhile (p := isNameChar) (l := cs)
          rwa [hname] at happ
        have hends := endsName_dropWhile cs
        rw [hcs] at hends hrest
        exact dollar cs hends hrest
      · have hall : IsName (cs.takeWhile isNameChar) :=
          ⟨hname, fun c hc => List.all_eq_true.1 List.all_takeWhile c hc⟩
        have happ := name _ _ hall (endsName_dropWhile cs) hrest
        rwa [List.cons_append, List.takeWhile_append_dropWhile] at happ
    · exact char c cs hc (pieces_induction nil char dollar name cs)
termination_by cs => cs.length

section Resolve
variable (scope : Scope)

theorem resolveChars_cons {c : Char} (h : c ≠ '$') (rest : List Char) :
    resolveChars scope (c :: rest) = c :: resolveChars scope rest := by
  rw [resolveChars, pieces_cons h]
  rfl

/-- Text without a dollar sign stays. -/
theorem resolveChars_append (cs : List Char) (h : '$' ∉ cs) (rest : List Char) :
    resolveChars scope (cs ++ rest) = cs ++ resolveChars scope rest := by
  induction cs with
  | nil => rfl
  | cons c cs ih =>
    simp only [List.mem_cons, not_or] at h
    rw [List.cons_append, resolveChars_cons scope (Ne.symm h.1), ih h.2, List.cons_append]

/-- A literal dollar sign and a reference where they stand. -/
theorem resolveChars_dollar {rest : List Char} (h : EndsName rest) :
    resolveChars scope ('$' :: rest) = '$' :: resolveChars scope rest := by
  rw [resolveChars, pieces_dollar h]
  rfl

theorem resolveChars_name {name rest : List Char} (hname : IsName name) (h : EndsName rest) :
    resolveChars scope ('$' :: name ++ rest) =
      substitute scope (String.ofList name) ++ resolveChars scope rest := by
  rw [resolveChars, pieces_name hname h]
  rfl

end Resolve

/-! ## Texts in two parts -/

/-- The cut between two texts goes through a placeholder: the first one ends in a dollar sign and
name characters, if any, and the second one begins with another. -/
def IsCut (front back : List Char) : Prop :=
  ∃ before name c after, front = before ++ '$' :: name ∧ (∀ d ∈ name, isNameChar d) ∧
    back = c :: after ∧ isNameChar c

section Parts
variable {front back cs name : List Char}

theorem not_isCut_of_endsName (h : EndsName back) : ¬IsCut front back := by
  rintro ⟨before, name, c, after, -, -, rfl, hc⟩
  rw [h c rfl] at hc
  cases hc

theorem IsCut.append_left (h : IsCut front back) (cs : List Char) : IsCut (cs ++ front) back := by
  obtain ⟨before, name, c, after, rfl, hrest⟩ := h
  exact ⟨cs ++ before, name, c, after, by simp, hrest⟩

theorem endsName_append (hname : ∀ c ∈ name, isNameChar c) (hcs : EndsName cs)
    (hcut : ¬IsCut ('$' :: name ++ cs) back) : EndsName (cs ++ back) := by
  cases cs with
  | cons d cs => exact hcs
  -- nothing stands between the name and the cut
  | nil =>
    intro c hc
    cases back with
    | nil => cases hc
    | cons d after =>
      obtain rfl : d = c := Option.some.inj hc
      rw [← Bool.not_eq_true]
      exact fun hd => hcut ⟨[], name, d, after, by simp, hname, rfl, hd⟩

/-- **The pieces of a text in two parts** are those of both. -/
theorem pieces_append (hcut : ¬IsCut front back) :
    pieces placeholder (front ++ back) = pieces placeholder front ++ pieces placeholder back := by
  induction front using pieces_induction with
  | nil => rfl
  | char c cs hc ih =>
    have hrest := ih fun h => hcut (h.append_left [c])
    rw [List.cons_append, pieces_cons hc, pieces_cons hc, hrest, List.cons_append]
  | dollar cs hcs ih =>
    have hends : EndsName (cs ++ back) :=
      endsName_append (fun _ hc => absurd hc List.not_mem_nil) hcs hcut
    have hrest := ih fun h => hcut (h.append_left ['$'])
    rw [List.cons_append, pieces_dollar hends, pieces_dollar hcs, hrest, List.cons_append]
  | name name cs hname hcs ih =>
    have hends : EndsName (cs ++ back) := endsName_append hname.isNameChar hcs hcut
    have hrest := ih fun h => hcut (h.append_left ('$' :: name))
    rw [List.append_assoc, pieces_name hname hends, pieces_name hname hcs, hrest, List.cons_append]

theorem references_append_of_not_isCut (hcut : ¬IsCut front back) :
    references placeholder (front ++ back) =
      references placeholder front ++ references placeholder back := by
  rw [references, pieces_append hcut, List.filterMap_append]
  rfl

theorem resolveChars_append_of_not_isCut (scope : Scope) (hcut : ¬IsCut front back) :
    resolveChars scope (front ++ back) = resolveChars scope front ++ resolveChars scope back := by
  rw [resolveChars, pieces_append hcut, fill_append]
  rfl

/-- **A text in two parts is resolved part by part.** -/
theorem resolve_append (scope : Scope) {s t : String} (hcut : ¬IsCut s.toList t.toList) :
    resolve scope (s ++ t) = resolve scope s ++ resolve scope t := by
  rw [resolve, String.toList_append, resolveChars_append_of_not_isCut scope hcut,
    String.ofList_append]
  rfl

end Parts

/-! ## Texts without placeholders -/

section Literal
variable {cs name rest : List Char}

theorem references_cons {c : Char} (hc : c ≠ '$') :
    references placeholder (c :: cs) = references placeholder cs := by
  rw [references, pieces_cons hc]
  rfl

theorem references_dollar (hcs : EndsName cs) :
    references placeholder ('$' :: cs) = references placeholder cs := by
  rw [references, pieces_dollar hcs]
  rfl

theorem references_name (hname : IsName name) (hrest : EndsName rest) :
    references placeholder ('$' :: name ++ rest) =
      String.ofList name :: references placeholder rest := by
  rw [references, pieces_name hname hrest]
  rfl

/-- **A text has no placeholder** if no dollar sign in it has a name character behind it. -/
theorem references_eq_nil_iff : references placeholder cs = [] ↔
    ∀ before c after, cs = before ++ '$' :: c :: after → isNameChar c = false := by
  induction cs using pieces_induction with
  | nil => simp [references, pieces, piecesFrom]
  | char d cs hd ih =>
    rw [references_cons hd, ih]
    constructor
    · intro h before c after heq
      cases before with
      | nil => exact absurd (List.cons.inj heq).1 hd
      | cons e before => exact h before c after (List.cons.inj heq).2
    · rintro h before c after rfl
      exact h (d :: before) c after rfl
  | dollar cs hcs ih =>
    rw [references_dollar hcs, ih]
    constructor
    · intro h before c after heq
      cases before with
      | nil =>
        obtain rfl : cs = c :: after := (List.cons.inj heq).2
        exact hcs c rfl
      | cons e before => exact h before c after (List.cons.inj heq).2
    · rintro h before c after rfl
      exact h ('$' :: before) c after rfl
  | name name cs hname hcs ih =>
    rw [references_name hname hcs]
    obtain ⟨c, name, rfl⟩ := List.exists_cons_of_ne_nil hname.ne_nil
    refine iff_of_false (by simp) fun h => ?_
    have hnot := h [] c (name ++ cs) rfl
    rw [hname.isNameChar c List.mem_cons_self] at hnot
    cases hnot

/-- A text without placeholders stays as it is. -/
theorem resolve_of_references_eq_nil (scope : Scope) {text : String}
    (h : references placeholder text.toList = []) : resolve scope text = text := by
  rw [resolve, resolveChars, pieces_of_references_eq_nil h, fill_map_char, String.ofList_toList]

/-- A text without dollar signs stays as it is. -/
theorem resolve_literal (scope : Scope) {text : String} (h : '$' ∉ text.toList) :
    resolve scope text = text := by
  refine resolve_of_references_eq_nil scope (references_eq_nil_iff.2 ?_)
  intro before c after heq
  exact absurd (heq ▸ List.mem_append_right _ List.mem_cons_self) h

end Literal

/-! ## The laws of resolving -/

theorem resolve_name (scope : Scope) {name : String} (h : IsName name.toList) :
    resolve scope ("$" ++ name) = String.ofList (substitute scope name) := by
  have hends : EndsName [] := fun _ hc => by cases hc
  have hname := resolveChars_name scope h hends
  rw [String.ofList_toList, List.append_nil] at hname
  rw [resolve, String.toList_append]
  exact congrArg String.ofList (hname.trans (List.append_nil _))

/-- A placeholder for a name that has a text. -/
theorem resolve_text {scope : Scope} (name : String) {text : String} (hname : IsName name.toList)
    (htext : scope.get? name = some (.str text)) : resolve scope ("$" ++ name) = text := by
  rw [resolve_name scope hname]
  simp only [substitute, htext]
  by_cases h : text = ""
  · simp [h, Value.holds, Value.str, Leaf.holds]
  · simp [h, Value.holds, Value.str, Leaf.holds, Value.text, Leaf.text]

/-- What it is to put values in the place of placeholders, whatever way they are found. -/
structure Resolves (scope : Scope) (f : String → String) : Prop where
  /-- A text goes part by part, unless the cut goes through a placeholder. -/
  append : ∀ s t : String, ¬IsCut s.toList t.toList → f (s ++ t) = f s ++ f t
  /-- A text without dollar signs stays. -/
  literal : ∀ s : String, '$' ∉ s.toList → f s = s
  /-- A dollar sign without a name behind it stays, and the text around it goes on its own. -/
  dollar : ∀ s t : String, EndsName t.toList → f (s ++ "$" ++ t) = f s ++ "$" ++ f t
  /-- A placeholder alone becomes the text of its value, which is empty where that is empty. -/
  value : ∀ (name : String) (v : Value), IsName name.toList → scope.get? name = some v →
    f ("$" ++ name) = if v.holds then v.text else ""
  /-- A name that the scope does not have stands for nothing. -/
  absent : ∀ name : String, IsName name.toList → scope.get? name = none → f ("$" ++ name) = ""
  /-- What is put in stays as it is, and takes in nothing of the text around it. -/
  between : ∀ s name t : String, IsName name.toList → EndsName t.toList →
    f (s ++ "$" ++ name ++ t) = f s ++ f ("$" ++ name) ++ f t

theorem not_isCut_singleton {c : Char} (hc : c ≠ '$') (cs : List Char) : ¬IsCut [c] cs := by
  rintro ⟨before, name, -, -, heq, -⟩
  cases before with
  | nil => exact hc (List.cons.inj heq).1
  | cons d before => simp at heq

/-- A dollar sign is no name character, so the cut in front of one is free. -/
theorem not_isCut_dollar (front : List Char) (t : String) : ¬IsCut front ("$" ++ t).toList := by
  refine not_isCut_of_endsName fun c hc => ?_
  rw [String.toList_append] at hc
  obtain rfl : '$' = c := Option.some.inj hc
  rfl

theorem resolves_resolve (scope : Scope) : Resolves scope (resolve scope) where
  append _ _ hcut := resolve_append scope hcut
  literal _ hs := resolve_literal scope hs
  dollar s t ht := by
    have hdollar : resolve scope ("$" ++ t) = "$" ++ resolve scope t := by
      rw [resolve, String.toList_append]
      exact (congrArg String.ofList (resolveChars_dollar scope ht)).trans
        (@String.ofList_append ['$'] _)
    rw [String.append_assoc, resolve_append scope (not_isCut_dollar _ t), hdollar,
      String.append_assoc]
  value name v hname hv := by
    rw [resolve_name scope hname]
    simp only [substitute, hv]
    split
    · exact String.ofList_toList
    · rfl
  absent name hname hnone := by
    rw [resolve_name scope hname]
    simp only [substitute, hnone, String.ofList_nil]
  between s name t hname ht := by
    have hbehind : ¬IsCut ("$" ++ name).toList t.toList := not_isCut_of_endsName ht
    have hrest : resolve scope ("$" ++ (name ++ t)) =
        resolve scope ("$" ++ name) ++ resolve scope t := by
      rw [← String.append_assoc, resolve_append scope hbehind]
    rw [String.append_assoc, String.append_assoc, resolve_append scope (not_isCut_dollar _ _),
      hrest, String.append_assoc]

/-- There is no other function with these laws. -/
theorem Resolves.unique {scope : Scope} {f g : String → String} (hf : Resolves scope f)
    (hg : Resolves scope g) : f = g := by
  have hempty : f "" = g "" := by rw [hf.literal "" (by simp), hg.literal "" (by simp)]
  have hchars : ∀ cs : List Char, f (String.ofList cs) = g (String.ofList cs) := by
    intro cs
    induction cs using pieces_induction with
    | nil => exact hempty
    | char c cs hc ih =>
      have hsplit : String.ofList (c :: cs) = String.ofList [c] ++ String.ofList cs := by
        rw [← String.ofList_append, List.singleton_append]
      have hcut : ¬IsCut (String.ofList [c]).toList (String.ofList cs).toList := by
        simpa using not_isCut_singleton hc cs
      have hplain : '$' ∉ (String.ofList [c]).toList := by simpa using Ne.symm hc
      rw [hsplit, hf.append _ _ hcut, hg.append _ _ hcut, hf.literal _ hplain,
        hg.literal _ hplain, ih]
    | dollar cs hcs ih =>
      have hsplit : String.ofList ('$' :: cs) = "" ++ "$" ++ String.ofList cs := by simp
      have hends : EndsName (String.ofList cs).toList := by simpa using hcs
      rw [hsplit, hf.dollar _ _ hends, hg.dollar _ _ hends, hempty, ih]
    | name name cs hname hcs ih =>
      have hsplit : String.ofList ('$' :: name ++ cs) =
          "" ++ "$" ++ String.ofList name ++ String.ofList cs := by
        simp [← String.toList_inj]
      have hname : IsName (String.ofList name).toList := by simpa using hname
      have hends : EndsName (String.ofList cs).toList := by simpa using hcs
      have hvalue : f ("$" ++ String.ofList name) = g ("$" ++ String.ofList name) := by
        cases hget : scope.get? (String.ofList name) with
        | none => rw [hf.absent _ hname hget, hg.absent _ hname hget]
        | some v => rw [hf.value _ v hname hget, hg.value _ v hname hget]
      rw [hsplit, hf.between _ _ _ hname hends, hg.between _ _ _ hname hends, hvalue, hempty, ih]
  funext s
  rw [← String.ofList_toList (s := s)]
  exact hchars s.toList

/-- **Resolving has these laws, and no other function has them.** -/
theorem resolves_iff (scope : Scope) (f : String → String) :
    Resolves scope f ↔ f = resolve scope :=
  ⟨fun hf => hf.unique (resolves_resolve scope), fun hf => hf ▸ resolves_resolve scope⟩

end CommandBook.Template
