import CommandBook.Proofs.Template.Placeholder

/-!
# Resolving twice

A text that has been resolved may hold placeholders again: a value may have one in it, or one comes
about where a value begins like a name and stands right behind a dollar sign. Resolving the text
once more puts values in their place, so it changes nothing where each of them stands for its own
characters, and in particular where there is none.

## Main statements

* `references_append_eq_nil_iff` — where two texts in a row have no placeholder
* `references_resolve_eq_nil_iff` — where a resolved text has none
* `resolve_resolve` — where resolving twice is resolving once
-/

namespace CommandBook.Template

variable {scope : Scope} {cs front back name rest : List Char}

/-! ## Texts in a row -/

/-- **Two texts in a row have no placeholder** if they have none of their own, and none comes about
between them. -/
theorem references_append_eq_nil_iff : references placeholder (front ++ back) = [] ↔
    references placeholder front = [] ∧ references placeholder back = [] ∧
      (front.getLast? = some '$' → EndsName back) := by
  constructor
  · intro h
    rw [references_eq_nil_iff] at h
    refine ⟨?_, ?_, ?_⟩
    · rw [references_eq_nil_iff]
      rintro before c after rfl
      exact h before c (after ++ back) (by simp)
    · rw [references_eq_nil_iff]
      rintro before c after rfl
      exact h (front ++ before) c after (by simp)
    · intro hlast c hc
      obtain ⟨before, rfl⟩ := List.getLast?_eq_some_iff.1 hlast
      obtain ⟨after, rfl⟩ := List.head?_eq_some_iff.1 hc
      exact h before c after (by simp)
  · rintro ⟨hfront, hback, hends⟩
    have hcut : ¬IsCut front back := by
      rintro ⟨before, name, c, after, rfl, hname, rfl, hc⟩
      cases name with
      | nil =>
        have hnot := hends (by simp) c rfl
        rw [hc] at hnot
        cases hnot
      | cons d name =>
        have hnot := references_eq_nil_iff.1 hfront before d name rfl
        rw [hname d List.mem_cons_self] at hnot
        cases hnot
    rw [references_append_of_not_isCut hcut, hfront, hback, List.append_nil]

/-! ## Placeholders in their places -/

/-- Something that holds of each placeholder of a text: of what stands in front of it, and its
name. -/
def AtEach (P : List Char → List Char → Prop) (cs : List Char) : Prop :=
  ∀ s name t, cs = s ++ '$' :: name ++ t → IsName name → EndsName t → P s name

section AtEach
variable {P Q : List Char → List Char → Prop}

theorem atEach_nil : AtEach P [] := fun s name t h => by simp at h

/-- A character that begins no placeholder. -/
theorem atEach_cons {c : Char} (h : c ≠ '$' ∨ EndsName cs) :
    AtEach P (c :: cs) ↔ AtEach (fun s => P (c :: s)) cs := by
  constructor
  · rintro hall s name t rfl hname ht
    exact hall (c :: s) name t rfl hname ht
  · intro hall s name t heq hname ht
    cases s with
    | nil =>
      obtain ⟨rfl, rfl⟩ := List.cons.inj heq
      obtain ⟨d, name, rfl⟩ := List.exists_cons_of_ne_nil hname.ne_nil
      have hnot := h.resolve_left (fun hne => hne rfl) d rfl
      rw [hname.isNameChar d List.mem_cons_self] at hnot
      cases hnot
    | cons d s =>
      obtain ⟨rfl, rfl⟩ := List.cons.inj heq
      exact hall s name t rfl hname ht

/-- A placeholder in front is the first, and all others stand behind it. -/
theorem atEach_name (hname : IsName name) (hrest : EndsName rest) :
    AtEach P ('$' :: name ++ rest) ↔
      P [] name ∧ AtEach (fun s => P ('$' :: name ++ s)) rest := by
  constructor
  · refine fun hall => ⟨hall [] name rest rfl hname hrest, ?_⟩
    rintro s name' t rfl hname' ht
    exact hall ('$' :: name ++ s) name' t (by simp) hname' ht
  · rintro ⟨hfirst, hothers⟩ s name' t heq hname' ht
    cases s with
    | nil =>
      have htail : name ++ rest = name' ++ t := (List.cons.inj heq).2
      have hlongest := congrArg (List.takeWhile isNameChar) htail
      rw [takeWhile_append_of_ends hname.isNameChar hrest,
        takeWhile_append_of_ends hname'.isNameChar ht] at hlongest
      rwa [← hlongest]
    | cons d s =>
      obtain ⟨rfl, htail⟩ := List.cons.inj heq
      have hsplit : name ++ rest = s ++ ('$' :: name' ++ t) := by simpa using htail
      rcases List.append_eq_append_iff.1 hsplit with ⟨s', rfl, hback⟩ | ⟨within, hwithin, hback⟩
      · exact hothers s' name' t (by simpa using hback) hname' ht
      · cases within with
        | nil =>
          obtain rfl : name = s := by simpa using hwithin
          simpa using hothers [] name' t (by simpa using hback.symm) hname' ht
        | cons e within =>
          -- a dollar sign does not stand within a name
          obtain rfl : '$' = e := (List.cons.inj hback).1
          have hdollar := hname.isNameChar '$' (by simp [hwithin])
          exact absurd hdollar (by decide)

/-- What is said of a placeholder may use where the text in front of it ends. -/
theorem AtEach.mono (h : AtEach P cs)
    (himp : ∀ s name, (EndsName cs → EndsName s) → P s name → Q s name) : AtEach Q cs := by
  intro s name t heq hname ht
  refine himp s name (fun hcs => ?_) (h s name t heq hname ht)
  cases s with
  | nil =>
    intro c hc
    cases hc
  | cons c s =>
    rw [heq] at hcs
    exact hcs

theorem atEach_congr (h : ∀ s name, (EndsName cs → EndsName s) → (P s name ↔ Q s name)) :
    AtEach P cs ↔ AtEach Q cs :=
  ⟨fun hall => hall.mono fun s name hs => (h s name hs).1,
    fun hall => hall.mono fun s name hs => (h s name hs).2⟩

end AtEach

/-! ## Resolved texts -/

/-- What is put in for a placeholder makes no new one: it has none in it, and it does not begin like
a name right behind a dollar sign. -/
def PutsNone (scope : Scope) (front name : List Char) : Prop :=
  references placeholder (substitute scope (String.ofList name)) = [] ∧
    (front.getLast? = some '$' → EndsName (substitute scope (String.ofList name)))

theorem references_append_substitute_iff (hfront : references placeholder front = []) :
    references placeholder (front ++ substitute scope (String.ofList name)) = [] ↔
      PutsNone scope front name := by
  rw [references_append_eq_nil_iff, PutsNone]
  exact and_iff_right hfront

/-- A text without placeholders, and a text behind it that is resolved. -/
theorem references_append_resolveChars_eq_nil_iff (hfront : references placeholder front = [])
    (hends : front.getLast? = some '$' → EndsName cs) :
    references placeholder (front ++ resolveChars scope cs) = [] ↔
      AtEach (fun s => PutsNone scope (front ++ resolveChars scope s)) cs := by
  -- what has been read of the text is taken to the text in front
  induction cs using pieces_induction generalizing front with
  | nil => simp [hfront, resolveChars, fill, pieces, piecesFrom, atEach_nil]
  | char c cs hc ih =>
    have hstep : references placeholder (front ++ [c]) = [] := by
      refine references_append_eq_nil_iff.2 ⟨hfront, references_cons hc, fun hlast d hd => ?_⟩
      exact hends hlast d hd
    rw [resolveChars_cons scope hc, List.append_cons, ih hstep fun hlast => by simp [hc] at hlast,
      atEach_cons (Or.inl hc)]
    refine atEach_congr fun s name _ => ?_
    rw [resolveChars_cons scope hc, List.append_cons _ _ (resolveChars scope s)]
  | dollar cs hcs ih =>
    have hstep : references placeholder (front ++ ['$']) = [] := by
      refine references_append_eq_nil_iff.2 ⟨hfront, rfl, fun _ d hd => ?_⟩
      obtain rfl : '$' = d := Option.some.inj hd
      rfl
    rw [resolveChars_dollar scope hcs, List.append_cons, ih hstep fun _ => hcs,
      atEach_cons (Or.inr hcs)]
    refine atEach_congr fun s name hs => ?_
    rw [resolveChars_dollar scope (hs hcs), List.append_cons _ _ (resolveChars scope s)]
  | name name cs hname hcs ih =>
    rw [resolveChars_name scope hname hcs, ← List.append_assoc, atEach_name hname hcs]
    have hfirst : PutsNone scope (front ++ resolveChars scope []) name ↔
        references placeholder (front ++ substitute scope (String.ofList name)) = [] := by
      rw [references_append_substitute_iff hfront]
      exact Iff.of_eq (congrArg (PutsNone scope · name) (List.append_nil front))
    rw [hfirst]
    constructor
    · intro h
      obtain ⟨hstep, -, -⟩ := references_append_eq_nil_iff.1 h
      refine ⟨hstep, ((ih hstep fun _ => hcs).1 h).mono fun s name' hs hputs => ?_⟩
      rwa [resolveChars_name scope hname (hs hcs), ← List.append_assoc]
    · rintro ⟨hstep, hothers⟩
      refine (ih hstep fun _ => hcs).2 (hothers.mono fun s name' hs hputs => ?_)
      rwa [resolveChars_name scope hname (hs hcs), ← List.append_assoc] at hputs

/-- **A resolved text has no placeholder** if each value that has been put in has none, and does not
begin like a name right behind a dollar sign. -/
theorem references_resolve_eq_nil_iff (scope : Scope) (template : String) :
    references placeholder (resolve scope template).toList = [] ↔
      ∀ s name t : String, template = s ++ "$" ++ name ++ t → IsName name.toList →
        EndsName t.toList →
          references placeholder (resolve scope ("$" ++ name)).toList = [] ∧
            ((resolve scope s).toList.getLast? = some '$' →
              EndsName (resolve scope ("$" ++ name)).toList) := by
  have hchars : references placeholder ([] ++ resolveChars scope template.toList) = [] ↔
      AtEach (fun s => PutsNone scope ([] ++ resolveChars scope s)) template.toList :=
    references_append_resolveChars_eq_nil_iff rfl fun h => by cases h
  simp only [List.nil_append] at hchars
  rw [resolve, String.toList_ofList, hchars]
  constructor
  · rintro h s name t rfl hname ht
    have hputs : PutsNone scope (resolveChars scope s.toList) name.toList :=
      h s.toList name.toList t.toList (by simp) hname ht
    rw [PutsNone, String.ofList_toList] at hputs
    rwa [resolve_name scope hname, String.toList_ofList, resolve, String.toList_ofList]
  · intro h s name t heq hname ht
    have hname' : IsName (String.ofList name).toList := by rwa [String.toList_ofList]
    have hputs := h (String.ofList s) (String.ofList name) (String.ofList t)
      (by rw [← String.toList_inj, heq]; simp) hname' (by rwa [String.toList_ofList])
    rwa [resolve_name scope hname', String.toList_ofList, resolve, String.toList_ofList,
      String.toList_ofList] at hputs

/-! ## Resolving once more -/

/-- A text stays if each placeholder in it stands for its own characters. -/
theorem resolveChars_eq_self
    (h : ∀ name ∈ references placeholder cs, substitute scope name = '$' :: name.toList) :
    resolveChars scope cs = cs := by
  induction cs using pieces_induction with
  | nil => rfl
  | char c cs hc ih =>
    rw [references_cons hc] at h
    rw [resolveChars_cons scope hc, ih h]
  | dollar cs hcs ih =>
    rw [references_dollar hcs] at h
    rw [resolveChars_dollar scope hcs, ih h]
  | name name cs hname hcs ih =>
    rw [references_name hname hcs, List.forall_mem_cons, String.toList_ofList] at h
    rw [resolveChars_name scope hname hcs, h.1, ih h.2]

theorem isName_of_mem_references {n : String} (h : n ∈ references placeholder cs) :
    IsName n.toList := by
  induction cs using pieces_induction with
  | nil => cases h
  | char c cs hc ih => exact ih (by rwa [references_cons hc] at h)
  | dollar cs hcs ih => exact ih (by rwa [references_dollar hcs] at h)
  | name name cs hname hcs ih =>
    rw [references_name hname hcs, List.mem_cons] at h
    rcases h with rfl | h
    · rwa [String.toList_ofList]
    · exact ih h

/-- **Resolving once more changes nothing** if each placeholder of the resolved text stands for its
own characters. In particular this is so if it has none: that is, if no value that has been put in
has one, and none begins like a name right behind a dollar sign. -/
theorem resolve_resolve (scope : Scope) (template : String) :
    ((∀ name ∈ references placeholder (resolve scope template).toList,
        resolve scope ("$" ++ name) = "$" ++ name) →
      resolve scope (resolve scope template) = resolve scope template) ∧
    (references placeholder (resolve scope template).toList = [] ↔
      ∀ s name t : String, template = s ++ "$" ++ name ++ t → IsName name.toList →
        EndsName t.toList →
          references placeholder (resolve scope ("$" ++ name)).toList = [] ∧
            ((resolve scope s).toList.getLast? = some '$' →
              EndsName (resolve scope ("$" ++ name)).toList)) := by
  refine ⟨fun h => ?_, references_resolve_eq_nil_iff scope template⟩
  have hself : ∀ name ∈ references placeholder (resolve scope template).toList,
      substitute scope name = '$' :: name.toList := by
    intro name hmem
    have hname := h name hmem
    rw [resolve_name scope (isName_of_mem_references hmem), ← String.toList_inj,
      String.toList_ofList, String.toList_append] at hname
    exact hname
  rw [resolve, resolveChars_eq_self hself, String.ofList_toList]

/-- Values with dollar signs in them, a dollar sign in front of a placeholder, and a placeholder that
stands for itself. -/
theorem resolve_resolve_price :
    let scope : Scope := .ofList [("price", .str "5$"), ("tax", .str "(20$)"), ("x", .str "$x")]
    resolve scope "$price$tax $$price $x" = "5$(20$) $5$ $x" ∧
      resolve scope (resolve scope "$price$tax $$price $x") =
        resolve scope "$price$tax $$price $x" := by
  intro scope
  have hself : ∀ name ∈ references placeholder (resolve scope "$price$tax $$price $x").toList,
      resolve scope ("$" ++ name) = "$" ++ name := by decide +kernel
  exact ⟨by decide +kernel, (resolve_resolve scope "$price$tax $$price $x").1 hself⟩

/-- A value with a placeholder in it, and a value that begins like a name behind a dollar sign: both
are resolved the second time. -/
theorem resolve_resolve_ne :
    let scope : Scope := .ofList [("a", .str "$b"), ("b", .str "b2")]
    resolve scope "$a" = "$b" ∧ resolve scope (resolve scope "$a") ≠ resolve scope "$a" ∧
      resolve scope "$$b" = "$b2" ∧ resolve scope (resolve scope "$$b") ≠ resolve scope "$$b" := by
  decide +kernel

end CommandBook.Template
