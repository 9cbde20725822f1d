import CommandBook.Response.Reference

/-!
# References in templates

A template is a row of literals with references between them. The opening `$data.` of a reference
has no second dollar sign in it, so none begins inside another: a literal may end in a dollar sign,
or in part of an opening or all of it, and the reference behind it is found all the same. A
reference goes as far as path characters go. Hence the literals and the paths decide what is found.

## Main statements

* `dataRef_eq_some_iff` — the reference at the start of a text
* `pieces_literal_append`, `pieces_opening_append` — a literal, and a reference, in front of a text
* `Parts.pieces_toList_template` — the pieces of a template in parts
* `exists_parts` — every template has parts
-/

namespace CommandBook.Response

open Template

variable {path rest cs : List Char}

/-! ## The reference at the start of a text -/

/-- What stands in front of the path of a reference. -/
def opening : List Char := ['$', 'd', 'a', 't', 'a', '.']

/-- A path that a reference can name: path characters, one at least. -/
structure IsPath (path : List Char) : Prop where
  ne_nil : path ≠ []
  isPathChar : ∀ c ∈ path, isPathChar c

/-- The text goes on with no path. -/
def EndsPath (rest : List Char) : Prop := ∀ c ∈ rest.head?, isPathChar c = false

instance (path : List Char) : Decidable (IsPath path) :=
  decidable_of_iff (path ≠ [] ∧ path.all isPathChar)
    ⟨fun h => ⟨h.1, List.all_eq_true.1 h.2⟩, fun h => ⟨h.1, List.all_eq_true.2 h.2⟩⟩

instance (rest : List Char) : Decidable (EndsPath rest) :=
  decidable_of_iff (rest.head?.all (!isPathChar ·)) <| by
    cases rest <;> simp [EndsPath]

theorem dataRef_opening (hpath : IsPath path) (hrest : EndsPath rest) :
    dataRef (opening ++ path ++ rest) = some (path, path.length + 6) := by
  have htake := takeWhile_append_of_ends hpath.isPathChar hrest
  simp [dataRef, opening, htake, hpath.ne_nil]

/-- **The reference at the start of a text**: the opening, and the whole path behind it. -/
theorem dataRef_eq_some_iff {length : Nat} : dataRef cs = some (path, length) ↔
    IsPath path ∧ length = path.length + 6 ∧ ∃ rest, EndsPath rest ∧ cs = opening ++ path ++ rest := by
  constructor
  · intro h
    unfold dataRef at h
    split at h
    · next text =>
      simp only [Option.ite_none_left_eq_some, Option.some.injEq, Prod.mk.injEq] at h
      obtain ⟨hne, rfl, rfl⟩ := h
      refine ⟨⟨by simpa using hne, fun c hc => List.all_eq_true.1 List.all_takeWhile c hc⟩, rfl,
        text.dropWhile isPathChar, eq_false_of_mem_head?_dropWhile isPathChar text, ?_⟩
      rw [List.append_assoc, List.takeWhile_append_dropWhile]
      rfl
    · cases h
  · rintro ⟨hpath, rfl, rest, hrest, rfl⟩
    exact dataRef_opening hpath hrest

/-- No reference starts where no path character follows an opening. -/
theorem dataRef_eq_none_iff :
    dataRef cs = none ↔ ∀ c after, cs = opening ++ c :: after → isPathChar c = false := by
  constructor
  · rintro h c after rfl
    cases hc : isPathChar c with
    | false => rfl
    | true => simp [dataRef, opening, hc] at h
  · intro h
    cases hfound : dataRef cs with
    | none => rfl
    | some found =>
      obtain ⟨hpath, -, rest, -, rfl⟩ := dataRef_eq_some_iff.1 hfound
      obtain ⟨c, path, hcons⟩ := List.exists_cons_of_ne_nil hpath.ne_nil
      have hnot := h c (path ++ rest) (by rw [hcons, List.append_assoc, List.cons_append])
      rw [hpath.isPathChar c (by rw [hcons]; exact List.mem_cons_self)] at hnot
      cases hnot

/-! ## Literals -/

/-- A text without references: behind no opening in it there is a path character. -/
def IsLiteral (cs : List Char) : Prop :=
  ∀ before c after, cs = before ++ opening ++ c :: after → isPathChar c = false

theorem isLiteral_iff :
    IsLiteral cs ↔ (List.range cs.length).all fun n => (dataRef (cs.drop n)).isNone := by
  simp only [List.all_eq_true, List.mem_range, Option.isNone_iff_eq_none, dataRef_eq_none_iff]
  constructor
  · intro h n _ c after heq
    refine h (cs.take n) c after ?_
    rw [List.append_assoc, ← heq, List.take_append_drop]
  · rintro h before c after rfl
    refine h before.length ?_ c after ?_
    · simp only [List.length_append, List.length_cons]
      omega
    · rw [List.append_assoc, List.drop_left]

instance (cs : List Char) : Decidable (IsLiteral cs) := decidable_of_iff _ isLiteral_iff.symm

theorem IsLiteral.of_cons {c : Char} (h : IsLiteral (c :: cs)) : IsLiteral cs := by
  rintro before d after rfl
  exact h (c :: before) d after rfl

/-- A reference that starts in a literal would have to go beyond it, but nothing behind the dollar
sign of a reference is one. -/
theorem dataRef_literal_append {c : Char} (h : IsLiteral (c :: cs))
    (hrest : ∀ d ∈ rest.head?, d = '$') : dataRef (c :: cs ++ rest) = none := by
  rw [dataRef_eq_none_iff]
  intro d after heq
  have hword : opening ++ d :: after = (opening ++ [d]) ++ after := by simp
  rw [hword] at heq
  rcases List.append_eq_append_iff.1 heq with ⟨beyond, hpast, hstart⟩ | ⟨within, hlit, -⟩
  · cases beyond with
    | nil => exact h [] d [] (by simpa using hpast.symm)
    | cons e beyond =>
      obtain rfl : e = '$' := hrest e (by rw [hstart]; rfl)
      -- the dollar sign behind the literal is one of the characters behind that of the opening
      have hmem : '$' ∈ ['d', 'a', 't', 'a', '.', d] := by
        have htail : ['d', 'a', 't', 'a', '.', d] = cs ++ '$' :: beyond := (List.cons.inj hpast).2
        rw [htail]
        simp
      obtain rfl : '$' = d := by simpa using hmem
      rfl
  · exact h [] d within (by simpa using hlit)

/-- **A literal in front of a reference, or of the end**, stays as it is. -/
theorem pieces_literal_append (h : IsLiteral cs) (hrest : ∀ d ∈ rest.head?, d = '$') :
    pieces dataRef (cs ++ rest) = cs.map .char ++ pieces dataRef rest := by
  induction cs with
  | nil => rfl
  | cons c cs ih =>
    have hnone := dataRef_literal_append h hrest
    rw [List.cons_append] at hnone
    rw [List.cons_append, pieces, piecesFrom, hnone]
    exact congrArg (Piece.char c :: ·) (ih h.of_cons)

theorem pieces_opening_append (hpath : IsPath path) (hrest : EndsPath rest) :
    pieces dataRef (opening ++ path ++ rest) = .ref path :: pieces dataRef rest := by
  have hform := dataRef_opening hpath hrest
  simp only [opening, List.cons_append, List.nil_append] at hform ⊢
  rw [pieces_cons_ref hform]
  simp

/-! ## Templates in parts -/

/-- A template in parts: the literal in front, and each path with the literal behind it. -/
structure Parts where
  first : List Char
  later : List (List Char × List Char)
deriving DecidableEq, Repr

namespace Parts

/-- The literals in their places, with a text for each path between them. -/
def write (text : List Char → List Char) (t : Parts) : List Char :=
  t.first ++ t.later.flatMap fun r => text r.1 ++ r.2

/-- The template that has these parts. -/
def template (t : Parts) : String := String.ofList (t.write (opening ++ ·))

/-- Parts that stay apart when they are written: no literal holds a reference, and none goes on
with the path in front of it. -/
structure AreApart (t : Parts) : Prop where
  first : IsLiteral t.first
  isPath : ∀ r ∈ t.later, IsPath r.1
  isLiteral : ∀ r ∈ t.later, IsLiteral r.2
  endsPath : ∀ r ∈ t.later, EndsPath r.2

instance (t : Parts) : Decidable t.AreApart :=
  decidable_of_iff (IsLiteral t.first ∧
      t.later.all fun r => IsPath r.1 ∧ IsLiteral r.2 ∧ EndsPath r.2) <| by
    simp only [List.all_eq_true, decide_eq_true_eq]
    exact ⟨fun h => ⟨h.1, fun r hr => (h.2 r hr).1, fun r hr => (h.2 r hr).2.1,
      fun r hr => (h.2 r hr).2.2⟩, fun h => ⟨h.1, fun r hr => ⟨h.2 r hr, h.3 r hr, h.4 r hr⟩⟩⟩

variable {t : Parts}

theorem head?_flatMap_opening (later : List (List Char × List Char)) :
    ∀ d ∈ (later.flatMap fun r => opening ++ r.1 ++ r.2).head?, d = '$' := by
  cases later with
  | nil => simp
  | cons r later =>
    rintro _ ⟨⟩
    rfl

theorem pieces_later : ∀ {later : List (List Char × List Char)}, (∀ r ∈ later, IsPath r.1) →
    (∀ r ∈ later, IsLiteral r.2) → (∀ r ∈ later, EndsPath r.2) →
      pieces dataRef (later.flatMap fun r => opening ++ r.1 ++ r.2) =
        later.flatMap fun r => .ref r.1 :: r.2.map .char
  | [], _, _, _ => rfl
  | r :: later, hpath, hliteral, hends => by
    have hdollar := head?_flatMap_opening later
    -- the path ends at its literal, or where that is empty at the next dollar sign
    have hrest : EndsPath (r.2 ++ later.flatMap fun r => opening ++ r.1 ++ r.2) := by
      cases hlit : r.2 with
      | nil =>
        intro d hd
        rw [hdollar d hd]
        rfl
      | cons c literal =>
        have hc := hends r List.mem_cons_self
        rw [hlit] at hc
        exact hc
    have hlater := pieces_later (fun r hr => hpath r (List.mem_cons_of_mem _ hr))
      (fun r hr => hliteral r (List.mem_cons_of_mem _ hr))
      fun r hr => hends r (List.mem_cons_of_mem _ hr)
    rw [List.flatMap_cons, List.append_assoc (opening ++ r.1),
      pieces_opening_append (hpath r List.mem_cons_self) hrest,
      pieces_literal_append (hliteral r List.mem_cons_self) hdollar, hlater, List.flatMap_cons]
    rfl

/-- **The pieces of a template in parts** are its literals and its paths. -/
theorem pieces_toList_template (h : t.AreApart) :
    pieces dataRef t.template.toList =
      t.first.map .char ++ t.later.flatMap fun r => .ref r.1 :: r.2.map .char := by
  rw [template, String.toList_ofList, write]
  rw [pieces_literal_append h.first (head?_flatMap_opening t.later),
    pieces_later h.isPath h.isLiteral h.endsPath]

theorem ref_mem_pieces_iff (h : t.AreApart) {path : List Char} :
    .ref path ∈ pieces dataRef t.template.toList ↔ ∃ r ∈ t.later, r.1 = path := by
  simp [pieces_toList_template h, eq_comm]

theorem fill_pieces (h : t.AreApart) (text : List Char → List Char) :
    fill text (pieces dataRef t.template.toList) = t.write text := by
  rw [pieces_toList_template h, fill_append, fill_map_char, write]
  exact congrArg (t.first ++ ·) (fill_flatMap_ref text id t.later)

/-- The literals keep their places whatever the texts are. -/
theorem write_congr {text other : List Char → List Char}
    (h : ∀ r ∈ t.later, text r.1 = other r.1) : t.write text = t.write other := by
  rw [write, write, List.flatMap_def, List.flatMap_def,
    List.map_congr_left fun r hr => by rw [h r hr]]

end Parts

/-! ## Every template has parts -/

theorem isLiteral_nil : IsLiteral [] := fun before c after h => by simp at h

/-- A literal with one more character in front, where no reference starts with it. -/
theorem IsLiteral.cons {c : Char} (h : IsLiteral cs) (hnone : dataRef (c :: cs ++ rest) = none) :
    IsLiteral (c :: cs) := by
  intro before d after heq
  cases before with
  | nil =>
    refine dataRef_eq_none_iff.1 hnone d (after ++ rest) ?_
    rw [heq]
    simp
  | cons e before => exact h before d after (List.cons.inj heq).2

theorem EndsPath.of_append (h : EndsPath (cs ++ rest)) : EndsPath cs := by
  cases cs with
  | nil =>
    intro c hc
    cases hc
  | cons c cs => exact h

/-- **Every text has parts**: a reference wherever one starts, from left to right, and literals
between them. -/
theorem exists_write_opening : ∀ cs : List Char,
    ∃ t : Parts, t.AreApart ∧ t.write (opening ++ ·) = cs
  | [] => ⟨⟨[], []⟩, ⟨isLiteral_nil, by simp, by simp, by simp⟩, rfl⟩
  | c :: cs => by
    cases hfound : dataRef (c :: cs) with
    | none =>
      obtain ⟨t, ht, rfl⟩ := exists_write_opening cs
      refine ⟨⟨c :: t.first, t.later⟩, ⟨?_, ht.isPath, ht.isLiteral, ht.endsPath⟩, rfl⟩
      have hnone : dataRef (c :: t.first ++ t.later.flatMap fun r => opening ++ r.1 ++ r.2) = none :=
        hfound
      exact ht.first.cons hnone
    | some found =>
      obtain ⟨hpath, -, rest, hrest, hcs⟩ := dataRef_eq_some_iff.1 hfound
      have hlength : rest.length < cs.length + 1 := by
        rw [← List.length_cons (a := c), hcs]
        simp only [opening, List.length_append, List.length_cons]
        omega
      obtain ⟨t, ht, hwrite⟩ := exists_write_opening rest
      refine ⟨⟨[], (found.1, t.first) :: t.later⟩, ⟨isLiteral_nil, ?_, ?_, ?_⟩, ?_⟩
      · exact List.forall_mem_cons.2 ⟨hpath, ht.isPath⟩
      · exact List.forall_mem_cons.2 ⟨ht.first, ht.isLiteral⟩
      · refine List.forall_mem_cons.2 ⟨?_, ht.endsPath⟩
        rw [← hwrite, Parts.write] at hrest
        exact hrest.of_append
      · rw [hcs, ← hwrite]
        simp [Parts.write]
termination_by cs => cs.length

theorem exists_parts (template : String) : ∃ t : Parts, t.AreApart ∧ t.template = template := by
  obtain ⟨t, ht, hwrite⟩ := exists_write_opening template.toList
  exact ⟨t, ht, by rw [Parts.template, hwrite, String.ofList_toList]⟩

end CommandBook.Response
