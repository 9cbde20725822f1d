/-!
# Templates

A template is literal text with references in it. What a reference looks like differs from place to
place; how references are found does not: from left to right, each taking as many characters as it
can, and text that was put in is never looked at again.

## Main definitions

* `Piece` — a literal character or a reference
* `pieces` — the pieces of a text, for a given form of reference

## Main statements

* `pieces_of_references_eq_nil` — text without references is literal
* `pieces_cons_ref` — a reference at the front becomes one piece
* `fill_congr` — only what the references stand for matters
* `fill?_eq_ok`, `exists_fill?_iff` — filling where a replacement may fail
-/

namespace CommandBook.Template

/-- A part of a template. -/
inductive Piece (ρ : Type) where
  | char (c : Char)
  | ref (r : ρ)
deriving DecidableEq, Repr

/-- A form of reference: the reference at the start of a text, if there is one, and the number of
its characters. -/
abbrev Form (ρ : Type) := List Char → Option (ρ × Nat)

/-- The pieces of a text behind its first `skip` characters. -/
def piecesFrom {ρ : Type} (form : Form ρ) : (skip : Nat) → List Char → List (Piece ρ)
  | _, [] => []
  | skip + 1, _ :: rest => piecesFrom form skip rest
  | 0, c :: rest =>
    match form (c :: rest) with
    | some (r, length) => .ref r :: piecesFrom form (length - 1) rest
    | none => .char c :: piecesFrom form 0 rest

/-- The pieces of a text. -/
def pieces {ρ : Type} (form : Form ρ) (cs : List Char) : List (Piece ρ) := piecesFrom form 0 cs

/-- The references of a text in order. -/
def references {ρ : Type} (form : Form ρ) (cs : List Char) : List ρ :=
  (pieces form cs).filterMap fun
    | .ref r => some r
    | .char _ => none

/-- The text of a row of pieces, each reference replaced. -/
def fill {ρ : Type} (value : ρ → List Char) (ps : List (Piece ρ)) : List Char :=
  ps.flatMap fun
    | .char c => [c]
    | .ref r => value r

/-- The text of a row of pieces where a replacement may fail; the first failure wins. -/
def fill? {ρ ε : Type} (value : ρ → Except ε (List Char)) : List (Piece ρ) → Except ε (List Char)
  | [] => .ok []
  | .char c :: rest => (fill? value rest).map (c :: ·)
  | .ref r :: rest => do
    let v ← value r
    return v ++ (← fill? value rest)

/-! ## Rows of characters of one class -/

/-- A row of characters of a class, in front of a text that does not go on with one, is the longest
such row. -/
theorem takeWhile_append_of_ends {p : Char → Bool} {cs rest : List Char} (hcs : ∀ c ∈ cs, p c)
    (hrest : ∀ c ∈ rest.head?, p c = false) : (cs ++ rest).takeWhile p = cs := by
  rw [List.takeWhile_append_of_pos hcs]
  cases rest with
  | nil => simp
  | cons c rest => simp [hrest c rfl]

/-- What is behind the longest row does not go on with a character of the class. -/
theorem eq_false_of_mem_head?_dropWhile (p : Char → Bool) (cs : List Char) :
    ∀ c ∈ (cs.dropWhile p).head?, p c = false := by
  intro c hc
  have hhead := List.head?_dropWhile_not p cs
  rw [Option.mem_def.1 hc] at hhead
  simpa using hhead

/-! ## Pieces and fillings -/

section Laws
variable {ρ : Type} {form : Form ρ}

theorem piecesFrom_eq_drop (skip : Nat) (cs : List Char) :
    piecesFrom form skip cs = pieces form (cs.drop skip) := by
  induction skip generalizing cs with
  | zero => rfl
  | succ skip ih =>
    cases cs with
    | nil => simp [piecesFrom, pieces]
    | cons c rest => simpa [piecesFrom] using ih rest

/-- A text without references is literal. -/
theorem pieces_of_references_eq_nil : ∀ {cs : List Char}, references form cs = [] →
    pieces form cs = cs.map .char
  | [], _ => rfl
  | c :: rest, h => by
    rw [references, pieces, piecesFrom] at h
    rw [pieces, piecesFrom]
    cases hform : form (c :: rest) with
    | some found =>
      rw [hform] at h
      cases h
    | none =>
      rw [hform] at h
      have hrest : references form rest = [] := h
      exact congrArg (Piece.char c :: ·) (pieces_of_references_eq_nil hrest)

/-- A reference at the front becomes one piece. -/
theorem pieces_cons_ref {c : Char} {rest : List Char} {r : ρ} {length : Nat}
    (h : form (c :: rest) = some (r, length)) :
    pieces form (c :: rest) = .ref r :: pieces form (rest.drop (length - 1)) := by
  rw [pieces, piecesFrom, h]
  simp only [piecesFrom_eq_drop]

theorem fill_append (value : ρ → List Char) (ps qs : List (Piece ρ)) :
    fill value (ps ++ qs) = fill value ps ++ fill value qs := by
  simp [fill]

theorem fill_map_char (value : ρ → List Char) (cs : List Char) :
    fill value (cs.map .char) = cs := by
  induction cs with
  | nil => rfl
  | cons c rest ih =>
    simp only [fill, List.map_cons, List.flatMap_cons] at ih ⊢
    rw [ih]
    rfl

theorem fill_ref_cons (value : ρ → List Char) (r : ρ) (ps : List (Piece ρ)) :
    fill value (.ref r :: ps) = value r ++ fill value ps := rfl

/-- References, each with a literal behind it, are filled one by one. -/
theorem fill_flatMap_ref {σ : Type} (value : ρ → List Char) (ref : σ → ρ)
    (rows : List (σ × List Char)) :
    fill value (rows.flatMap fun r => .ref (ref r.1) :: r.2.map .char) =
      rows.flatMap fun r => value (ref r.1) ++ r.2 := by
  induction rows with
  | nil => rfl
  | cons r rows ih =>
    rw [List.flatMap_cons, fill_append, fill_ref_cons, fill_map_char, ih, List.flatMap_cons]

theorem mem_references_iff {cs : List Char} {r : ρ} :
    r ∈ references form cs ↔ .ref r ∈ pieces form cs := by
  rw [references, List.mem_filterMap]
  constructor
  · rintro ⟨piece, hpiece, heq⟩
    cases piece with
    | char c => cases heq
    | ref found =>
      obtain rfl : found = r := Option.some.inj heq
      exact hpiece
  · exact fun h => ⟨.ref r, h, rfl⟩

/-- Only what the references of a text stand for matters to its filling. -/
theorem fill_congr {value other : ρ → List Char} {cs : List Char}
    (h : ∀ r ∈ references form cs, value r = other r) :
    fill value (pieces form cs) = fill other (pieces form cs) := by
  rw [fill, fill, List.flatMap_def, List.flatMap_def]
  refine congrArg List.flatten (List.map_congr_left fun piece hpiece => ?_)
  cases piece with
  | char c => rfl
  | ref r => exact h r (mem_references_iff.2 hpiece)

/-- Filling with replacements that do not fail. -/
theorem fill?_eq_ok {ε : Type} {value : ρ → Except ε (List Char)} {text : ρ → List Char} :
    ∀ {ps : List (Piece ρ)}, (∀ r, .ref r ∈ ps → value r = .ok (text r)) →
      fill? value ps = .ok (fill text ps)
  | [], _ => rfl
  | .char c :: ps, h => by
    rw [fill?, fill?_eq_ok fun r hr => h r (List.mem_cons_of_mem _ hr)]
    rfl
  | .ref r :: ps, h => by
    rw [fill?, h r List.mem_cons_self, fill?_eq_ok fun r hr => h r (List.mem_cons_of_mem _ hr)]
    rfl

/-- A template can be filled if none of its references fails. -/
theorem exists_fill?_iff {ε : Type} {value : ρ → Except ε (List Char)} {ps : List (Piece ρ)} :
    (∃ cs, fill? value ps = .ok cs) ↔ ∀ r, .ref r ∈ ps → ∃ v, value r = .ok v := by
  induction ps with
  | nil => simp [fill?]
  | cons piece ps ih =>
    cases piece with
    | char c =>
      simp only [List.mem_cons, reduceCtorEq, false_or, ← ih]
      rw [fill?]
      cases fill? value ps <;> simp [Except.map]
    | ref r =>
      simp only [List.mem_cons, Piece.ref.injEq, forall_eq_or_imp, ← ih]
      rw [fill?]
      cases value r with
      | error e => simp [bind, Except.bind]
      | ok v => cases fill? value ps <;> simp [bind, Except.bind, pure, Except.pure]

end Laws

end CommandBook.Template
