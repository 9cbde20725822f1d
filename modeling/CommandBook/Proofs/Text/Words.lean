import CommandBook.Text.Blank

/-!
# Texts that write words

A text writes a row of words if they stand in it in order, with a blank at least between one and the
next. Which blanks these are and how many is left open, and there may be others at either end. Each
text writes exactly one row, and that is what splitting it gives.

## Main statements

* `words_append_blank` — words split at a blank; all else about words follows from it
* `writes_iff` — the words of a text are the row that it writes
* `writes_intercalate` — words with single blanks between them
-/

namespace CommandBook.Text

/-- A row of characters that are not blank, one at least. -/
structure IsWord (w : List Char) : Prop where
  ne_nil : w ≠ []
  not_isBlank : ∀ c ∈ w, isBlank c = false

instance (w : List Char) : Decidable (IsWord w) :=
  decidable_of_iff (w ≠ [] ∧ w.all fun c => isBlank c = false)
    ⟨fun h => ⟨h.1, by simpa using h.2⟩, fun h => ⟨h.1, by simpa using h.2⟩⟩

/-- A text in which these words stand in order, each behind any number of blanks, and each followed
by a blank or by the end. -/
inductive Writes : List (List Char) → List Char → Prop
  | nil {gap : List Char} (hgap : ∀ c ∈ gap, isBlank c) : Writes [] gap
  | cons {gap w rest : List Char} {ws : List (List Char)} (hgap : ∀ c ∈ gap, isBlank c)
      (hw : IsWord w) (hends : ∀ c ∈ rest.head?, isBlank c) (hrest : Writes ws rest) :
      Writes (w :: ws) (gap ++ w ++ rest)

variable {ws : List (List Char)} {cs gap w rest : List Char}

/-! ## From texts to words -/

theorem splitWhere_ne_nil (p : Char → Bool) : ∀ cs : List Char, splitWhere p cs ≠ []
  | [] => by simp [splitWhere]
  | c :: cs => by
    rw [splitWhere]
    split
    · exact List.cons_ne_nil _ _
    · simpa using splitWhere_ne_nil p cs

/-- What is in a piece is in the whole. -/
theorem mem_of_mem_splitWhere {p : Char → Bool} (h : w ∈ splitWhere p cs) : ∀ c ∈ w, c ∈ cs := by
  intro c hc
  induction cs generalizing w with
  | nil =>
    obtain rfl : w = [] := by simpa [splitWhere] using h
    cases hc
  | cons d cs ih =>
    rw [splitWhere] at h
    split at h
    · rcases List.mem_cons.1 h with rfl | h
      · cases hc
      · exact List.mem_cons_of_mem _ (ih h hc)
    · -- the first character goes into the first piece
      obtain ⟨v, vs, hv⟩ := List.exists_cons_of_ne_nil (splitWhere_ne_nil p cs)
      rw [hv] at ih h
      rw [List.modifyHead_cons] at h
      rcases List.mem_cons.1 h with rfl | h
      · rcases List.mem_cons.1 hc with rfl | hc
        · exact List.mem_cons_self
        · exact List.mem_cons_of_mem _ (ih List.mem_cons_self hc)
      · exact List.mem_cons_of_mem _ (ih (List.mem_cons_of_mem _ h) hc)

theorem splitWhere_append {p : Char → Bool} {c : Char} (hc : p c) (x y : List Char) :
    splitWhere p (x ++ c :: y) = splitWhere p x ++ splitWhere p y := by
  induction x with
  | nil => simp [splitWhere, hc]
  | cons d x ih =>
    rw [List.cons_append, splitWhere, splitWhere, ih]
    by_cases hd : p d
    · simp [hd]
    · obtain ⟨v, vs, hv⟩ := List.exists_cons_of_ne_nil (splitWhere_ne_nil p x)
      simp [hd, hv]

/-- **Words split at a blank.** -/
theorem words_append_blank {c : Char} (hc : isBlank c) (x y : List Char) :
    words (x ++ c :: y) = words x ++ words y := by
  rw [words, splitWhere_append hc, List.filter_append]
  rfl

/-- Blanks in front belong to no word. -/
theorem words_append_of_blank (hgap : ∀ c ∈ gap, isBlank c) (cs : List Char) :
    words (gap ++ cs) = words cs := by
  induction gap with
  | nil => rfl
  | cons c gap ih =>
    have hcons : words (c :: (gap ++ cs)) = words (gap ++ cs) :=
      words_append_blank (hgap c List.mem_cons_self) [] (gap ++ cs)
    rw [List.cons_append, hcons, ih fun d hd => hgap d (List.mem_cons_of_mem _ hd)]

theorem splitWhere_eq_singleton {p : Char → Bool} (h : ∀ c ∈ w, p c = false) :
    splitWhere p w = [w] := by
  induction w with
  | nil => rfl
  | cons c w ih =>
    rw [splitWhere, h c List.mem_cons_self, ih fun d hd => h d (List.mem_cons_of_mem _ hd)]
    rfl

/-- A word with nothing around it. -/
theorem words_of_isWord (h : IsWord w) : words w = [w] := by
  rw [words, splitWhere_eq_singleton h.not_isBlank]
  simp [h.ne_nil]

/-- A word in front of a blank or of the end. -/
theorem words_append_of_isWord (hw : IsWord w) (hends : ∀ c ∈ rest.head?, isBlank c) :
    words (w ++ rest) = w :: words rest := by
  cases rest with
  | nil => rw [List.append_nil, words_of_isWord hw]; rfl
  | cons c rest =>
    have hc : isBlank c := hends c rfl
    have hrest : words (c :: rest) = words rest := words_append_blank hc [] rest
    rw [words_append_blank hc, words_of_isWord hw, hrest]
    rfl

theorem Writes.words_eq (h : Writes ws cs) : words cs = ws := by
  induction h with
  | @nil gap hgap =>
    have hnone := words_append_of_blank hgap []
    rwa [List.append_nil] at hnone
  | cons hgap hw hends _ ih =>
    rw [List.append_assoc, words_append_of_blank hgap, words_append_of_isWord hw hends, ih]

/-! ## From words to texts -/

/-- One more blank in front. -/
theorem Writes.blank_cons {c : Char} (hc : isBlank c) (h : Writes ws cs) : Writes ws (c :: cs) := by
  have hmore : ∀ {gap : List Char}, (∀ d ∈ gap, isBlank d) → ∀ d ∈ c :: gap, isBlank d := by
    intro gap hgap d hd
    rcases List.mem_cons.1 hd with rfl | hd
    · exact hc
    · exact hgap d hd
  cases h with
  | nil hgap => exact .nil (hmore hgap)
  | cons hgap hw hends hrest => exact .cons (hmore hgap) hw hends hrest

/-- One more word in front. -/
theorem Writes.word_append (hw : IsWord w) (hends : ∀ c ∈ rest.head?, isBlank c)
    (h : Writes ws rest) : Writes (w :: ws) (w ++ rest) := by
  have hnone : ∀ c ∈ ([] : List Char), isBlank c := fun c hc => absurd hc List.not_mem_nil
  exact .cons hnone hw hends h

/-- Every text writes its words. -/
theorem writes_words : ∀ cs : List Char, Writes (words cs) cs
  | [] => .nil (by simp)
  | c :: cs => by
    by_cases hc : isBlank c
    · have hcons : words (c :: cs) = words cs := words_append_blank hc [] cs
      rw [hcons]
      exact (writes_words cs).blank_cons hc
    · -- the first word goes up to the next blank
      have hlen : (cs.dropWhile (!isBlank ·)).length ≤ cs.length :=
        (List.dropWhile_sublist _).length_le
      have hw : IsWord (c :: cs.takeWhile (!isBlank ·)) := by
        refine ⟨by simp, fun d hd => ?_⟩
        rcases List.mem_cons.1 hd with rfl | hd
        · simpa using hc
        · simpa using List.all_eq_true.1 List.all_takeWhile d hd
      have hends : ∀ d ∈ (cs.dropWhile (!isBlank ·)).head?, isBlank d := by
        intro d hd
        have hhead := List.head?_dropWhile_not (!isBlank ·) cs
        rw [Option.mem_def.1 hd] at hhead
        simpa using hhead
      have hsplit : c :: cs = (c :: cs.takeWhile (!isBlank ·)) ++ cs.dropWhile (!isBlank ·) := by
        rw [List.cons_append, List.takeWhile_append_dropWhile]
      rw [hsplit, words_append_of_isWord hw hends]
      exact (writes_words (cs.dropWhile (!isBlank ·))).word_append hw hends
termination_by cs => cs.length

/-- **The words of a text are the row that it writes.** -/
theorem writes_iff : Writes ws cs ↔ words cs = ws := by
  constructor
  · exact Writes.words_eq
  · rintro rfl
    exact writes_words cs

/-- Words with single blanks between them write themselves. -/
theorem writes_intercalate : ∀ ws : List (List Char), (∀ w ∈ ws, IsWord w) →
    Writes ws (List.intercalate [' '] ws)
  | [], _ => .nil (by simp)
  | [w], h => by
    have hnone : Writes [] [] := .nil (by simp)
    have hw := hnone.word_append (h w (by simp)) (by simp)
    simpa using hw
  | w :: v :: ws, h => by
    have hblank : isBlank ' ' := by decide
    have hrest := writes_intercalate (v :: ws) fun x hx => h x (List.mem_cons_of_mem _ hx)
    have hw := (hrest.blank_cons hblank).word_append (h w (by simp)) (by simpa using hblank)
    simpa [List.intercalate] using hw

end CommandBook.Text
