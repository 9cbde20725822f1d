import CommandBook.Proofs.Json.Numbers
import CommandBook.Proofs.Json.Outside

/-!
# A reader that is out of step

Between the quotes of a string there may stand anything, as long as each further quote stands
directly behind a backslash: the string is `Guarded`. The reader may still take such a quote for the
end of the string, if the backslash is the second of two, or it may read past the closing quote. It
is then out of step with the text: inside a string where the text is outside of its strings, and
outside where the text is inside. There it meets no quote without a backslash in front, and no
backslash is allowed there, so it comes into step with the text no more, and in the end it is inside
a string or something has been wrong.

A number may be written in a way of which the reader takes only the beginning. It is `Spent` then,
and whatever follows finds it so.

## Main statements

* `At.run_guarded` — a guarded string is read as a string, or the reader is out of step
* `Strays.run_woven` — a reader that is out of step stays so
* `At.run_numberText` — the text of a number is read as a number, or as none
* `Lost.finish_eq` — a reader that is lost has no value
-/

namespace CommandBook.Json

/-! ## Guarded strings -/

/-- A row of characters in which each quote stands directly behind a backslash. -/
inductive Guarded : List Char → Prop where
  | nil : Guarded []
  | char {c : Char} {cs : List Char} : c ≠ '"' → Guarded cs → Guarded (c :: cs)
  | quote {cs : List Char} : Guarded cs → Guarded ('\\' :: '"' :: cs)

theorem Guarded.append {cs ds : List Char} (h : Guarded cs) (h' : Guarded ds) :
    Guarded (cs ++ ds) := by
  induction h with
  | nil => exact h'
  | char hc _ ih => exact .char hc ih
  | quote _ ih => exact .quote ih

theorem guarded_of_not_mem : ∀ {cs : List Char}, '"' ∉ cs → Guarded cs
  | [], _ => .nil
  | c :: cs, h => by
    rw [List.mem_cons, not_or] at h
    exact .char (Ne.symm h.1) (guarded_of_not_mem h.2)

theorem guarded_unitEscape (n : Nat) : Guarded (unitEscape n) :=
  guarded_of_not_mem fun h => absurd (mem_unitChars_of_mem_unitEscape h) (by decide)

/-- **Escapes are guarded.** -/
theorem guarded_escape (c : Char) : Guarded (escape c) := by
  have hform := escapeForm_escape c
  generalize escape c = cs at hform ⊢
  cases hform with
  | @letter d _ _ =>
    by_cases hd : d = '"'
    · rw [hd]
      exact .quote .nil
    · exact .char (by decide) (.char hd .nil)
  | plain hq _ _ _ => exact .char hq .nil
  | unit _ _ => exact guarded_unitEscape _
  | pair _ => exact (guarded_unitEscape _).append (guarded_unitEscape _)

/-! ## The reader in a guarded string -/

/-- The machine is inside a string, perhaps in the middle of an escape. -/
inductive Within (s : State) (stack : List Frame) (owner : Owner) : Prop where
  | ready {points : List Nat} : InString s stack owner points → Within s stack owner
  | slash {start : Nat} {points : List Nat} : s.stack = stack →
      s.mode = .string owner start points .slash → Within s stack owner
  | digits {start opened v count : Nat} {points : List Nat} : s.stack = stack → count ≠ 4 →
      s.mode = .string owner start points (.unicode opened v count) → Within s stack owner

/-- Where the text is outside of its strings, the machine is inside of one, unless something was
wrong. -/
inductive Strays (s : State) : Prop where
  | failed : Failed s → Strays s
  | inside {stack : List Frame} {owner : Owner} {points : List Nat} :
      InString s stack owner points → Strays s

section Machine
variable {s : State} {stack : List Frame} {owner : Owner} {points : List Nat} {cs : List Char}

/-- A character behind a backslash. -/
theorem step_slash {start : Nat} (hs : s.stack = stack)
    (hm : s.mode = .string owner start points .slash) (c : Char) :
    Within (s.step c) stack owner ∨ Failed (s.step c) := by
  have htake : s.take c = s.inString owner start points c .slash := by rw [State.take, hm]
  rw [State.inString] at htake
  split at htake
  · refine Or.inl (@Within.digits _ _ _ start s.offset 0 0 points ?_ (by decide) ?_)
    · rw [step_stack, htake, hs]
    · rw [step_mode, htake]
  split at htake
  · next d _ =>
    refine Or.inl (.ready (@InString.plain _ _ _ start (d.toNat :: points) ?_ ?_))
    · rw [step_stack, htake, hs]
    · rw [step_mode, htake]
  · exact Or.inr (.of_take htake (failed_fail _ _ _))

/-- A character where a digit of an escape is due. -/
theorem step_digits {start opened v count : Nat} (hs : s.stack = stack) (hcount : count ≠ 4)
    (hm : s.mode = .string owner start points (.unicode opened v count)) (c : Char) :
    Within (s.step c) stack owner ∨ Failed (s.step c) := by
  have htake : s.take c = s.inString owner start points c (.unicode opened v count) := by
    rw [State.take, hm]
  rw [State.inString, if_neg hcount] at htake
  split at htake
  · next d _ =>
    have hstack : (s.step c).stack = stack := by rw [step_stack, htake, hs]
    have hmode : (s.step c).mode =
        .string owner start points (.unicode opened (v * 16 + d) (count + 1)) := by
      rw [step_mode, htake]
    by_cases hlast : count + 1 = 4
    · rw [hlast] at hmode
      exact Or.inl (.ready (.escaped hstack hmode))
    · exact Or.inl (.digits hstack hlast hmode)
  · exact Or.inr (.of_take htake (failed_fail _ _ _))

/-- A character that stands in a string as it is, or must not. -/
theorem InString.step_char (h : InString s stack owner points) {c : Char} (hq : c ≠ '"')
    (hb : c ≠ '\\') : InString (s.step c) stack owner (c.toNat :: points) ∨ Failed (s.step c) := by
  by_cases hc : c.toNat < 0x20
  · obtain ⟨start, htake⟩ := h.take_eq c
    have hplain : s.plain owner start points c = s.fail .controlCharacter s.offset := by
      simp [State.plain, hq, hb, hc]
    exact Or.inr (.of_take (htake.trans hplain) (failed_fail _ _ _))
  · exact Or.inl (h.step_plain hq hb (Nat.not_lt.1 hc))

/-- **Inside a string only a quote may lead out of it.** -/
theorem Within.step (h : Within s stack owner) {c : Char} (hc : c ≠ '"') :
    Within (s.step c) stack owner ∨ Failed (s.step c) := by
  cases h with
  | ready h =>
    by_cases hb : c = '\\'
    · obtain ⟨hstack, start, hmode⟩ := h.step_backslash
      rw [hb]
      exact Or.inl (.slash hstack hmode)
    · exact (h.step_char hc hb).imp_left .ready
  | slash hs hm => exact step_slash hs hm c
  | digits hs hcount hm => exact step_digits hs hcount hm c

/-- The quote that ends a string. -/
theorem InString.isOutside_close (h : InString s stack owner points) :
    (s.step '"').mode.IsOutside := by
  obtain ⟨start, htake⟩ := h.take_eq '"'
  rw [step_mode, htake]
  cases owner with
  | value => exact isOutside_deliver _ _
  | name done => trivial

/-- A quote ends the string, unless it stands in the middle of an escape. -/
theorem Within.step_quote (h : Within s stack owner) :
    (∃ points, InString s stack owner points) ∨
      (∃ points, InString (s.step '"') stack owner points) ∨ Failed (s.step '"') := by
  cases h with
  | ready h => exact Or.inl ⟨_, h⟩
  | @slash start points hs hm =>
    have htake : s.take '"' =
        { s with mode := .string owner start ('"'.toNat :: points) .none } := by
      rw [State.take, hm]
      rfl
    exact Or.inr (Or.inl
      ⟨_, .plain (by rw [step_stack, htake]; exact hs) (by rw [step_mode, htake])⟩)
  | @digits start opened v count points _ hcount hm =>
    have htake : s.take '"' = s.fail .badUnicodeEscape opened := by
      rw [State.take, hm]
      show s.inString owner start points '"' (.unicode opened v count) = _
      rw [State.inString, if_neg hcount]
      rfl
    exact Or.inr (Or.inr (.of_take htake (failed_fail _ _ _)))

/-- In a string or outside of strings. -/
theorem Within.step_quote_or (h : Within s stack owner) :
    Within (s.step '"') stack owner ∨ (s.step '"').mode.IsOutside := by
  rcases h.step_quote with ⟨points, hin⟩ | ⟨points, hin⟩ | hfailed
  · exact Or.inr hin.isOutside_close
  · exact Or.inl (.ready hin)
  · exact Or.inr hfailed.isOutside

/-! ## Runs over guarded strings -/

/-- Outside of strings a guarded string leads into none. -/
theorem isOutside_run_guarded (hcs : Guarded cs) : ∀ {s : State}, s.mode.IsOutside →
    (s.run cs).mode.IsOutside := by
  induction hcs with
  | nil => exact fun h => h
  | char hc _ ih => exact fun h => ih (isOutside_step h hc)
  | quote _ ih =>
    intro s h
    -- the backslash is wrong already
    rcases step_mark h (Or.inr rfl) with hfailed | ⟨heq, -⟩
    · exact ih (hfailed.step '"').isOutside
    · exact absurd heq (by decide)

/-- Inside a string a guarded string goes on with it, or ends it and leads into no other. -/
theorem Within.run_guarded (hcs : Guarded cs) : ∀ {s : State}, Within s stack owner →
    Within (s.run cs) stack owner ∨ (s.run cs).mode.IsOutside := by
  induction hcs with
  | nil => exact fun h => Or.inl h
  | char hc hcs ih =>
    intro s h
    rcases h.step hc with hin | hfailed
    · exact ih hin
    · exact Or.inr (isOutside_run_guarded hcs hfailed.isOutside)
  | quote hcs ih =>
    intro s h
    rcases h.step (c := '\\') (by decide) with hin | hfailed
    · rcases hin.step_quote_or with hin | hout
      · exact ih hin
      · exact Or.inr (isOutside_run_guarded hcs hout)
    · exact Or.inr (isOutside_run_guarded hcs (hfailed.step '"').isOutside)

/-- Outside of strings a quote leaves the reader out of step. -/
theorem strays_step_quote (h : s.mode.IsOutside) : Strays (s.step '"') := by
  rcases step_mark h (Or.inl rfl) with hfailed | ⟨-, owner, hin⟩
  · exact .failed hfailed
  · exact .inside hin

/-- **A guarded string** is read as some string, or leaves the reader out of step. -/
theorem At.run_guarded {closable : Bool} (h : At s stack (.value closable)) (hcs : Guarded cs) :
    Strays (s.run ('"' :: cs ++ ['"'])) ∨
      ∃ text, Holds (s.run ('"' :: cs ++ ['"'])) stack (.str text) := by
  rw [List.cons_append, run_cons, State.run_append, run_cons, run_nil]
  generalize hrun : (s.step '"').run cs = t
  rcases Within.run_guarded hcs (.ready h.open_value) with hwithin | hout
  · rw [hrun] at hwithin
    rcases hwithin.step_quote with ⟨points, hin⟩ | ⟨points, hin⟩ | hfailed
    · obtain ⟨start, htake⟩ := hin.take_eq '"'
      exact Or.inr ⟨_, .of_deliver htake hin.stack_eq⟩
    · exact Or.inl (.inside hin)
    · exact Or.inl (.failed hfailed)
  · rw [hrun] at hout
    exact Or.inl (strays_step_quote hout)

/-! ## Text around strings -/

/-- Text in which quotes and backslashes stand nowhere but in guarded strings between quotes. -/
inductive Woven : List Char → Prop where
  | nil : Woven []
  | char {c : Char} {cs : List Char} : c ≠ '"' → c ≠ '\\' → Woven cs → Woven (c :: cs)
  | string {cs rest : List Char} : Guarded cs → Woven rest → Woven ('"' :: (cs ++ '"' :: rest))

theorem Woven.append {cs ds : List Char} (h : Woven cs) (h' : Woven ds) : Woven (cs ++ ds) := by
  induction h with
  | nil => exact h'
  | char hq hb _ ih => exact .char hq hb ih
  | string hcs _ ih =>
    have hstring := Woven.string hcs ih
    simpa using hstring

theorem woven_of_forall : ∀ {cs : List Char}, (∀ c ∈ cs, c ≠ '"' ∧ c ≠ '\\') → Woven cs
  | [], _ => .nil
  | c :: _, h =>
    have hc := h c List.mem_cons_self
    .char hc.1 hc.2 (woven_of_forall fun d hd => h d (List.mem_cons_of_mem c hd))

/-- A token without quotes. -/
theorem woven_token (cs : List Char) (h : cs.all fun c => c != '"' && c != '\\') : Woven cs :=
  woven_of_forall fun c hc => by simpa using List.all_eq_true.1 h c hc

theorem Strays.step (h : Strays s) {c : Char} (hq : c ≠ '"') (hb : c ≠ '\\') :
    Strays (s.step c) := by
  cases h with
  | failed h => exact .failed (h.step c)
  | inside h => exact (h.step_char hq hb).elim .inside .failed

/-- The quote that opens a string of the text leads out of the one that the reader is in. -/
theorem Strays.isOutside_step_quote (h : Strays s) : (s.step '"').mode.IsOutside := by
  cases h with
  | failed h => exact (h.step '"').isOutside
  | inside h => exact h.isOutside_close

/-- **A reader that is out of step stays so.** -/
theorem Strays.run_woven (hcs : Woven cs) : ∀ {s : State}, Strays s → Strays (s.run cs) := by
  induction hcs with
  | nil => exact fun h => h
  | char hq hb _ ih => exact fun h => ih (h.step hq hb)
  | string hcs _ ih =>
    intro s h
    rw [run_cons, State.run_append, run_cons]
    exact ih (strays_step_quote (isOutside_run_guarded hcs h.isOutside_step_quote))

theorem Strays.finish_eq (h : Strays s) : ∃ e, s.finish = .error e := by
  cases h with
  | failed h =>
    obtain ⟨e, he⟩ := h
    exact ⟨e, by rw [State.finish, he]; simp only [he]⟩
  | inside h =>
    cases h with
    | plain _ hm => exact ⟨_, by rw [State.finish, hm]; simp only [hm]; rfl⟩
    | escaped _ hm => exact ⟨_, by rw [State.finish, hm]; simp only [hm]; rfl⟩

/-! ## Numbers -/

/-- The machine is in a number of which only the beginning can be read. -/
def Spent (s : State) : Prop :=
  ∃ start digits, s.mode = .number start digits ∧ Failed (s.closeNumber start digits.reverse)

/-- Whatever comes, the reader will have no value. -/
def Lost (s : State) : Prop := Strays s ∨ Spent s

/-- Text that may stand behind a value: it goes on with no number. -/
structure Trailing (rest : List Char) : Prop where
  woven : Woven rest
  endsNumber : ∀ c ∈ rest.head?, State.isNumberPart c = false ∧ c ≠ 'I'

theorem IsNumberText.woven (hcs : IsNumberText cs) : Woven cs :=
  woven_of_forall fun c hc => by
    have hpart := hcs.isNumberPart c hc
    constructor <;> rintro rfl <;> exact absurd hpart (by decide)

/-- A character of a number with which none begins. -/
theorem failed_begin_number {c : Char} (hpart : State.isNumberPart c) (hdigit : ¬c.isDigit)
    (hminus : c ≠ '-') (s : State) (closable : Bool) : Failed (s.begin closable c) := by
  simp only [State.isNumberPart, hdigit, hminus, Bool.or_eq_true, beq_iff_eq, or_false, or_assoc,
    Bool.false_eq_true, false_or] at hpart
  rcases hpart with rfl | rfl | rfl | rfl <;> exact failed_fail _ _ _

/-- **The text of a number** is read as the number that its characters are, if they are one. -/
theorem At.run_numberText {closable : Bool} (h : At s stack (.value closable))
    (hcs : IsNumberText cs) : Lost (s.run cs) ∨
      ∃ v, numberAt? cs = some (.ok v, cs.length) ∧ Holds (s.run cs) stack v := by
  obtain ⟨c, rest, rfl⟩ := List.exists_cons_of_ne_nil hcs.ne_nil
  have hrest : ∀ d ∈ rest, State.isNumberPart d :=
    fun d hd => hcs.isNumberPart d (List.mem_cons_of_mem c hd)
  rw [run_cons]
  by_cases hc : c.isDigit ∨ c = '-'
  · have hdigits := (h.step_number hc).run_numberParts hrest
    generalize (s.step c).run rest = t at hdigits ⊢
    have hrev : (rest.reverse ++ [c]).reverse = c :: rest := by simp
    rcases closeNumber_cases t s.offset hcs.isNumberPart with hfailed | ⟨v, hv, -⟩
    · exact Or.inl (Or.inr ⟨_, _, hdigits.mode_eq, by rwa [hrev]⟩)
    · exact Or.inr ⟨v, hv, .number hdigits (by rw [hrev, hv]; simp)⟩
  -- with a point, a plus sign or the letter of an exponent no value begins
  · rw [not_or] at hc
    have htake : s.take c = s.begin closable c := by rw [State.take, h.mode_eq]
    have hfailed := failed_begin_number (hcs.isNumberPart c List.mem_cons_self) hc.1 hc.2 s closable
    have hwoven : Woven rest := by
      cases hcs.woven with
      | char _ _ hrest => exact hrest
      | string => exact absurd (hcs.isNumberPart '"' List.mem_cons_self) (by decide)
    exact Or.inl (Or.inl (Strays.run_woven hwoven (.failed (.of_take htake hfailed))))

/-- What follows a number of which only the beginning can be read finds it so. -/
theorem Spent.step (h : Spent s) {c : Char} (hpart : State.isNumberPart c = false) (hI : c ≠ 'I') :
    Failed (s.step c) := by
  obtain ⟨start, digits, hm, hfailed⟩ := h
  have htake : s.take c = (s.closeNumber start digits.reverse).between c := by
    rw [State.take, hm]
    simp [hI, hpart]
  exact .of_take htake (hfailed.between c)

/-- **A reader that is lost stays so.** -/
theorem Lost.run (h : Lost s) (hcs : Trailing cs) : Lost (s.run cs) := by
  obtain ⟨hwoven, hends⟩ := hcs
  rcases h with h | h
  · exact Or.inl (h.run_woven hwoven)
  -- the character behind a spent number is an error, and the rest of the text is woven again
  cases hwoven with
  | nil => exact Or.inr h
  | char _ _ hcs =>
    obtain ⟨hpart, hI⟩ := hends _ rfl
    exact Or.inl (Strays.run_woven hcs (.failed (h.step hpart hI)))
  | string hcs hrest =>
    obtain ⟨hpart, hI⟩ := hends _ rfl
    rw [run_cons, State.run_append, run_cons]
    exact Or.inl (Strays.run_woven hrest
      (strays_step_quote (isOutside_run_guarded hcs (h.step hpart hI).isOutside)))

theorem Lost.finish_eq (h : Lost s) : ∃ e, s.finish = .error e := by
  rcases h with h | ⟨start, digits, hm, e, he⟩
  · exact h.finish_eq
  · exact ⟨e, by rw [State.finish, hm]; simp only [he]⟩

end Machine

end CommandBook.Json
