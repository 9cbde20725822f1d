import CommandBook.Proofs.Json.RoundTrip

/-!
# The reader outside of strings

Whatever the reader waits for outside of strings, a quote either opens one or is an error, a
backslash is an error, and no other character leads into a string. Behind a value even fewer
characters may follow, so a number of which the reader takes only the beginning is an error too,
at the first of the characters that are left.

## Main statements

* `isOutside_step` — only a quote leads into a string
* `step_mark` — what a quote or a backslash does
* `closeNumber_cases` — a number is read in full, or is an error
-/

namespace CommandBook.Json

/-- A mode outside of strings. What it waits for has no quote and no backslash in it. -/
def Mode.IsOutside : Mode → Prop
  | .string _ _ _ _ => False
  | .number _ digits => ∀ c ∈ digits, State.isNumberPart c
  | .word _ left _ => left ≠ [] ∧ '"' ∉ left ∧ '\\' ∉ left
  | _ => True

/-- Something was wrong. -/
def Failed (s : State) : Prop := ∃ e, s.mode = .failed e

section Machine
variable {s : State}

theorem Failed.step (h : Failed s) (c : Char) : Failed (s.step c) := by
  obtain ⟨e, he⟩ := h
  exact ⟨e, by rw [step_mode, State.take, he]; exact he⟩

theorem Failed.isOutside (h : Failed s) : s.mode.IsOutside := by
  obtain ⟨e, he⟩ := h
  rw [he]
  trivial

theorem failed_fail (s : State) (cause : ReadCause) (offset : Nat) : Failed (s.fail cause offset) :=
  ⟨_, rfl⟩

/-- A step that fails. -/
theorem Failed.of_take {c : Char} {t : State} (h : s.take c = t) (ht : Failed t) :
    Failed (s.step c) := by
  obtain ⟨e, he⟩ := ht
  exact ⟨e, by rw [step_mode, h]; exact he⟩

/-! ## The ends of entries and numbers -/

/-- A character that may stand behind an entry of a collection. -/
def maySeparate (c : Char) : Bool := isGap c || c == ',' || c == ']' || c == '\x7d'

/-- No other character may stand behind a value: it is no JSON. -/
theorem malformed_between (hs : s.mode = .next ∨ ∃ v, s.mode = .complete v) {c : Char}
    (hc : maySeparate c = false) :
    ∃ cause offset, (s.between c).mode = .failed (.malformed cause offset) := by
  simp only [maySeparate, Bool.or_eq_false_iff, beq_eq_false_iff_ne] at hc
  obtain ⟨⟨⟨hgap, hcomma⟩, hitems⟩, hmembers⟩ := hc
  rcases hs with hs | ⟨v, hs⟩
  · rw [State.between, hs]
    simp only [State.afterEntry, hgap, Bool.false_eq_true, if_false]
    split
    · exact absurd rfl hcomma
    · exact absurd rfl hitems
    · exact absurd rfl hcomma
    · exact absurd rfl hmembers
    · exact ⟨_, _, rfl⟩
  · rw [State.between, hs]
    simp only [hgap, Bool.false_eq_true, if_false]
    exact ⟨_, _, rfl⟩

theorem failed_between (hs : s.mode = .next ∨ ∃ v, s.mode = .complete v) {c : Char}
    (hc : maySeparate c = false) : Failed (s.between c) := by
  obtain ⟨cause, offset, hmode⟩ := malformed_between hs hc
  exact ⟨_, hmode⟩

theorem deliver_mode (s : State) (v : Json) :
    (s.deliver v).mode = .next ∨ ∃ w, (s.deliver v).mode = .complete w := by
  rw [deliver_eq]
  match s.stack with
  | [] => exact Or.inr ⟨v, rfl⟩
  | .items _ :: _ => exact Or.inl rfl
  | .member _ _ :: _ => exact Or.inl rfl

theorem isOutside_deliver (s : State) (v : Json) : (s.deliver v).mode.IsOutside := by
  rcases deliver_mode s v with hm | ⟨w, hm⟩ <;> rw [hm] <;> trivial

theorem isOutside_afterEntry (h : s.mode.IsOutside) (c : Char) :
    (s.afterEntry c).mode.IsOutside := by
  unfold State.afterEntry
  split
  · exact h
  · split <;> first | trivial | exact isOutside_deliver _ _

theorem isOutside_between (h : s.mode.IsOutside) (c : Char) : (s.between c).mode.IsOutside := by
  unfold State.between
  split
  · exact isOutside_afterEntry h c
  · split
    · exact h
    · trivial
  · exact h

theorem maySeparate_of_isNumberPart {c : Char} (h : State.isNumberPart c) :
    maySeparate c = false := by
  rw [← Bool.not_eq_true]
  intro hc
  simp only [maySeparate, Bool.or_eq_true, beq_iff_eq] at hc
  rcases hc with ((hc | rfl) | rfl) | rfl
  · rcases eq_of_isGap hc with rfl | rfl | rfl | rfl <;> exact absurd h (by decide)
  all_goals exact absurd h (by decide)

/-- The number at the start of a text is no longer than the text. -/
theorem used_le_of_numberAt? {cs : List Char} {n : Except ReadFailure Json} {used : Nat}
    (h : numberAt? cs = some (n, used)) : used ≤ cs.length := by
  unfold numberAt? at h
  extract_lets at h
  split at h
  · cases h
  · split at h
    · split at h <;> simp only [Option.some.injEq, Prod.mk.injEq] at h <;> rw [← h.2] <;>
        exact Nat.sub_le _ _
    · simp only [Option.some.injEq, Prod.mk.injEq] at h
      rw [← h.2]
      exact Nat.sub_le _ _

/-- **The end of a number** delivers it if all of its characters are read, and is an error
otherwise. -/
theorem closeNumber_cases (s : State) (start : Nat) {digits : List Char}
    (h : ∀ c ∈ digits, State.isNumberPart c) :
    Failed (s.closeNumber start digits) ∨
      ∃ v, numberAt? digits = some (.ok v, digits.length) ∧
        s.closeNumber start digits = s.deliver v := by
  unfold State.closeNumber
  split
  · exact Or.inl (failed_fail _ _ _)
  · exact Or.inl ⟨_, rfl⟩
  next v used hn =>
  split
  · next hdrop =>
    have hused : used = digits.length :=
      Nat.le_antisymm (used_le_of_numberAt? hn) (List.drop_eq_nil_iff.1 hdrop)
    exact Or.inr ⟨v, by rw [hn, hused], rfl⟩
  -- the first character that is not read is none that may follow
  · next c rest hdrop =>
    have hc : c ∈ digits := (List.drop_sublist used digits).subset (by rw [hdrop]; simp)
    exact Or.inl (failed_between (deliver_mode _ v) (maySeparate_of_isNumberPart (h c hc)))

theorem isOutside_closeNumber (s : State) (start : Nat) {digits : List Char}
    (h : ∀ c ∈ digits, State.isNumberPart c) : (s.closeNumber start digits).mode.IsOutside := by
  rcases closeNumber_cases s start h with hfailed | ⟨v, -, heq⟩
  · exact hfailed.isOutside
  · rw [heq]
    exact isOutside_deliver s v

theorem Failed.between (h : Failed s) (c : Char) : Failed (s.between c) := by
  obtain ⟨e, he⟩ := h
  refine ⟨e, ?_⟩
  rw [State.between, he]
  exact he

/-! ## Outside of strings -/

theorem isOutside_begin (h : s.mode.IsOutside) {c : Char} (hc : c ≠ '"') (closable : Bool) :
    (s.begin closable c).mode.IsOutside := by
  unfold State.begin
  split
  · exact h
  split
  · exact absurd rfl hc
  all_goals first | exact ⟨by decide, by decide, by decide⟩ | trivial | skip
  · split
    · exact isOutside_deliver _ _
    · trivial
  -- what is left is the first character of a number, or none of a value
  · split
    · next hnumber =>
      show ∀ d ∈ [c], State.isNumberPart d
      intro d hd
      rw [List.mem_singleton.1 hd]
      rcases Bool.or_eq_true_iff.1 hnumber with hminus | hdigit
      · rw [beq_iff_eq.1 hminus]
        rfl
      · exact isNumberPart_of_isDigit hdigit
    · trivial

theorem isOutside_beginName (h : s.mode.IsOutside) {c : Char} (hc : c ≠ '"')
    (done : List (String × Json)) (closable : Bool) :
    (s.beginName done closable c).mode.IsOutside := by
  unfold State.beginName
  split
  · exact h
  split
  · next hquote => exact absurd (beq_iff_eq.1 hquote) hc
  split
  · exact isOutside_deliver _ _
  · trivial

/-- **Outside of strings only a quote leads into one.** -/
theorem isOutside_step (h : s.mode.IsOutside) {c : Char} (hc : c ≠ '"') :
    (s.step c).mode.IsOutside := by
  rw [step_mode]
  unfold State.take
  split
  case h_1 hm => rw [hm]; trivial
  case h_2 => exact isOutside_begin h hc _
  case h_3 => exact isOutside_beginName h hc _ _
  case h_4 =>
    split
    · exact h
    split <;> trivial
  case h_5 => exact isOutside_between h c
  case h_6 => exact isOutside_between h c
  case h_7 hm => rw [hm] at h; exact h.elim
  case h_8 start digits hm =>
    rw [hm] at h
    split
    · exact ⟨by decide, by decide, by decide⟩
    split
    · next hpart => exact List.forall_mem_cons.2 ⟨hpart, h⟩
    · exact isOutside_between
        (isOutside_closeNumber s start fun d hd => h d (List.mem_reverse.1 hd)) c
  case h_9 start left v hm =>
    rw [hm] at h
    obtain ⟨hne, hquote, hslash⟩ := h
    cases left with
    | nil => exact absurd rfl hne
    | cons d more =>
      rw [List.mem_cons, not_or] at hquote hslash
      dsimp only
      split
      · split
        · exact isOutside_deliver s v
        · next hmore => exact ⟨by simpa using hmore, hquote.2, hslash.2⟩
      · trivial

/-- Outside of strings a backslash is an error, and a quote either opens a string or is one. -/
theorem step_mark (h : s.mode.IsOutside) {c : Char} (hc : c = '"' ∨ c = '\\') :
    Failed (s.step c) ∨ c = '"' ∧ ∃ owner, InString (s.step c) s.stack owner [] := by
  have hsep : maySeparate c = false := by rcases hc with rfl | rfl <;> decide
  have hpart : State.isNumberPart c = false := by rcases hc with rfl | rfl <;> decide
  have hI : c ≠ 'I' := by rcases hc with rfl | rfl <;> decide
  cases hm : s.mode with
  | failed e => exact Or.inl (Failed.step ⟨e, hm⟩ c)
  | value closable =>
    have htake : s.take c = s.begin closable c := by rw [State.take, hm]
    rcases hc with rfl | rfl
    · exact Or.inr ⟨rfl, .value, At.open_value ⟨rfl, hm⟩⟩
    · exact Or.inl (.of_take htake (failed_fail _ _ _))
  | name done closable =>
    have htake : s.take c = s.beginName done closable c := by rw [State.take, hm]
    rcases hc with rfl | rfl
    · exact Or.inr ⟨rfl, .name done, At.open_name ⟨rfl, hm⟩⟩
    · exact Or.inl (.of_take htake (failed_fail _ _ _))
  | colon done name =>
    have htake : s.take c = s.fail .colonExpected s.offset := by
      rw [State.take, hm]
      rcases hc with rfl | rfl <;> rfl
    exact Or.inl (.of_take htake (failed_fail _ _ _))
  | next =>
    have htake : s.take c = s.between c := by rw [State.take, hm]
    exact Or.inl (.of_take htake (failed_between (Or.inl hm) hsep))
  | complete v =>
    have htake : s.take c = s.between c := by rw [State.take, hm]
    exact Or.inl (.of_take htake (failed_between (Or.inr ⟨v, hm⟩) hsep))
  | string owner start points escape => rw [hm] at h; exact h.elim
  | number start digits =>
    rw [hm] at h
    have htake : s.take c = (s.closeNumber start digits.reverse).between c := by
      rw [State.take, hm]
      simp [hI, hpart]
    refine Or.inl (.of_take htake ?_)
    rcases closeNumber_cases s start fun d hd => h d (List.mem_reverse.1 hd) with hf | ⟨v, -, heq⟩
    · exact hf.between c
    · rw [heq]
      exact failed_between (deliver_mode s v) hsep
  | word start left v =>
    rw [hm] at h
    obtain ⟨hne, hquote, hslash⟩ := h
    cases left with
    | nil => exact absurd rfl hne
    | cons d more =>
      rw [List.mem_cons, not_or] at hquote hslash
      have hcd : c ≠ d := by
        rcases hc with rfl | rfl
        · exact hquote.1
        · exact hslash.1
      have htake : s.take c = s.fail .valueExpected start := by
        rw [State.take, hm]
        simp [hcd]
      exact Or.inl (.of_take htake (failed_fail _ _ _))

end Machine

end CommandBook.Json
