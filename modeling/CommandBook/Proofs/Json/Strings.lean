import CommandBook.Json.Printer
import CommandBook.Json.Reader

/-!
# Strings as JSON writes and reads them

Between its quotes a string may be written in many ways. `ReadsAs cs text` says that `cs` is one of
them: wherever inside a string the reader meets `cs`, it takes it for `text`. What escapes write
reads as the text, and so does a row of characters that need no escape, so a string may be put
together from both.

An escape of four digits ends only with the character behind it. The reader inside a string is
therefore in one of two modes for the same code points, and `InString` stands for both.

## Main statements

* `joinSurrogates_of_spells` — code points and pairs of surrogates give the text back
* `escapeForm_escape` — the forms in which a character is written
* `readsAs_escape`, `readsAs_plain` — one character, escaped or as it is
* `ReadsAs.append` — the parts of a string are read one after the other
-/

namespace CommandBook.Json

/-! ## Code points and surrogates -/

/-- The high surrogate of a character beyond the first plane. -/
def highUnit (c : Char) : Nat := 0xD800 + (c.toNat - 0x10000) / 0x400

/-- The low surrogate of a character beyond the first plane. -/
def lowUnit (c : Char) : Nat := 0xDC00 + (c.toNat - 0x10000) % 0x400

/-- A row of code points that stands for a text: a character is its own code point or, beyond the
first plane, a pair of surrogates. -/
inductive Spells : List Nat → List Char → Prop where
  | nil : Spells [] []
  | char (c : Char) {points : List Nat} {text : List Char} :
      Spells points text → Spells (c.toNat :: points) (c :: text)
  | pair (c : Char) {points : List Nat} {text : List Char} :
      0x10000 ≤ c.toNat → Spells points text →
      Spells (highUnit c :: lowUnit c :: points) (c :: text)

theorem Spells.append {points points' : List Nat} {text text' : List Char}
    (h : Spells points text) (h' : Spells points' text') :
    Spells (points ++ points') (text ++ text') := by
  induction h with
  | nil => exact h'
  | char c _ ih => exact .char c ih
  | pair c hc _ ih => exact .pair c hc ih

/-- A character is no surrogate, and there are no characters beyond the last plane. -/
theorem toNat_bounds (c : Char) : ¬(0xD800 ≤ c.toNat ∧ c.toNat < 0xE000) ∧ c.toNat < 0x110000 := by
  have h : c.toNat < 0xD800 ∨ 0xDFFF < c.toNat ∧ c.toNat < 0x110000 := c.valid
  omega

theorem joinSurrogates_char (c : Char) (points : List Nat) :
    joinSurrogates (c.toNat :: points) = c :: joinSurrogates points := by
  have hc := (toNat_bounds c).1
  have hhigh : ¬(0xD800 ≤ c.toNat ∧ c.toNat < 0xDC00) := by omega
  -- the last code point has an equation of its own, with none behind it to make a pair
  cases points with
  | nil => simp [joinSurrogates, hc]
  | cons m rest =>
    rw [joinSurrogates, if_neg (by simp only [Bool.and_eq_true, decide_eq_true_eq]; omega),
      if_neg (by simpa using hc), Char.ofNat_toNat]

theorem joinSurrogates_pair {c : Char} (h : 0x10000 ≤ c.toNat) (points : List Nat) :
    joinSurrogates (highUnit c :: lowUnit c :: points) = c :: joinSurrogates points := by
  have hc := (toNat_bounds c).2
  have hlow : (c.toNat - 0x10000) % 0x400 < 0x400 := Nat.mod_lt _ (by decide)
  unfold highUnit lowUnit
  rw [joinSurrogates, if_pos (by simp only [Bool.and_eq_true, decide_eq_true_eq]; omega)]
  have hvalue : 0x10000 + (0xD800 + (c.toNat - 0x10000) / 0x400 - 0xD800) * 0x400
      + (0xDC00 + (c.toNat - 0x10000) % 0x400 - 0xDC00) = c.toNat := by omega
  rw [hvalue, Char.ofNat_toNat]

/-- **Joining surrogates gives back the text that a row of code points stands for.** -/
theorem joinSurrogates_of_spells {points : List Nat} {text : List Char} (h : Spells points text) :
    joinSurrogates points = text := by
  induction h with
  | nil => rfl
  | char c _ ih => rw [joinSurrogates_char, ih]
  | pair c hc _ ih => rw [joinSurrogates_pair hc, ih]

/-! ## The reader inside a string -/

/-- The machine is inside a string for `owner` with the collections `stack` open, and has read
`points`, latest first. -/
inductive InString (s : State) (stack : List Frame) (owner : Owner) : List Nat → Prop where
  | plain {start : Nat} {points : List Nat} :
      s.stack = stack → s.mode = .string owner start points .none → InString s stack owner points
  | escaped {start opened n : Nat} {points : List Nat} :
      s.stack = stack → s.mode = .string owner start points (.unicode opened n 4) →
      InString s stack owner (n :: points)

section Inside
variable {s : State} {stack : List Frame} {owner : Owner} {points : List Nat}

@[simp] theorem run_nil (s : State) : s.run [] = s := rfl

theorem run_cons (s : State) (c : Char) (cs : List Char) : s.run (c :: cs) = (s.step c).run cs := rfl

@[simp] theorem step_stack (s : State) (c : Char) : (s.step c).stack = (s.take c).stack := rfl

@[simp] theorem step_mode (s : State) (c : Char) : (s.step c).mode = (s.take c).mode := rfl

theorem InString.stack_eq (h : InString s stack owner points) : s.stack = stack := by
  cases h <;> assumption

/-- Whichever of its two modes the reader is in, the next character counts as one that is not part
of an escape. -/
theorem InString.take_eq (h : InString s stack owner points) (c : Char) :
    ∃ start, s.take c = s.plain owner start points c := by
  cases h with
  | @plain start _ _ hm => exact ⟨start, by rw [State.take, hm]; rfl⟩
  | @escaped start _ _ _ _ hm => exact ⟨start, by rw [State.take, hm]; rfl⟩

/-- A character that stands in a string as it is. -/
theorem InString.step_plain (h : InString s stack owner points) {c : Char} (hq : c ≠ '"')
    (hb : c ≠ '\\') (hc : 0x20 ≤ c.toNat) : InString (s.step c) stack owner (c.toNat :: points) := by
  obtain ⟨start, htake⟩ := h.take_eq c
  have hplain : s.plain owner start points c =
      { s with mode := .string owner start (c.toNat :: points) .none } := by
    simp [State.plain, hq, hb, Nat.not_lt.2 hc]
  refine @InString.plain _ _ _ start _ ?_ ?_
  · rw [step_stack, htake, hplain]; exact h.stack_eq
  · rw [step_mode, htake, hplain]

/-- The backslash that opens an escape. -/
theorem InString.step_backslash (h : InString s stack owner points) :
    (s.step '\\').stack = stack ∧ ∃ start, (s.step '\\').mode = .string owner start points .slash := by
  obtain ⟨start, htake⟩ := h.take_eq '\\'
  have hplain : s.plain owner start points '\\' =
      { s with mode := .string owner start points .slash } := rfl
  refine ⟨?_, start, ?_⟩
  · rw [step_stack, htake, hplain]; exact h.stack_eq
  · rw [step_mode, htake, hplain]

/-- An escape of one letter. -/
theorem InString.run_letter (h : InString s stack owner points) {c d : Char}
    (hu : c ≠ 'u') (hd : escaped? c = some d) :
    InString (s.run ['\\', c]) stack owner (d.toNat :: points) := by
  obtain ⟨hstack, start, hmode⟩ := h.step_backslash
  have htake : (s.step '\\').take c =
      { s.step '\\' with mode := .string owner start (d.toNat :: points) .none } := by
    rw [State.take, hmode]
    simp [State.inString, hu, hd]
  refine @InString.plain _ _ _ start _ ?_ ?_
  · rw [run_cons, run_cons, run_nil, step_stack, htake]; exact hstack
  · rw [run_cons, run_cons, run_nil, step_mode, htake]

/-- A digit of an escape. -/
theorem step_hexDigit {start opened v count d : Nat} (hcount : count ≠ 4) (hd : d < 16)
    (hm : s.mode = .string owner start points (.unicode opened v count)) :
    (s.step (Text.hexDigit d)).stack = s.stack ∧ (s.step (Text.hexDigit d)).mode =
      .string owner start points (.unicode opened (v * 16 + d) (count + 1)) := by
  have htake : s.take (Text.hexDigit d) = { s with
      mode := .string owner start points (.unicode opened (v * 16 + d) (count + 1)) } := by
    rw [State.take, hm]
    simp [State.inString, Text.hexValue?_hexDigit hd, hcount]
  rw [step_stack, step_mode, htake]
  exact ⟨rfl, rfl⟩

/-- An escape of four digits. -/
theorem InString.run_unit (h : InString s stack owner points) {n : Nat} (hn : n < 0x10000) :
    InString (s.run (unitEscape n)) stack owner (n :: points) := by
  obtain ⟨hstack, start, hmode⟩ := h.step_backslash
  have htake : (s.step '\\').take 'u' =
      { s.step '\\' with
        mode := .string owner start points (.unicode (s.step '\\').offset 0 0) } := by
    rw [State.take, hmode]; rfl
  have hopened : ((s.step '\\').step 'u').mode =
      .string owner start points (.unicode (s.step '\\').offset 0 0) := by
    rw [step_mode, htake]
  -- the highest digit first
  obtain ⟨hs₁, hm₁⟩ := step_hexDigit (d := n / 16 / 16 / 16 % 16) (by decide) (by omega) hopened
  obtain ⟨hs₂, hm₂⟩ := step_hexDigit (d := n / 16 / 16 % 16) (by decide) (by omega) hm₁
  obtain ⟨hs₃, hm₃⟩ := step_hexDigit (d := n / 16 % 16) (by decide) (by omega) hm₂
  obtain ⟨hs₄, hm₄⟩ := step_hexDigit (d := n % 16) (by decide) (by omega) hm₃
  have hvalue : (((0 * 16 + n / 16 / 16 / 16 % 16) * 16 + n / 16 / 16 % 16) * 16 + n / 16 % 16) * 16 +
      n % 16 = n := by omega
  rw [hvalue] at hm₄
  refine @InString.escaped _ _ _ start (s.step '\\').offset _ _ ?_ hm₄
  exact hs₄.trans (hs₃.trans (hs₂.trans (hs₁.trans (by rw [step_stack, htake]; exact hstack))))

end Inside

/-! ## The forms of an escape -/

/-- The letters that the printer puts behind a backslash. -/
def escapeLetters : List Char := ['"', '\\', 'n', 'r', 't', 'f', 'b']

/-- The ways in which the printer writes a character inside a string. -/
inductive EscapeForm (c : Char) : List Char → Prop where
  | letter {d : Char} : d ∈ escapeLetters → escaped? d = some c → EscapeForm c ['\\', d]
  | plain : c ≠ '"' → c ≠ '\\' → 0x20 ≤ c.toNat → c.toNat < 0x7F → EscapeForm c [c]
  | unit : ¬(0x20 ≤ c.toNat ∧ c.toNat < 0x7F) → c.toNat < 0x10000 →
      EscapeForm c (unitEscape c.toNat)
  | pair : 0x10000 ≤ c.toNat → EscapeForm c (unitEscape (highUnit c) ++ unitEscape (lowUnit c))

theorem escapeForm_of_eq {c d : Char} (h : escaped? d = some c) (hd : d ∈ escapeLetters)
    (heq : escape c = ['\\', d]) : EscapeForm c (escape c) := by
  rw [heq]
  exact .letter hd h

/-- **Each character is written in one of these ways.** -/
theorem escapeForm_escape (c : Char) : EscapeForm c (escape c) := by
  by_cases hq : c = '"'
  · subst hq; exact escapeForm_of_eq rfl (by decide) rfl
  by_cases hb : c = '\\'
  · subst hb; exact escapeForm_of_eq rfl (by decide) rfl
  by_cases hn : c = '\n'
  · subst hn; exact escapeForm_of_eq rfl (by decide) rfl
  by_cases hr : c = '\r'
  · subst hr; exact escapeForm_of_eq rfl (by decide) rfl
  by_cases ht : c = '\t'
  · subst ht; exact escapeForm_of_eq rfl (by decide) rfl
  by_cases hf : c.toNat = 0x0C
  · obtain rfl : c = '\x0C' := Char.toNat_inj.1 hf
    exact escapeForm_of_eq rfl (by decide) rfl
  by_cases hbs : c.toNat = 0x08
  · obtain rfl : c = '\x08' := Char.toNat_inj.1 hbs
    exact escapeForm_of_eq rfl (by decide) rfl
  unfold escape
  rw [if_neg (by simpa using hq), if_neg (by simpa using hb), if_neg (by simpa using hn),
    if_neg (by simpa using hr), if_neg (by simpa using ht), if_neg (by simpa using hf),
    if_neg (by simpa using hbs)]
  split
  · next hplain =>
    simp only [Bool.and_eq_true, decide_eq_true_eq] at hplain
    exact .plain hq hb hplain.1 hplain.2
  next hplain =>
  split
  · next hunit => exact .unit (by simpa using hplain) hunit
  · next hpair => exact .pair (Nat.not_lt.1 hpair)

/-- A character that is seen, or a blank. -/
def IsVisible (c : Char) : Prop := 0x20 ≤ c.toNat ∧ c.toNat < 0x7F

/-- The characters of an escape of four digits. -/
def unitChars : List Char := '\\' :: 'u' :: (List.range 16).map Text.hexDigit

theorem mem_unitChars_of_mem_unitEscape {c : Char} {n : Nat} (h : c ∈ unitEscape n) :
    c ∈ unitChars := by
  rcases List.mem_cons.1 h with rfl | h
  · exact List.mem_cons_self
  rcases List.mem_cons.1 h with rfl | h
  · exact List.mem_cons_of_mem _ List.mem_cons_self
  · obtain ⟨d, hd, rfl⟩ := Text.eq_hexDigit_of_mem_hexDigits h
    have hdigit := List.mem_map_of_mem (f := Text.hexDigit) (List.mem_range.2 hd)
    exact List.mem_cons_of_mem _ (List.mem_cons_of_mem _ hdigit)

theorem isVisible_of_mem_unitEscape {c : Char} {n : Nat} (h : c ∈ unitEscape n) : IsVisible c := by
  have hall : unitChars.all fun d => 0x20 ≤ d.toNat && d.toNat < 0x7F := by decide
  simpa [IsVisible] using List.all_eq_true.1 hall c (mem_unitChars_of_mem_unitEscape h)

theorem EscapeForm.isVisible {c : Char} {cs : List Char} (h : EscapeForm c cs) :
    ∀ d ∈ cs, IsVisible d := by
  cases h with
  | letter hl _ =>
    have hall : escapeLetters.all fun l => 0x20 ≤ l.toNat && l.toNat < 0x7F := by decide
    intro d hd
    rcases List.mem_cons.1 hd with rfl | hd
    · exact ⟨by decide, by decide⟩
    · rw [List.mem_singleton.1 hd]
      simpa [IsVisible] using List.all_eq_true.1 hall _ hl
  | plain _ _ hlow hhigh =>
    intro d hd
    rw [List.mem_singleton.1 hd]
    exact ⟨hlow, hhigh⟩
  | unit _ _ => exact fun d hd => isVisible_of_mem_unitEscape hd
  | pair _ =>
    intro d hd
    rcases List.mem_append.1 hd with hd | hd
    · exact isVisible_of_mem_unitEscape hd
    · exact isVisible_of_mem_unitEscape hd

/-- **Escapes leave nothing but visible characters.** -/
theorem isVisible_of_mem_escape {c d : Char} (h : d ∈ escape c) : IsVisible d :=
  (escapeForm_escape c).isVisible d h

/-! ## What the inside of a string reads as -/

/-- Wherever it stands in a string, the reader takes `cs` for `text`. -/
def ReadsAs (cs text : List Char) : Prop :=
  ∃ points, Spells points text ∧ ∀ {s : State} {stack : List Frame} {owner : Owner}
    {before : List Nat}, InString s stack owner before →
      InString (s.run cs) stack owner (points.reverse ++ before)

theorem readsAs_nil : ReadsAs [] [] := ⟨[], .nil, fun h => h⟩

/-- **The parts of a string are read one after the other.** -/
theorem ReadsAs.append {cs ds text text' : List Char} (h : ReadsAs cs text)
    (h' : ReadsAs ds text') : ReadsAs (cs ++ ds) (text ++ text') := by
  obtain ⟨points, hp, hrun⟩ := h
  obtain ⟨points', hp', hrun'⟩ := h'
  refine ⟨points ++ points', hp.append hp', fun hs => ?_⟩
  rw [State.run_append, List.reverse_append, List.append_assoc]
  exact hrun' (hrun hs)

/-- One code point that the reader finds. -/
theorem readsAs_char {cs : List Char} {c : Char}
    (h : ∀ {s : State} {stack : List Frame} {owner : Owner} {before : List Nat},
      InString s stack owner before → InString (s.run cs) stack owner (c.toNat :: before)) :
    ReadsAs cs [c] :=
  ⟨[c.toNat], .char c .nil, fun hs => h hs⟩

/-- A character that needs no escape reads as itself. -/
theorem readsAs_plain {c : Char} (hq : c ≠ '"') (hb : c ≠ '\\') (hc : 0x20 ≤ c.toNat) :
    ReadsAs [c] [c] :=
  readsAs_char fun hs => hs.step_plain hq hb hc

theorem EscapeForm.readsAs {c : Char} {cs : List Char} (h : EscapeForm c cs) : ReadsAs cs [c] := by
  cases h with
  | @letter d hl hd =>
    have hu : d ≠ 'u' := by rintro rfl; exact absurd hl (by decide)
    exact readsAs_char fun hs => hs.run_letter hu hd
  | plain hq hb hc _ => exact readsAs_plain hq hb hc
  | unit _ h => exact readsAs_char fun hs => hs.run_unit h
  | pair h =>
    have hc := (toNat_bounds c).2
    refine ⟨[highUnit c, lowUnit c], .pair c h .nil, fun hs => ?_⟩
    rw [State.run_append]
    exact (hs.run_unit (by unfold highUnit; omega)).run_unit (by unfold lowUnit; omega)

/-- **What an escape writes reads as the character.** -/
theorem readsAs_escape (c : Char) : ReadsAs (escape c) [c] := (escapeForm_escape c).readsAs

/-- The escapes of a text read as the text. -/
theorem readsAs_flatMap_escape : ∀ text : List Char, ReadsAs (text.flatMap escape) text
  | [] => readsAs_nil
  | c :: rest => (readsAs_escape c).append (readsAs_flatMap_escape rest)

/-- Characters that need no escape read as themselves. -/
theorem readsAs_self : ∀ {text : List Char},
    (∀ c ∈ text, c ≠ '"' ∧ c ≠ '\\' ∧ 0x20 ≤ c.toNat) → ReadsAs text text
  | [], _ => readsAs_nil
  | c :: rest, h => by
    obtain ⟨hq, hb, hc⟩ := h c List.mem_cons_self
    exact (readsAs_plain hq hb hc).append
      (readsAs_self fun d hd => h d (List.mem_cons_of_mem _ hd))

end CommandBook.Json
