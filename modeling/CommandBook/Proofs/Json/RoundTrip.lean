import CommandBook.Proofs.Json.Integers
import CommandBook.Proofs.Json.Layout
import CommandBook.Proofs.Json.Strings

/-!
# What a layout writes is read back

The reader takes what a layout has written for the value with its texts as the layout writes them
and its names merged. Numbers are integers here.

A number ends with the character behind it, so behind a value the reader is in one of two
situations; `Holds` stands for both, and its lemmas say what the tokens behind a value do in
either.

## Main statements

* `run_write` — the reader over the text of a value, wherever a value may stand
* `readChars_write` — the text of a value on its own
* `read_renderIndented` — what is written one item a line
-/

namespace CommandBook.Json

open Decimal

/-! ## Where the machine stands -/

/-- The machine has certain collections open and is in a certain mode. -/
structure At (s : State) (stack : List Frame) (mode : Mode) : Prop where
  stack_eq : s.stack = stack
  mode_eq : s.mode = mode

/-- Open collections and mode after a value has been put where it belongs. -/
def settled : List Frame → Json → List Frame × Mode
  | [], v => ([], .complete v)
  | .items done :: rest, v => (.items (v :: done) :: rest, .next)
  | .member done name :: rest, v => (.member (insertEntry name v done) name :: rest, .next)

/-- The machine has read a value where `stack` was open; if it is a number, more characters of it
could still come. -/
inductive Holds (s : State) (stack : List Frame) (v : Json) : Prop where
  | delivered : At s (settled stack v).1 (settled stack v).2 → Holds s stack v
  | number {start : Nat} {digits : List Char} : At s stack (.number start digits) →
      numberAt? digits.reverse = some (.ok v, digits.length) → Holds s stack v

section Machine
variable {s : State} {stack : List Frame} {v w : Json}

theorem At.step {c : Char} {t : State} {mode : Mode} (h : s.take c = t) (ht : At t stack mode) :
    At (s.step c) stack mode :=
  ⟨by rw [step_stack, h]; exact ht.stack_eq, by rw [step_mode, h]; exact ht.mode_eq⟩

theorem deliver_eq (s : State) (v : Json) :
    s.deliver v = ⟨s.offset, (settled s.stack v).1, (settled s.stack v).2⟩ := by
  obtain ⟨offset, stack, mode⟩ := s
  match stack with
  | [] => rfl
  | .items _ :: _ => rfl
  | .member _ _ :: _ => rfl

theorem at_deliver (s : State) (v : Json) :
    At (s.deliver v) (settled s.stack v).1 (settled s.stack v).2 := by
  rw [deliver_eq]
  exact ⟨rfl, rfl⟩

/-- A step that delivers a value. -/
theorem Holds.of_deliver {c : Char} {t : State} (h : s.take c = t.deliver v)
    (ht : t.stack = stack) : Holds (s.step c) stack v :=
  .delivered (.step h (ht ▸ at_deliver t v))

theorem drop_length_reverse (digits : List Char) : digits.reverse.drop digits.length = [] := by
  rw [← List.length_reverse, List.drop_length]

/-- The end of a number delivers it. -/
theorem closeNumber_eq_deliver {start : Nat} {digits : List Char}
    (h : numberAt? digits.reverse = some (.ok v, digits.length)) :
    s.closeNumber start digits.reverse = s.deliver v := by
  rw [State.closeNumber, h]
  simp only [drop_length_reverse]

/-- A character behind a value that is no part of a number meets the settled machine. -/
theorem Holds.take_eq (h : Holds s stack v) {c : Char} (hc : State.isNumberPart c = false)
    (hI : c ≠ 'I') : ∃ offset,
      s.take c = State.between ⟨offset, (settled stack v).1, (settled stack v).2⟩ c := by
  cases h with
  | delivered h =>
    obtain ⟨offset, _, _⟩ := s
    obtain ⟨rfl, rfl⟩ := h
    refine ⟨offset, ?_⟩
    match stack with
    | [] => rfl
    | .items _ :: _ => rfl
    | .member _ _ :: _ => rfl
  -- the character ends the number, which is delivered before the character counts
  | number h hn =>
    refine ⟨s.offset, ?_⟩
    rw [State.take, h.mode_eq, ← h.stack_eq, ← deliver_eq]
    simp [hI, hc, closeNumber_eq_deliver hn]

theorem Holds.finish_eq (h : Holds s [] v) : s.finish = .ok v := by
  cases h with
  | delivered h =>
    rw [State.finish, h.mode_eq]
    simp only [settled, h.mode_eq]
  | number h hn =>
    rw [State.finish, h.mode_eq]
    simp only [closeNumber_eq_deliver hn, deliver_eq, h.stack_eq, settled]

/-! ## Tokens behind an entry -/

theorem Holds.step_comma_items {done : List Json} (h : Holds s (.items done :: stack) v) :
    At (s.step ',') (.items (v :: done) :: stack) (.value false) := by
  obtain ⟨offset, htake⟩ := h.take_eq (c := ',') (by decide) (by decide)
  exact .step htake ⟨rfl, rfl⟩

theorem Holds.step_close_items {done : List Json} (h : Holds s (.items done :: stack) v) :
    Holds (s.step ']') stack (.arr (v :: done).reverse) := by
  obtain ⟨offset, htake⟩ := h.take_eq (c := ']') (by decide) (by decide)
  exact .of_deliver (t := ⟨offset, stack, .next⟩) htake rfl

theorem Holds.step_comma_member {done : List (String × Json)} {name : String}
    (h : Holds s (.member done name :: stack) v) :
    At (s.step ',') stack (.name (insertEntry name v done) false) := by
  obtain ⟨offset, htake⟩ := h.take_eq (c := ',') (by decide) (by decide)
  exact .step htake ⟨rfl, rfl⟩

theorem Holds.step_close_member {done : List (String × Json)} {name : String}
    (h : Holds s (.member done name :: stack) v) :
    Holds (s.step '\x7d') stack (.obj (insertEntry name v done)) := by
  obtain ⟨offset, htake⟩ := h.take_eq (c := '\x7d') (by decide) (by decide)
  exact .of_deliver (t := ⟨offset, stack, .next⟩) htake rfl

/-! ## Gaps -/

/-- The characters that may stand in a gap. -/
theorem eq_of_isGap {c : Char} (h : isGap c) : c = ' ' ∨ c = '\t' ∨ c = '\n' ∨ c = '\r' := by
  simpa [isGap, or_assoc] using h

theorem Holds.step_gap (h : Holds s stack v) {c : Char} (hc : isGap c) :
    Holds (s.step c) stack v := by
  obtain ⟨offset, htake⟩ := h.take_eq (c := c)
    (by rcases eq_of_isGap hc with rfl | rfl | rfl | rfl <;> decide)
    (by rcases eq_of_isGap hc with rfl | rfl | rfl | rfl <;> decide)
  refine .delivered (.step (t := ⟨offset, (settled stack v).1, (settled stack v).2⟩)
    (htake.trans ?_) ⟨rfl, rfl⟩)
  match stack with
  | [] => exact if_pos hc
  | .items _ :: _ => exact if_pos hc
  | .member _ _ :: _ => exact if_pos hc

theorem Holds.run_gap : ∀ {gap : List Char} {s : State}, Holds s stack v →
    (∀ c ∈ gap, isGap c) → Holds (s.run gap) stack v
  | [], _, h, _ => h
  | _ :: _, _, h, hgap =>
    (h.step_gap (hgap _ List.mem_cons_self)).run_gap fun d hd => hgap d (List.mem_cons_of_mem _ hd)

/-- Characters that a mode passes over leave the machine where it is. -/
theorem At.run_of_take_eq {mode : Mode} {P : Char → Prop}
    (htake : ∀ {s : State} {c : Char}, At s stack mode → P c → s.take c = s) :
    ∀ {cs : List Char} {s : State}, At s stack mode → (∀ c ∈ cs, P c) → At (s.run cs) stack mode
  | [], _, h, _ => h
  | c :: _, _, h, hcs =>
    (At.step (htake h (hcs c List.mem_cons_self)) h).run_of_take_eq htake
      fun d hd => hcs d (List.mem_cons_of_mem _ hd)

theorem At.run_gap_value {closable : Bool} {gap : List Char} (h : At s stack (.value closable))
    (hgap : ∀ c ∈ gap, isGap c) : At (s.run gap) stack (.value closable) := by
  refine h.run_of_take_eq (fun ht hc => ?_) hgap
  rw [State.take, ht.mode_eq]
  exact if_pos hc

theorem At.run_gap_name {done : List (String × Json)} {closable : Bool} {gap : List Char}
    (h : At s stack (.name done closable)) (hgap : ∀ c ∈ gap, isGap c) :
    At (s.run gap) stack (.name done closable) := by
  refine h.run_of_take_eq (fun ht hc => ?_) hgap
  rw [State.take, ht.mode_eq]
  exact if_pos hc

/-! ## Tokens -/

/-- The letters of a word. -/
theorem run_word {start : Nat} : ∀ {left : List Char} {s : State}, left ≠ [] →
    At s stack (.word start left v) → Holds (s.run left) stack v
  | [], _, hne, _ => absurd rfl hne
  | [c], s, _, h => by
    refine .of_deliver ?_ h.stack_eq
    rw [State.take, h.mode_eq]
    simp
  | c :: d :: rest, s, _, h => by
    have htake : s.take c = { s with mode := .word start (d :: rest) v } := by
      rw [State.take, h.mode_eq]
      simp
    have hnext : At (s.step c) stack (.word start (d :: rest) v) := .step htake ⟨h.stack_eq, rfl⟩
    rw [run_cons]
    exact run_word (List.cons_ne_nil d rest) hnext

/-- A word from its first letter on. -/
theorem At.run_word_of_take {closable : Bool} (h : At s stack (.value closable)) {c : Char}
    {left : List Char} (hne : left ≠ [])
    (hc : s.begin closable c = { s with mode := .word s.offset left v }) :
    Holds (s.run (c :: left)) stack v := by
  rw [run_cons]
  refine run_word hne (At.step ?_ (t := { s with mode := .word s.offset left v }) ⟨h.stack_eq, rfl⟩)
  rw [State.take, h.mode_eq]
  exact hc

/-- The characters of a number behind its first one. -/
theorem At.run_numberParts {start : Nat} : ∀ {cs digits : List Char} {s : State},
    At s stack (.number start digits) → (∀ c ∈ cs, State.isNumberPart c) →
      At (s.run cs) stack (.number start (cs.reverse ++ digits))
  | [], _, _, h, _ => h
  | c :: rest, digits, s, h, hcs => by
    have hc := hcs c List.mem_cons_self
    have hI : c ≠ 'I' := by rintro rfl; exact absurd hc (by decide)
    have htake : s.take c = { s with mode := .number start (c :: digits) } := by
      rw [State.take, h.mode_eq]
      simp [hI, hc]
    have hrest := (At.step htake ⟨h.stack_eq, rfl⟩).run_numberParts
      fun d hd => hcs d (List.mem_cons_of_mem _ hd)
    rw [List.reverse_cons, List.append_assoc]
    exact hrest

/-- The first character of a number. -/
theorem At.step_number {closable : Bool} (h : At s stack (.value closable)) {c : Char}
    (hc : c.isDigit ∨ c = '-') : At (s.step c) stack (.number s.offset [c]) := by
  refine .step (t := { s with mode := .number s.offset [c] }) ?_ ⟨h.stack_eq, rfl⟩
  rw [State.take, h.mode_eq]
  show s.begin closable c = _
  have hgap : isGap c = false := by
    rw [← Bool.not_eq_true]
    intro hg
    rcases eq_of_isGap hg with rfl | rfl | rfl | rfl <;> simp at hc
  rw [State.begin, hgap]
  · rw [if_neg Bool.false_ne_true, if_pos (by rcases hc with hc | rfl <;> simp [*])]
  all_goals
    rintro rfl
    rcases hc with hc | hc <;> exact absurd hc (by decide)

/-- The one word that begins like a number. -/
theorem At.run_negInfinity {closable : Bool} (h : At s stack (.value closable)) :
    Holds (s.run ['-', 'I', 'n', 'f', 'i', 'n', 'i', 't', 'y']) stack (.real (-1.0 / 0.0)) := by
  have hminus := h.step_number (Or.inr rfl)
  have hword : At ((s.step '-').step 'I') stack
      (.word s.offset ['n', 'f', 'i', 'n', 'i', 't', 'y'] (.real (-1.0 / 0.0))) := by
    refine .step (t := { s.step '-' with
      mode := .word s.offset ['n', 'f', 'i', 'n', 'i', 't', 'y'] (.real (-1.0 / 0.0)) }) ?_
      ⟨hminus.stack_eq, rfl⟩
    rw [State.take, hminus.mode_eq]
    rfl
  rw [run_cons, run_cons]
  exact run_word (List.cons_ne_nil _ _) hword

/-- **An integer.** -/
theorem At.run_integer {closable : Bool} (h : At s stack (.value closable)) {n : Int}
    (hn : fits n) : Holds (s.run (integer n)) stack (.int n) := by
  obtain ⟨c, rest, hcs, hc, hrest⟩ : ∃ c rest, integer n = c :: rest ∧ (c.isDigit ∨ c = '-') ∧
      ∀ d ∈ rest, d.isDigit := by
    cases n with
    | ofNat m =>
      obtain ⟨c, rest, hcs⟩ := List.exists_cons_of_ne_nil (numeral_ne_nil m)
      have hall : ∀ d ∈ c :: rest, d.isDigit := fun d hd => isDigit_of_mem_numeral (hcs ▸ hd)
      exact ⟨c, rest, hcs, Or.inl (hall c List.mem_cons_self),
        fun d hd => hall d (List.mem_cons_of_mem _ hd)⟩
    | negSucc m => exact ⟨'-', _, rfl, Or.inr rfl, fun d hd => isDigit_of_mem_numeral hd⟩
  -- the first character may be a minus sign, those behind it are digits
  have hdigits := (h.step_number hc).run_numberParts
    fun d hd => isNumberPart_of_isDigit (hrest d hd)
  have hrev : (rest.reverse ++ [c]).reverse = integer n := by simp [hcs]
  rw [hcs, run_cons]
  refine .number hdigits ?_
  rw [hrev, numberAt?_integer hn, ← hrev, List.length_reverse]

/-- The quote that opens a string. -/
theorem At.open_value {closable : Bool} (h : At s stack (.value closable)) :
    InString (s.step '"') stack .value [] := by
  have hopen : s.take '"' = { s with mode := .string .value s.offset [] .none } := by
    rw [State.take, h.mode_eq]; rfl
  exact .plain (by rw [step_stack, hopen]; exact h.stack_eq) (by rw [step_mode, hopen])

/-- The quote that opens a name. -/
theorem At.open_name {done : List (String × Json)} {closable : Bool}
    (h : At s stack (.name done closable)) : InString (s.step '"') stack (.name done) [] := by
  have hopen : s.take '"' = { s with mode := .string (.name done) s.offset [] .none } := by
    rw [State.take, h.mode_eq]; rfl
  exact .plain (by rw [step_stack, hopen]; exact h.stack_eq) (by rw [step_mode, hopen])

section Quoted
variable {cs text : List Char}

/-- The text of a string, behind its opening quote, up to the closing one. -/
theorem run_text {owner : Owner} (hcs : ReadsAs cs text) (h : InString s stack owner []) :
    ∃ (t : State) (start : Nat) (points : List Nat), t = s.run cs ∧ t.stack = stack ∧
      t.take '"' = t.plain owner start points '"' ∧ joinSurrogates points.reverse = text := by
  obtain ⟨points, hpoints, hrun⟩ := hcs
  have hin := hrun h
  rw [List.append_nil] at hin
  obtain ⟨start, htake⟩ := hin.take_eq '"'
  exact ⟨_, start, points.reverse, rfl, hin.stack_eq, htake,
    by rw [List.reverse_reverse]; exact joinSurrogates_of_spells hpoints⟩

/-- **A string as a value.** -/
theorem At.run_string {closable : Bool} (h : At s stack (.value closable)) (hcs : ReadsAs cs text) :
    Holds (s.run ('"' :: cs ++ ['"'])) stack (.str (String.ofList text)) := by
  obtain ⟨t, start, points, rfl, hstack, htake, htext⟩ := run_text hcs h.open_value
  rw [List.cons_append, run_cons, State.run_append, run_cons, run_nil]
  refine .of_deliver ?_ hstack
  rw [htake, ← htext]
  rfl

/-- **A string as a name, and the colon behind it.** -/
theorem At.run_name {done : List (String × Json)} {closable : Bool}
    (h : At s stack (.name done closable)) (hcs : ReadsAs cs text) :
    At (s.run ('"' :: cs ++ '"' :: [':', ' '])) (.member done (String.ofList text) :: stack)
      (.value false) := by
  obtain ⟨t, start, points, rfl, hstack, htake, htext⟩ := run_text hcs h.open_name
  have hname : At (((s.step '"').run cs).step '"') stack (.colon done (String.ofList text)) := by
    refine .step htake ⟨hstack, ?_⟩
    rw [← htext]
    rfl
  have hgap : ∀ c ∈ [' '], isGap c := fun c hc => by
    rw [List.mem_singleton.1 hc]
    rfl
  rw [List.cons_append, run_cons, State.run_append, run_cons, run_cons]
  refine At.run_gap_value ?_ hgap
  refine .step (t := { (((s.step '"').run cs).step '"') with
    stack := .member done (String.ofList text) :: stack, mode := .value false }) ?_ ⟨rfl, rfl⟩
  rw [State.take, hname.mode_eq, ← hname.stack_eq]
  rfl

end Quoted

/-- An opening bracket. -/
theorem At.step_openItems {closable : Bool} (h : At s stack (.value closable)) :
    At (s.step '[') (.items [] :: stack) (.value true) := by
  refine .step (t := { s with stack := .items [] :: s.stack, mode := .value true }) ?_
    ⟨by rw [h.stack_eq], rfl⟩
  rw [State.take, h.mode_eq]
  rfl

/-- An opening brace. -/
theorem At.step_openMembers {closable : Bool} (h : At s stack (.value closable)) :
    At (s.step '\x7b') stack (.name [] true) := by
  refine .step (t := { s with mode := .name [] true }) ?_ ⟨h.stack_eq, rfl⟩
  rw [State.take, h.mode_eq]
  rfl

/-- The closing bracket of an empty array. -/
theorem At.step_closeNoItems (h : At s (.items [] :: stack) (.value true)) :
    Holds (s.step ']') stack (.arr []) := by
  obtain ⟨offset, _, _⟩ := s
  obtain ⟨rfl, rfl⟩ := h
  exact .of_deliver (t := ⟨offset, stack, .value true⟩) rfl rfl

/-- The closing brace of an empty object. -/
theorem At.step_closeNoMembers {done : List (String × Json)} (h : At s stack (.name done true)) :
    Holds (s.step '\x7d') stack (.obj []) := by
  refine .of_deliver (t := s) ?_ h.stack_eq
  rw [State.take, h.mode_eq]
  rfl

end Machine

/-! ## Values -/

/-- A layout writes every text as something that reads as its image under `f`, and leaves only
gaps between tokens. -/
structure Layout.Reads (L : Layout) (f : String → String) : Prop where
  text : ∀ s, ReadsAs (L.text s) (f s).toList
  first : ∀ level, ∀ c ∈ L.first level, isGap c
  later : ∀ level, ∀ c ∈ L.later level, isGap c
  last : ∀ level, ∀ c ∈ L.last level, isGap c

section Values
variable {L : Layout} {f : String → String} (hL : L.Reads f)
include hL

theorem run_quote {s : State} {stack : List Frame} {closable : Bool}
    (h : At s stack (.value closable)) (k : String) :
    Holds (s.run (L.quote k)) stack (.str (f k)) := by
  have hstring := h.run_string (hL.text k)
  rwa [String.ofList_toList] at hstring

theorem run_quote_name {s : State} {stack : List Frame} {done : List (String × Json)}
    {closable : Bool} (h : At s stack (.name done closable)) (k : String) :
    At ((s.run (L.quote k)).run [':', ' ']) (.member done (f k) :: stack) (.value false) := by
  have hname := h.run_name (hL.text k)
  rw [String.ofList_toList] at hname
  rw [← State.run_append, Layout.quote]
  simpa using hname

mutual
/-- **The reader over the text of a value**, wherever a value may stand. -/
theorem run_write : ∀ (v : Json) (level : Nat) ⦃s : State⦄ ⦃stack : List Frame⦄ ⦃closable : Bool⦄,
    isIntegral v → At s stack (.value closable) →
      Holds (s.run (L.write level v)) stack (merged (mapTexts f v))
  | .null, _ => by
    intro s stack _ _ h
    exact h.run_word_of_take (List.cons_ne_nil _ _) rfl
  | .bool true, _ => by
    intro s stack _ _ h
    exact h.run_word_of_take (List.cons_ne_nil _ _) rfl
  | .bool false, _ => by
    intro s stack _ _ h
    exact h.run_word_of_take (List.cons_ne_nil _ _) rfl
  | .int n, _ => by
    intro s stack _ hv h
    rw [isIntegral] at hv
    exact h.run_integer hv
  | .real _, _ => by
    intro s stack _ hv _
    rw [isIntegral] at hv
    exact absurd hv Bool.false_ne_true
  | .str k, _ => by
    intro s stack _ _ h
    exact run_quote hL h k
  | .arr [], _ => by
    intro s stack _ _ h
    exact h.step_openItems.step_closeNoItems
  | .arr (v :: rest), level => by
    intro s stack _ hv h
    rw [isIntegral, areIntegral, Bool.and_eq_true] at hv
    have hfirst := run_write v (level + 1) hv.1
      (h.step_openItems.run_gap_value (hL.first (level + 1)))
    -- the items are held latest first until the bracket closes
    obtain ⟨w, done, hitems, hdone⟩ := run_writeItems rest (level + 1) hv.2 hfirst
    have hend := (hitems.run_gap (hL.last level)).step_close_items
    rw [hdone] at hend
    simpa only [Layout.write, List.cons_append, run_cons, State.run_append, run_nil, mapTexts,
      mapItems, merged, mergedItems, List.reverse_cons, List.reverse_nil, List.nil_append] using hend
  | .obj [], _ => by
    intro s stack _ _ h
    exact h.step_openMembers.step_closeNoMembers
  | .obj ((k, v) :: rest), level => by
    intro s stack _ hv h
    rw [isIntegral, haveIntegral, Bool.and_eq_true] at hv
    have hname := run_quote_name hL (h.step_openMembers.run_gap_name (hL.first (level + 1))) k
    have hfirst := run_write v (level + 1) hv.1 hname
    obtain ⟨w, done, name, hmembers, hdone⟩ := run_writeMembers rest (level + 1) hv.2 hfirst
    have hend := (hmembers.run_gap (hL.last level)).step_close_member
    rw [hdone] at hend
    simpa only [Layout.write, List.cons_append, List.append_assoc, run_cons, State.run_append,
      run_nil, mapTexts, mapMembers, merged, mergedMembers, insertEntries, List.foldl_cons] using hend

theorem run_writeItems : ∀ (items : List Json) (level : Nat) ⦃s : State⦄ ⦃stack : List Frame⦄
    ⦃done : List Json⦄ ⦃w : Json⦄, areIntegral items → Holds s (.items done :: stack) w →
      ∃ w' done', Holds (s.run (L.writeItems level items)) (.items done' :: stack) w' ∧
        (w' :: done').reverse = (w :: done).reverse ++ mergedItems (mapItems f items)
  | [], _ => by
    intro s stack done w _ h
    exact ⟨w, done, h, by simp [mapItems, mergedItems]⟩
  | v :: rest, level => by
    intro s stack done w hv h
    rw [areIntegral, Bool.and_eq_true] at hv
    have hnext := run_write v level hv.1 (h.step_comma_items.run_gap_value (hL.later level))
    obtain ⟨w', done', hitems, hdone⟩ := run_writeItems rest level hv.2 hnext
    refine ⟨w', done', ?_, ?_⟩
    · simpa only [Layout.writeItems, List.cons_append, run_cons, State.run_append] using hitems
    · rw [hdone, mapItems, mergedItems]
      simp

theorem run_writeMembers : ∀ (members : List (String × Json)) (level : Nat) ⦃s : State⦄
    ⦃stack : List Frame⦄ ⦃done : List (String × Json)⦄ ⦃name : String⦄ ⦃w : Json⦄,
    haveIntegral members → Holds s (.member done name :: stack) w →
      ∃ w' done' name', Holds (s.run (L.writeMembers level members))
          (.member done' name' :: stack) w' ∧
        insertEntry name' w' done' =
          insertEntries (insertEntry name w done) (mergedMembers (mapMembers f members))
  | [], _ => by
    intro s stack done name w _ h
    exact ⟨w, done, name, h, rfl⟩
  | (k, v) :: rest, level => by
    intro s stack done name w hv h
    rw [haveIntegral, Bool.and_eq_true] at hv
    have hname := run_quote_name hL (h.step_comma_member.run_gap_name (hL.later level)) k
    have hnext := run_write v level hv.1 hname
    obtain ⟨w', done', name', hmembers, hdone⟩ := run_writeMembers rest level hv.2 hnext
    refine ⟨w', done', name', ?_, ?_⟩
    · simpa only [Layout.writeMembers, List.cons_append, List.append_assoc, run_cons,
        State.run_append, run_nil] using hmembers
    · rw [hdone]
      rfl
end

end Values

/-! ## Whole texts -/

/-- The text of a value does not start with a byte order mark. -/
theorem head?_write_ne_mark (L : Layout) (level : Nat) {v : Json} (hv : isIntegral v) :
    ((L.write level v).head? == some '\uFEFF') = false := by
  cases v with
  | null => rfl
  | bool b => cases b <;> rfl
  | int n =>
    cases h : (integer n).head? with
    | none => rw [Layout.write, h]; rfl
    | some c =>
      have hc := isDigit_or_minus_of_mem_integer (List.mem_of_mem_head? h)
      have hne : c ≠ '\uFEFF' := by
        rintro rfl
        rcases hc with hc | hc <;> exact absurd hc (by decide)
      rw [Layout.write, h]
      simpa using hne
  | real x => rw [isIntegral] at hv; exact absurd hv Bool.false_ne_true
  | str s => rfl
  | arr items => cases items <;> rfl
  | obj members => rcases members with _ | ⟨⟨k, v⟩, rest⟩ <;> rfl

/-- **What a layout writes is read back**, with the texts as the layout writes them and the names
of an object merged. -/
theorem readChars_write {L : Layout} {f : String → String} (hL : L.Reads f) {v : Json}
    (hv : isIntegral v) : readChars (L.write 0 v) = .ok (merged (mapTexts f v)) := by
  have hstart : At State.initial [] (.value false) := ⟨rfl, rfl⟩
  rw [readChars, head?_write_ne_mark L 0 hv, if_neg Bool.false_ne_true]
  exact (run_write hL v 0 hv hstart).finish_eq

theorem isGap_of_mem_newLine {level : Nat} {c : Char} (h : c ∈ newLine level) : isGap c := by
  rcases List.mem_cons.1 h with rfl | h
  · rfl
  · rw [List.eq_of_mem_replicate h]
    rfl

theorem reads_indented : indented.Reads id where
  text s := readsAs_flatMap_escape s.toList
  first _ _ := isGap_of_mem_newLine
  later _ _ := isGap_of_mem_newLine
  last _ _ := isGap_of_mem_newLine

/-- What is written one item a line is read back. -/
theorem read_renderIndented {v : Json} (hv : isIntegral v) :
    read v.renderIndented = .ok (merged v) := by
  rw [read, renderIndented, String.toList_ofList, ← write_indented,
    readChars_write reads_indented hv, mapTexts_id]

end CommandBook.Json
