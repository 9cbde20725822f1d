import CommandBook.Proofs.Json.Grammar
import CommandBook.Proofs.Json.Outside
import Mathlib.Data.List.Induction

/-!
# What the grammar allows is read

The reader takes a text of the grammar for the value that the grammar gives it, wherever a value may
stand. By induction on the text: each constructor is a row of tokens, and what a token does to the
machine is known. Behind a number the machine still waits for more of it, which `Holds` allows for.

Behind the beginning of a value the collections are open that the beginning opens, and a value is
due. An integer that is too long is then a failure, whatever comes later.

## Main statements

* `run_valueText` — the reader over the text of a value
* `readChars_of_isText` — texts of the grammar are read
* `readChars_of_meetsLongInteger` — integers that are too long are a failure
-/

namespace CommandBook.Json

section Machine
variable {s : State} {stack : List Frame} {owner : Owner} {v : Json}

/-! ## Strings -/

theorem hexNumber?_concat (cs : List Char) (c : Char) : Text.hexNumber? (cs ++ [c]) =
    (Text.hexNumber? cs).bind fun n => (Text.hexValue? c).map (n * 16 + ·) := by
  rw [Text.hexNumber?, List.foldl_append]
  rfl

/-- The digits of an escape of four digits. -/
theorem run_hexDigits {start opened n : Nat} {points : List Nat} {digits : List Char}
    (hm : s.mode = .string owner start points (.unicode opened 0 0)) (hlength : digits.length ≤ 4)
    (hn : Text.hexNumber? digits = some n) : (s.run digits).stack = s.stack ∧
      (s.run digits).mode = .string owner start points (.unicode opened n digits.length) := by
  induction digits using List.reverseRecOn generalizing n with
  | nil =>
    obtain rfl := Option.some.inj hn
    exact ⟨rfl, hm⟩
  | append_singleton digits c ih =>
    rw [List.length_append, List.length_singleton] at hlength
    rw [hexNumber?_concat, Option.bind_eq_some_iff] at hn
    obtain ⟨m, hm', hc⟩ := hn
    obtain ⟨d, hd, rfl⟩ := Option.map_eq_some_iff.1 hc
    obtain ⟨hstack, hmode⟩ := ih (by omega) hm'
    have htake : (s.run digits).take c = { s.run digits with
        mode := .string owner start points (.unicode opened (m * 16 + d) (digits.length + 1)) } := by
      rw [State.take, hmode]
      simp [State.inString, hd, show digits.length ≠ 4 by omega]
    rw [State.run_append, run_cons, run_nil, step_stack, step_mode, htake, List.length_append]
    exact ⟨hstack, rfl⟩

/-- **The inside of a string.** -/
theorem InString.run_stringText {cs : List Char} {points before : List Nat}
    (h : InString s stack owner before) (hcs : StringText cs points) :
    InString (s.run cs) stack owner (points.reverse ++ before) := by
  induction hcs generalizing s before with
  | nil => exact h
  | plain hq hb hc _ ih =>
    have hrest := ih (h.step_plain hq hb hc)
    rw [run_cons, List.reverse_cons, List.append_assoc]
    exact hrest
  | @letter c d cs points hd _ ih =>
    have hu : c ≠ 'u' := by
      rintro rfl
      cases hd
    have hrest := ih (h.run_letter hu hd)
    rw [run_cons, run_cons] at hrest ⊢
    rw [List.reverse_cons, List.append_assoc]
    exact hrest
  | @unit digits cs n points hlength hn _ ih =>
    obtain ⟨hstack, start, hmode⟩ := h.step_backslash
    have htake : (s.step '\\').take 'u' = { s.step '\\' with
        mode := .string owner start before (.unicode (s.step '\\').offset 0 0) } := by
      rw [State.take, hmode]
      rfl
    have hopened : ((s.step '\\').step 'u').mode =
        .string owner start before (.unicode (s.step '\\').offset 0 0) := by
      rw [step_mode, htake]
    obtain ⟨hstack', hmode'⟩ := run_hexDigits hopened (by omega) hn
    rw [hlength] at hmode'
    have hin : InString (((s.step '\\').step 'u').run digits) stack owner (n :: before) := by
      refine .escaped (hstack'.trans ?_) hmode'
      rw [step_stack, htake]
      exact hstack
    have hrest := ih hin
    rw [run_cons, run_cons, State.run_append, List.reverse_cons, List.append_assoc]
    exact hrest

/-- A string as a value. -/
theorem At.run_stringText {closable : Bool} {cs : List Char} {points : List Nat}
    (h : At s stack (.value closable)) (hcs : StringText cs points) :
    Holds (s.run ('"' :: (cs ++ ['"']))) stack (.str (textOfPoints points)) := by
  have hin := h.open_value.run_stringText hcs
  obtain ⟨start, htake⟩ := hin.take_eq '"'
  rw [run_cons, State.run_append, run_cons, run_nil]
  refine .of_deliver (htake.trans ?_) hin.stack_eq
  rw [State.plain, if_pos (by rfl), List.append_nil, List.reverse_reverse]
  rfl

/-- A name and the colon behind it. -/
theorem At.run_nameText {done : List (String × Json)} {closable : Bool} {cs : List Char}
    {name : String} (h : At s stack (.name done closable)) (hcs : NameText cs name) :
    At (s.run (cs ++ [':'])) (.member done name :: stack) (.value false) := by
  obtain ⟨hgap, htext, hgap'⟩ := hcs
  rename_i gap text gap' points
  have hin := (h.run_gap_name hgap).open_name.run_stringText htext
  obtain ⟨start, htake⟩ := hin.take_eq '"'
  rw [List.append_nil] at htake
  have hcolon : At ((((s.run gap).step '"').run text).step '"') stack
      (.colon done (textOfPoints points)) := by
    refine .step htake ⟨hin.stack_eq, ?_⟩
    rw [State.plain, if_pos (by rfl), List.reverse_reverse]
    rfl
  have hbehind : At (((((s.run gap).step '"').run text).step '"').run gap') stack
      (.colon done (textOfPoints points)) := by
    refine hcolon.run_of_take_eq (fun ht hc => ?_) hgap'
    rw [State.take, ht.mode_eq]
    exact if_pos hc
  have hrun : s.run (gap ++ '"' :: (text ++ '"' :: gap') ++ [':']) =
      ((((((s.run gap).step '"').run text).step '"').run gap').step ':') := by
    simp [State.run_append, run_cons]
  rw [hrun]
  refine .step (t := { (((((s.run gap).step '"').run text).step '"').run gap') with
    stack := .member done (textOfPoints points) :: stack, mode := .value false }) ?_ ⟨rfl, rfl⟩
  rw [State.take, hbehind.mode_eq, ← hbehind.stack_eq]
  rfl

/-! ## Numbers -/

/-- An empty row has no characters that could not stand in a number. -/
theorem isNumberPart_nil : ∀ c ∈ ([] : List Char), State.isNumberPart c :=
  fun _ hc => absurd hc List.not_mem_nil

/-- A number and the characters behind it that may stand in one. -/
theorem At.run_numeral {closable : Bool} {n : Numeral} (h : At s stack (.value closable))
    (hn : n.IsProper) {rest : List Char} (hrest : ∀ c ∈ rest, State.isNumberPart c) :
    ∃ start, At (s.run (n.text ++ rest)) stack (.number start (n.text ++ rest).reverse) := by
  obtain ⟨c, cs, htext, hc⟩ := hn.exists_text_eq_cons
  have hparts : ∀ d ∈ cs ++ rest, State.isNumberPart d := by
    refine List.forall_mem_append.2 ⟨fun d hd => hn.isNumberPart d ?_, hrest⟩
    rw [htext]
    exact List.mem_cons_of_mem _ hd
  have hrun := (h.step_number hc).run_numberParts hparts
  refine ⟨s.offset, ?_⟩
  rw [htext, List.cons_append, run_cons, List.reverse_cons]
  exact hrun

/-! ## Values -/

/-- A word. -/
theorem At.run_word {closable : Bool} {cs : List Char} (h : At s stack (.value closable))
    (hcs : (cs, v) ∈ words) : Holds (s.run cs) stack v := by
  simp only [words, List.mem_cons, Prod.mk.injEq, List.not_mem_nil, or_false] at hcs
  rcases hcs with ⟨rfl, rfl⟩ | ⟨rfl, rfl⟩ | ⟨rfl, rfl⟩ | ⟨rfl, rfl⟩ | ⟨rfl, rfl⟩ | ⟨rfl, rfl⟩
  · exact h.run_word_of_take (List.cons_ne_nil _ _) rfl
  · exact h.run_word_of_take (List.cons_ne_nil _ _) rfl
  · exact h.run_word_of_take (List.cons_ne_nil _ _) rfl
  · exact h.run_word_of_take (List.cons_ne_nil _ _) rfl
  · exact h.run_word_of_take (List.cons_ne_nil _ _) rfl
  · exact h.run_negInfinity

end Machine

theorem insertEntries_concat (done ms : List (String × Json)) (name : String) (v : Json) :
    insertEntries done (ms ++ [(name, v)]) = insertEntry name v (insertEntries done ms) := by
  rw [insertEntries, List.foldl_append]
  rfl

mutual

/-- **The reader over the text of a value**, wherever a value may stand. -/
theorem run_valueText : ∀ {cs : List Char} {v : Json}, ValueText cs v → ∀ ⦃s : State⦄
    ⦃stack : List Frame⦄ ⦃closable : Bool⦄, At s stack (.value closable) → Holds (s.run cs) stack v
  | _, _, .word hword => fun _ _ _ h => h.run_word hword
  | _, _, @ValueText.number n v hn hv => by
    intro s stack closable h
    obtain ⟨start, hnumber⟩ := h.run_numeral hn isNumberPart_nil
    rw [List.append_nil] at hnumber
    refine .number hnumber ?_
    rw [List.reverse_reverse, List.length_reverse]
    exact numberAt?_eq_full_iff.2 ⟨n, hn, rfl, hv.symm⟩
  | _, _, .string htext => fun _ _ _ h => h.run_stringText htext
  | _, _, .noItems hgap => by
    intro s stack closable h
    rw [run_cons, State.run_append]
    exact (h.step_openItems.run_gap_value hgap).step_closeNoItems
  | _, _, .items hitems => by
    intro s stack closable h
    obtain ⟨w, done, hholds, hdone⟩ := run_itemsText hitems h.step_openItems
    have hclose := hholds.step_close_items
    rw [hdone, List.reverse_nil, List.nil_append] at hclose
    rw [run_cons, State.run_append]
    exact hclose
  | _, _, .noMembers hgap => by
    intro s stack closable h
    rw [run_cons, State.run_append]
    exact (h.step_openMembers.run_gap_name hgap).step_closeNoMembers
  | _, _, .members hmembers => by
    intro s stack closable h
    obtain ⟨w, name, done, hholds, hdone⟩ := run_membersText hmembers h.step_openMembers
    have hclose := hholds.step_close_member
    rw [hdone] at hclose
    rw [run_cons, State.run_append]
    exact hclose

/-- Items, the last of which is not among the others yet. -/
theorem run_itemsText : ∀ {cs : List Char} {vs : List Json}, ItemsText cs vs → ∀ ⦃s : State⦄
    ⦃stack : List Frame⦄ ⦃done : List Json⦄ ⦃closable : Bool⦄,
    At s (.items done :: stack) (.value closable) →
      ∃ w done', Holds (s.run cs) (.items done' :: stack) w ∧
        (w :: done').reverse = done.reverse ++ vs
  | _, _, @ItemsText.one _ _ _ v hgap hv hgap' => by
    intro s stack done closable h
    refine ⟨v, done, ?_, List.reverse_cons⟩
    rw [State.run_append, State.run_append]
    exact (run_valueText hv (h.run_gap_value hgap)).run_gap hgap'
  | _, _, @ItemsText.more _ _ _ _ _ v hbefore hgap hv hgap' => by
    intro s stack done closable h
    obtain ⟨w, done', hholds, hdone⟩ := run_itemsText hbefore h
    refine ⟨v, w :: done', ?_, ?_⟩
    · rw [State.run_append, run_cons, State.run_append, State.run_append]
      exact (run_valueText hv (hholds.step_comma_items.run_gap_value hgap)).run_gap hgap'
    · rw [List.reverse_cons, hdone, List.append_assoc]

/-- Members, the last of which is not among the others yet. -/
theorem run_membersText : ∀ {cs : List Char} {ms : List (String × Json)}, MembersText cs ms →
    ∀ ⦃s : State⦄ ⦃stack : List Frame⦄ ⦃done : List (String × Json)⦄ ⦃closable : Bool⦄,
    At s stack (.name done closable) →
      ∃ w name done', Holds (s.run cs) (.member done' name :: stack) w ∧
        insertEntry name w done' = insertEntries done ms
  | _, _, @MembersText.one _ gap cs gap' name v hname hgap hv hgap' => by
    intro s stack done closable h
    refine ⟨v, name, done, ?_, rfl⟩
    have hvalue := (h.run_nameText hname).run_gap_value hgap
    rw [← List.singleton_append, ← List.append_assoc, State.run_append, State.run_append,
      State.run_append]
    exact (run_valueText hv hvalue).run_gap hgap'
  | _, _, @MembersText.more _ _ gap cs gap' _ name v hbefore hname hgap hv hgap' => by
    intro s stack done closable h
    obtain ⟨w, name', done', hholds, hdone⟩ := run_membersText hbefore h
    have hvalue := (hholds.step_comma_member.run_nameText hname).run_gap_value hgap
    refine ⟨v, name, insertEntry name' w done', ?_, ?_⟩
    · rw [State.run_append, run_cons, ← List.singleton_append (l := gap ++ (cs ++ gap')),
        ← List.append_assoc, State.run_append, State.run_append, State.run_append]
      exact (run_valueText hv hvalue).run_gap hgap'
    · rw [hdone, insertEntries_concat]

end

/-! ## Whole texts -/

/-- A failure stays. -/
theorem mode_run_of_failed {e : ReadFailure} : ∀ {cs : List Char} {s : State},
    s.mode = .failed e → (s.run cs).mode = .failed e
  | [], _, h => h
  | c :: cs, s, h => by
    rw [run_cons]
    refine mode_run_of_failed ?_
    rw [step_mode, State.take, h]
    exact h

theorem finish_of_failed {s : State} {e : ReadFailure} (h : s.mode = .failed e) :
    s.finish = .error e := by
  rw [State.finish, h]
  simp only [h]

/-- A mark of the order of bytes is no beginning of a value. -/
theorem finish_run_mark (cs : List Char) :
    (State.initial.run ('\uFEFF' :: cs)).finish = .error (.malformed .valueExpected 0) :=
  finish_of_failed (mode_run_of_failed (s := State.initial.step '\uFEFF') rfl)

/-- What the machine makes of a text, unless that is a failure at its first character, is what is
read. -/
theorem readChars_of_finish {cs : List Char} {r : Except ReadFailure Json}
    (h : (State.initial.run cs).finish = r) (hr : r ≠ .error (.malformed .valueExpected 0)) :
    readChars cs = r := by
  unfold readChars
  split
  · next hmark =>
    obtain ⟨rest, rfl⟩ := List.head?_eq_some_iff.1 (eq_of_beq hmark)
    rw [finish_run_mark] at h
    exact absurd h.symm hr
  · exact h

/-- **Texts of the grammar are read** as the values that the grammar gives them. -/
theorem readChars_of_isText {cs : List Char} {v : Json} (h : IsText cs v) :
    readChars cs = .ok v := by
  obtain ⟨hgap, hv, hgap'⟩ := h
  have hstart : At State.initial [] (.value false) := ⟨rfl, rfl⟩
  have hholds := (run_valueText hv (hstart.run_gap_value hgap)).run_gap hgap'
  refine readChars_of_finish ?_ (by simp)
  rw [State.run_append, State.run_append]
  exact hholds.finish_eq

/-! ## Integers that are too long -/

/-- Behind the beginning of a value the machine waits for one, with the same collections open. -/
theorem Opened.at_run {before : List Char} {stack : List Frame} (h : Opened before stack) :
    ∃ closable, At (State.initial.run before) stack (.value closable) := by
  have hstart : At State.initial [] (.value false) := ⟨rfl, rfl⟩
  induction h with
  | text hgap => exact ⟨false, hstart.run_gap_value hgap⟩
  | @items before cs gap stack vs _ hbefore hgap ih =>
    obtain ⟨closable, hvalue⟩ := ih
    rw [State.run_append, run_cons, State.run_append]
    cases hbefore with
    | none => exact ⟨true, hvalue.step_openItems.run_gap_value hgap⟩
    | comma hitems =>
      obtain ⟨w, done, hholds, hdone⟩ := run_itemsText hitems hvalue.step_openItems
      have hreverse : vs.reverse = w :: done := by
        rw [← List.reverse_reverse (w :: done), hdone, List.reverse_nil, List.nil_append]
      rw [hreverse, State.run_append]
      exact ⟨false, hholds.step_comma_items.run_gap_value hgap⟩
  | @member before cs front gap stack ms name _ hbefore hname hgap ih =>
    obtain ⟨closable, hvalue⟩ := ih
    have hnamed : ∃ closable, At (((State.initial.run before).step '\x7b').run cs) stack
        (.name (insertEntries [] ms) closable) := by
      cases hbefore with
      | none => exact ⟨true, hvalue.step_openMembers⟩
      | comma hmembers =>
        obtain ⟨w, name', done, hholds, hdone⟩ := run_membersText hmembers hvalue.step_openMembers
        rw [← hdone, State.run_append]
        exact ⟨false, hholds.step_comma_member⟩
    obtain ⟨closable, hnamed⟩ := hnamed
    refine ⟨false, ?_⟩
    rw [State.run_append, run_cons, State.run_append, ← List.singleton_append (l := gap),
      ← List.append_assoc, State.run_append]
    exact (hnamed.run_nameText hname).run_gap_value hgap

/-- The end of a number that is too long. -/
theorem closeNumber_of_isTooLong {s : State} {start : Nat} {n : Numeral} {rest : List Char}
    (hn : n.IsProper) (hlong : n.IsTooLong) (hrest : n.EndsBefore rest) :
    (s.closeNumber start (n.text ++ rest)).mode = .failed .numeralTooLong := by
  have hvalue : n.value = .error .numeralTooLong := Numeral.value_eq_error_iff.2 ⟨hlong, rfl⟩
  rw [State.closeNumber, n.numberAt?_text_append hn hrest, hvalue]

/-- **Where a value is due, an integer that is too long** is a failure, whatever comes behind. -/
theorem readChars_of_meetsLongInteger {cs : List Char} (h : MeetsLongInteger cs) :
    readChars cs = .error .numeralTooLong := by
  obtain ⟨before, stack, n, after, hopened, hn, hlong, hends, rfl⟩ := h
  obtain ⟨closable, hvalue⟩ := hopened.at_run
  -- the machine takes all characters that may stand in a number, and only then looks at them
  obtain ⟨rest, more, rfl, hrest, hmore⟩ : ∃ rest more, after = rest ++ more ∧
      (∀ c ∈ rest, State.isNumberPart c) ∧ EndsNumberParts more :=
    ⟨after.takeWhile State.isNumberPart, after.dropWhile State.isNumberPart,
      List.takeWhile_append_dropWhile.symm, List.all_eq_true.1 List.all_takeWhile,
      Template.eq_false_of_mem_head?_dropWhile _ _⟩
  rw [Numeral.endsBefore_append_iff hmore] at hends
  obtain ⟨start, hnumber⟩ := hvalue.run_numeral hn hrest
  refine readChars_of_finish ?_ (by simp)
  rw [State.run_append, ← List.append_assoc, State.run_append]
  generalize ((State.initial.run before).run (n.text ++ rest)) = s at hnumber
  have hclose : (s.closeNumber start (n.text ++ rest).reverse.reverse).mode =
      .failed .numeralTooLong := by
    rw [List.reverse_reverse]
    exact closeNumber_of_isTooLong hn hlong hends
  cases more with
  | nil =>
    rw [run_nil, State.finish, hnumber.mode_eq]
    simp only [hclose]
  | cons c more =>
    have hc : State.isNumberPart c = false := hmore c rfl
    have hminus : (n.text ++ rest).reverse ≠ ['-'] := fun h => by
      have hlength := congrArg List.length h
      have hwhole := hlong.long
      have hlimit : 1 < Decimal.maxDigits := by decide
      simp only [Numeral.text, List.length_reverse, List.length_append, List.length_singleton]
        at hlength
      omega
    refine finish_of_failed (mode_run_of_failed (s := s.step c) ?_)
    rw [step_mode, State.take, hnumber.mode_eq]
    simp only [hc, Bool.false_eq_true, if_false]
    rw [if_neg (by simpa using fun _ => hminus), State.between, hclose]
    exact hclose

end CommandBook.Json
