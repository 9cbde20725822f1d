import CommandBook.Proofs.Json.Reading

/-!
# What is read is a text of the grammar

While it reads, the machine has in its stack and its mode what it has found in the text so far:
`Reached` says, mode by mode, what that text is in terms of the grammar. Every character leads from
such a situation to another, so at the end of a text that is read the text is one of the grammar,
and at the end of a text with an integer that is too long that integer stands where a value is due.

## Main definitions

* `Reached` — the texts behind which the machine has some collections open and is in some mode

## Main statements

* `Reached.step` — one character
* `readChars_eq_ok_iff` — the texts that are read, and the values they are read as
* `readChars_eq_tooLong_iff` — the texts that are refused for the length of an integer
-/

namespace CommandBook.Json

/-! ## Situations -/

/-- A value, and perhaps a gap, behind the beginning of a text. -/
def Behind (before : List Char) (stack : List Frame) (v : Json) : Prop :=
  ∃ front cs gap, Opened front stack ∧ ValueText cs v ∧ IsGapRow gap ∧ before = front ++ (cs ++ gap)

/-- The beginning of an object whose next name is due. -/
def NameDue (before : List Char) (stack : List Frame) (done : List (String × Json)) : Prop :=
  ∃ front cs ms gap, Opened front stack ∧ MembersBefore cs ms ∧ IsGapRow gap ∧
    done = insertEntries [] ms ∧ before = front ++ '\x7b' :: (cs ++ gap)

/-- The beginning of a text in front of a string. -/
def StringDue (before : List Char) (stack : List Frame) : Owner → Prop
  | .value => Opened before stack
  | .name done => NameDue before stack done

/-- The inside of a string up to some place in an escape; code points latest first. -/
inductive InsideText : List Char → List Nat → Escape → Prop
  | none {cs : List Char} {points : List Nat} :
      StringText cs points.reverse → InsideText cs points .none
  | slash {cs : List Char} {points : List Nat} :
      StringText cs points.reverse → InsideText (cs ++ ['\\']) points .slash
  | unicode {cs digits : List Char} {points : List Nat} {opened n : Nat} :
      StringText cs points.reverse → digits.length ≤ 4 → Text.hexNumber? digits = some n →
      InsideText (cs ++ '\\' :: 'u' :: digits) points (.unicode opened n digits.length)

/-- The texts behind which the machine has collections `stack` open and is in a mode. -/
inductive Reached : List Char → List Frame → Mode → Prop
  | value {before : List Char} {stack : List Frame} :
      Opened before stack → Reached before stack (.value false)
  | firstItem {front gap : List Char} {stack : List Frame} : Opened front stack → IsGapRow gap →
      Reached (front ++ '[' :: gap) (.items [] :: stack) (.value true)
  | name {before : List Char} {stack : List Frame} {done : List (String × Json)} :
      NameDue before stack done → Reached before stack (.name done false)
  | firstName {front gap : List Char} {stack : List Frame} : Opened front stack → IsGapRow gap →
      Reached (front ++ '\x7b' :: gap) stack (.name [] true)
  | colon {front cs name : List Char} {stack : List Frame} {ms : List (String × Json)}
      {text : String} : Opened front stack → MembersBefore cs ms → NameText name text →
      Reached (front ++ '\x7b' :: (cs ++ name)) stack (.colon (insertEntries [] ms) text)
  | next {before : List Char} {frame : Frame} {stack stack' : List Frame} {v : Json} :
      Behind before (frame :: stack) v → (settled (frame :: stack) v).1 = stack' →
      Reached before stack' .next
  | complete {before : List Char} {v : Json} : Behind before [] v → Reached before [] (.complete v)
  | string {front cs : List Char} {stack : List Frame} {owner : Owner} {start : Nat}
      {points : List Nat} {escape : Escape} :
      StringDue front stack owner → InsideText cs points escape →
      Reached (front ++ '"' :: cs) stack (.string owner start points escape)
  | number {front digits : List Char} {stack : List Frame} {start : Nat} : Opened front stack →
      (∀ c ∈ digits, State.isNumberPart c) →
      Reached (front ++ digits.reverse) stack (.number start digits)
  | word {front read left : List Char} {stack : List Frame} {start : Nat} {v : Json} :
      Opened front stack → (read ++ left, v) ∈ words → left ≠ [] →
      Reached (front ++ read) stack (.word start left v)
  | malformed {before : List Char} {stack : List Frame} {cause : ReadCause} {offset : Nat} :
      Reached before stack (.failed (.malformed cause offset))
  /-- Behind the number a character has come that cannot stand in one. -/
  | tooLong {front rest more : List Char} {n : Numeral} {stack stack' : List Frame} :
      Opened front stack → n.IsProper → n.IsTooLong → n.EndsBefore rest → EndsNumberParts more →
      more ≠ [] → Reached (front ++ (n.text ++ (rest ++ more))) stack' (.failed .numeralTooLong)

section Machine
variable {s : State} {before : List Char} {stack : List Frame} {v : Json} {c : Char}

/-- What has been reached before a character is taken has been reached behind it, too, if the
machine is where the character leads. -/
def Reaches (before : List Char) (s : State) : Prop := Reached before s.stack s.mode

theorem reaches_fail (s : State) (cause : ReadCause) (offset : Nat) :
    Reaches before (s.fail cause offset) := .malformed

theorem Opened.concat (h : Opened before stack) (hc : isGap c) : Opened (before ++ [c]) stack := by
  cases h with
  | text hgap => exact .text (hgap.concat hc)
  | items hfront hitems hgap =>
    simpa only [List.append_assoc, List.cons_append] using
      Opened.items hfront hitems (hgap.concat hc)
  | member hfront hmembers hname hgap =>
    simpa only [List.append_assoc, List.cons_append] using
      Opened.member hfront hmembers hname (hgap.concat hc)

theorem Behind.concat (h : Behind before stack v) (hc : isGap c) :
    Behind (before ++ [c]) stack v := by
  obtain ⟨front, cs, gap, hfront, hv, hgap, rfl⟩ := h
  exact ⟨front, cs, gap ++ [c], hfront, hv, hgap.concat hc, by simp only [List.append_assoc]⟩

theorem behind_of_valueText {front cs : List Char} (h : Opened front stack) (hv : ValueText cs v) :
    Behind (front ++ cs) stack v :=
  ⟨front, cs, [], h, hv, isGapRow_nil, by rw [List.append_nil]⟩

theorem NameDue.concat {done : List (String × Json)} (h : NameDue before stack done)
    (hc : isGap c) : NameDue (before ++ [c]) stack done := by
  obtain ⟨front, cs, ms, gap, hfront, hmembers, hgap, hdone, rfl⟩ := h
  exact ⟨front, cs, ms, gap ++ [c], hfront, hmembers, hgap.concat hc, hdone,
    by simp only [List.append_assoc, List.cons_append]⟩

theorem reaches_deliver (h : Behind before s.stack v) : Reaches before (s.deliver v) := by
  obtain ⟨offset, stack, mode⟩ := s
  match stack, h with
  | [], h => exact .complete h
  | .items _ :: _, h => exact .next h rfl
  | .member _ _ :: _, h => exact .next h rfl

/-! ## Values and names that are due -/

theorem Reached.opened {closable : Bool} (h : Reached before stack (.value closable)) :
    Opened before stack := by
  cases h with
  | value h => exact h
  | firstItem hfront hgap => exact .items hfront .none hgap

theorem Reached.nameDue {done : List (String × Json)} {closable : Bool}
    (h : Reached before stack (.name done closable)) : NameDue before stack done := by
  cases h with
  | name h => exact h
  | @firstName front gap _ hfront hgap =>
    exact ⟨front, [], [], gap, hfront, .none, hgap, rfl, rfl⟩

/-- The first letter of a word. -/
theorem reaches_word (h : Opened before stack) {left : List Char} (hleft : left ≠ [])
    (hword : (c :: left, v) ∈ words) (offset start : Nat) :
    Reaches (before ++ [c]) ⟨offset, stack, .word start left v⟩ :=
  .word h hword hleft

theorem reaches_begin {closable : Bool} (h : Reached before s.stack (.value closable))
    (hm : s.mode = .value closable) (c : Char) : Reaches (before ++ [c]) (s.begin closable c) := by
  obtain ⟨offset, stack, mode⟩ := s
  obtain rfl : mode = .value closable := hm
  have hopened := h.opened
  unfold State.begin
  split
  · next hgap =>
    cases h with
    | value h => exact .value (h.concat hgap)
    | firstItem hfront hrow =>
      simpa only [Reaches, List.append_assoc, List.cons_append] using
        Reached.firstItem hfront (hrow.concat hgap)
  · split
    · exact .string hopened (.none .nil)
    · exact .firstItem hopened isGapRow_nil
    · exact .firstName hopened isGapRow_nil
    · exact reaches_word hopened (List.cons_ne_nil _ _) (by simp [words]) _ _
    · exact reaches_word hopened (List.cons_ne_nil _ _) (by simp [words]) _ _
    · exact reaches_word hopened (List.cons_ne_nil _ _) (by simp [words]) _ _
    · exact reaches_word hopened (List.cons_ne_nil _ _) (by simp [words]) _ _
    · exact reaches_word hopened (List.cons_ne_nil _ _) (by simp [words]) _ _
    -- an array without items, if it has just been opened
    · split
      · next hstack =>
        cases h with
        | firstItem hfront hrow =>
          obtain ⟨-, rfl⟩ := List.cons.inj hstack
          refine reaches_deliver ?_
          rw [List.append_assoc]
          exact behind_of_valueText hfront (.noItems hrow)
      · exact reaches_fail _ _ _
    · split
      · next hc =>
        have hpart : ∀ d ∈ [c], State.isNumberPart d := by
          refine List.forall_mem_singleton.2 ?_
          rcases Bool.or_eq_true_iff.1 hc with hminus | hdigit
          · rw [beq_iff_eq.1 hminus]
            rfl
          · exact isNumberPart_of_isDigit hdigit
        exact .number hopened hpart
      · exact reaches_fail _ _ _

theorem reaches_beginName {done : List (String × Json)} {closable : Bool}
    (h : Reached before s.stack (.name done closable)) (hm : s.mode = .name done closable)
    (c : Char) : Reaches (before ++ [c]) (s.beginName done closable c) := by
  obtain ⟨offset, stack, mode⟩ := s
  obtain rfl : mode = .name done closable := hm
  have hdue := h.nameDue
  unfold State.beginName
  split
  · next hgap =>
    cases h with
    | name h => exact .name (h.concat hgap)
    | firstName hfront hrow =>
      simpa only [Reaches, List.append_assoc, List.cons_append] using
        Reached.firstName hfront (hrow.concat hgap)
  split
  · next hquote =>
    obtain rfl := beq_iff_eq.1 hquote
    exact .string hdue (.none .nil)
  split
  · next hclose =>
    simp only [Bool.and_eq_true, beq_iff_eq] at hclose
    obtain ⟨rfl, rfl⟩ := hclose
    cases h with
    | firstName hfront hrow =>
      refine reaches_deliver ?_
      rw [List.append_assoc]
      exact behind_of_valueText hfront (.noMembers hrow)
  · exact reaches_fail _ _ _

/-! ## Behind an entry -/

/-- A character behind an item. -/
theorem reaches_afterItem {done : List Json} {offset : Nat}
    (h : Behind before (.items done :: stack) v) (c : Char) :
    Reaches (before ++ [c]) (State.afterEntry ⟨offset, .items (v :: done) :: stack, .next⟩ c) := by
  unfold State.afterEntry
  by_cases hc : isGap c
  · rw [if_pos hc]
    exact .next (h.concat hc) rfl
  rw [if_neg hc]
  clear hc
  obtain ⟨front, cs, gap, hfront, hv, hgap, rfl⟩ := h
  cases hfront with
  | @items front ds gap' _ vs hfront hitems hgap' =>
    have hrow : ItemsText (ds ++ (gap' ++ (cs ++ gap))) (vs ++ [v]) := hitems.items hgap' hv hgap
    split
    · next hstack =>
      cases hstack
      have hnext := Opened.items hfront (.comma hrow) isGapRow_nil
      rw [List.reverse_concat] at hnext
      refine .value ?_
      simpa only [List.append_assoc, List.cons_append, List.append_nil] using hnext
    · next hstack =>
      cases hstack
      have hvalue : ValueText ('[' :: (ds ++ (gap' ++ (cs ++ gap)) ++ [']']))
          (.arr (v :: vs.reverse).reverse) := by
        rw [List.reverse_cons, List.reverse_reverse]
        exact .items hrow
      refine reaches_deliver ?_
      simpa only [List.append_assoc, List.cons_append] using behind_of_valueText hfront hvalue
    · next hstack => cases hstack
    · next hstack => cases hstack
    · exact reaches_fail _ _ _

/-- A character behind a member. -/
theorem reaches_afterMember {done : List (String × Json)} {name : String} {offset : Nat}
    (h : Behind before (.member done name :: stack) v) (c : Char) :
    Reaches (before ++ [c])
      (State.afterEntry ⟨offset, .member (insertEntry name v done) name :: stack, .next⟩ c) := by
  unfold State.afterEntry
  by_cases hc : isGap c
  · rw [if_pos hc]
    exact .next (h.concat hc) rfl
  rw [if_neg hc]
  clear hc
  obtain ⟨front, cs, gap, hfront, hv, hgap, rfl⟩ := h
  cases hfront with
  | @member front ds key gap' _ ms _ hfront hmembers hname hgap' =>
    have hrow := hmembers.members hname hgap' hv hgap
    split
    · next hstack => cases hstack
    · next hstack => cases hstack
    · next hstack =>
      cases hstack
      refine .name ⟨front, _, _, [], hfront, .comma hrow, isGapRow_nil,
        (insertEntries_concat _ _ _ _).symm, ?_⟩
      simp only [List.append_assoc, List.cons_append, List.append_nil]
    · next hstack =>
      cases hstack
      have hvalue : ValueText ('\x7b' :: (ds ++ (key ++ ':' :: (gap' ++ (cs ++ gap))) ++ ['\x7d']))
          (.obj (insertEntry name v (insertEntries [] ms))) := by
        rw [← insertEntries_concat]
        exact .members hrow
      refine reaches_deliver ?_
      simpa only [List.append_assoc, List.cons_append] using behind_of_valueText hfront hvalue
    · exact reaches_fail _ _ _

/-- A character behind a value. -/
theorem reaches_between (h : Behind before s.stack v) (c : Char) :
    Reaches (before ++ [c]) ((s.deliver v).between c) := by
  obtain ⟨offset, stack, mode⟩ := s
  match stack, h with
  | [], h =>
    show Reaches _ (if isGap c then _ else _)
    split
    · next hgap => exact .complete (h.concat hgap)
    · exact reaches_fail _ _ _
  | .items _ :: _, h => exact reaches_afterItem h c
  | .member _ _ :: _, h => exact reaches_afterMember h c

/-! ## Strings -/

/-- A character of a string that is not part of an escape. -/
theorem reaches_plain {front cs : List Char} {owner : Owner} {start : Nat} {points : List Nat}
    (hfront : StringDue front s.stack owner) (hcs : StringText cs points.reverse) (c : Char) :
    Reaches (front ++ '"' :: cs ++ [c]) (s.plain owner start points c) := by
  unfold State.plain
  split
  · next hquote =>
    obtain rfl := beq_iff_eq.1 hquote
    cases owner with
    | value =>
      refine reaches_deliver ?_
      rw [List.append_assoc]
      exact behind_of_valueText hfront (.string hcs)
    | name done =>
      obtain ⟨front, ds, ms, gap, hfront, hmembers, hgap, rfl, rfl⟩ := hfront
      have hcolon := Reached.colon hfront hmembers (.mk hgap hcs isGapRow_nil)
      simpa only [Reaches, textOfPoints, List.append_assoc, List.cons_append] using hcolon
  split
  · next hslash =>
    obtain rfl := beq_iff_eq.1 hslash
    rw [List.append_assoc]
    exact .string hfront (.slash hcs)
  split
  · exact reaches_fail _ _ _
  · next hq hb hc =>
    have hone : StringText [c] [c.toNat] :=
      .plain (by simpa using hq) (by simpa using hb) (Nat.le_of_not_lt hc) .nil
    have hrest : StringText (cs ++ [c]) (c.toNat :: points).reverse := by
      rw [List.reverse_cons]
      exact hcs.append hone
    rw [List.append_assoc]
    exact .string hfront (.none hrest)

theorem reaches_inString {front cs : List Char} {owner : Owner} {start : Nat} {points : List Nat}
    {escape : Escape} (hfront : StringDue front s.stack owner)
    (hcs : InsideText cs points escape) (c : Char) :
    Reaches (front ++ '"' :: cs ++ [c]) (s.inString owner start points c escape) := by
  cases hcs with
  | none hcs => exact reaches_plain hfront hcs c
  | @slash ds _ hcs =>
    rw [List.append_assoc, List.cons_append, List.append_assoc, List.singleton_append]
    unfold State.inString
    simp only
    split
    · next hu =>
      obtain rfl := beq_iff_eq.1 hu
      exact .string hfront (@InsideText.unicode ds [] points s.offset 0 hcs (by decide) rfl)
    · split
      · next d hd =>
        have hrest : StringText (ds ++ ['\\', c]) (d.toNat :: points).reverse := by
          rw [List.reverse_cons]
          exact hcs.append (.letter hd .nil)
        exact .string hfront (.none hrest)
      · exact reaches_fail _ _ _
  | @unicode ds digits _ opened n hcs hlength hn =>
    unfold State.inString
    simp only
    split
    · next hfour =>
      have hrest : StringText (ds ++ '\\' :: 'u' :: digits) (n :: points).reverse := by
        have hunit : StringText ('\\' :: 'u' :: (digits ++ [])) [n] := .unit hfour hn .nil
        rw [List.append_nil] at hunit
        rw [List.reverse_cons]
        exact hcs.append hunit
      exact reaches_plain hfront hrest c
    · next hfour =>
      split
      · next d hd =>
        have hmore : Text.hexNumber? (digits ++ [c]) = some (n * 16 + d) := by
          rw [hexNumber?_concat, hn, Option.bind_some, hd]
          rfl
        have hnext := @InsideText.unicode ds (digits ++ [c]) points opened (n * 16 + d) hcs
          (by rw [List.length_append, List.length_singleton]; omega) hmore
        rw [List.length_append, List.length_singleton] at hnext
        have hreached := @Reached.string _ _ _ _ start _ _ hfront hnext
        simpa only [Reaches, List.append_assoc, List.cons_append] using hreached
      · exact reaches_fail _ _ _

/-! ## Numbers and words -/

/-- The end of a number: not one at all, one that is too long, or one that is delivered. -/
theorem closeNumber_outcomes (s : State) (start : Nat) {digits : List Char}
    (h : ∀ c ∈ digits, State.isNumberPart c) :
    (∃ cause offset, (s.closeNumber start digits).mode = .failed (.malformed cause offset)) ∨
    ((s.closeNumber start digits).mode = .failed .numeralTooLong ∧
      ∃ (n : Numeral) (rest : List Char), n.IsProper ∧ n.IsTooLong ∧ n.EndsBefore rest ∧ digits = n.text ++ rest) ∨
    ∃ v, ValueText digits v ∧ s.closeNumber start digits = s.deliver v := by
  unfold State.closeNumber
  split
  · exact Or.inl ⟨_, _, rfl⟩
  · next e used hnumber =>
    obtain ⟨n, rest, hn, hdigits, hends, hvalue, -⟩ := exists_numeral_of_numberAt? hnumber
    obtain ⟨hlong, rfl⟩ := Numeral.value_eq_error_iff.1 hvalue.symm
    exact Or.inr (Or.inl ⟨rfl, n, rest, hn, hlong, hends, hdigits⟩)
  · next v used hnumber =>
    split
    · next hdrop =>
      have hused : used = digits.length :=
        Nat.le_antisymm (used_le_of_numberAt? hnumber) (List.drop_eq_nil_iff.1 hdrop)
      rw [hused] at hnumber
      obtain ⟨n, hn, hdigits, hvalue⟩ := numberAt?_eq_full_iff.1 hnumber
      refine Or.inr (Or.inr ⟨v, ?_, rfl⟩)
      rw [hdigits]
      exact .number hn hvalue.symm
    · next c rest hdrop =>
      have hc : c ∈ digits := (List.drop_sublist used digits).subset (by rw [hdrop]; simp)
      obtain ⟨cause, offset, hmode⟩ := malformed_between (deliver_mode _ v)
        (maySeparate_of_isNumberPart (h c hc))
      exact Or.inl ⟨cause, offset, hmode⟩

theorem reaches_number {front digits : List Char} {start : Nat} (hfront : Opened front s.stack)
    (hdigits : ∀ d ∈ digits, State.isNumberPart d) (hm : s.mode = .number start digits) (c : Char) :
    Reaches (front ++ digits.reverse ++ [c]) (s.take c) := by
  unfold State.take
  rw [hm]
  simp only
  split
  · next hinfinity =>
    simp only [Bool.and_eq_true, beq_iff_eq] at hinfinity
    obtain ⟨rfl, rfl⟩ := hinfinity
    rw [List.append_assoc]
    exact .word hfront (by simp [words]) (List.cons_ne_nil _ _)
  split
  · next hpart =>
    rw [List.append_assoc, ← List.reverse_cons]
    exact .number hfront (List.forall_mem_cons.2 ⟨hpart, hdigits⟩)
  · next hpart =>
    have hall : ∀ d ∈ digits.reverse, State.isNumberPart d := fun d hd =>
      hdigits d (List.mem_reverse.1 hd)
    rcases closeNumber_outcomes s start hall with ⟨cause, offset, hmode⟩ |
      ⟨hmode, n, rest, hn, hlong, hends, htext⟩ | ⟨v, hv, hdeliver⟩
    · unfold Reaches State.between
      rw [hmode]
      simp only [hmode]
      exact .malformed
    · unfold Reaches State.between
      rw [hmode]
      simp only [hmode]
      have hmore : EndsNumberParts [c] := by
        rintro d ⟨⟩
        simpa using hpart
      rw [htext, List.append_assoc, List.append_assoc]
      exact .tooLong hfront hn hlong hends hmore (List.cons_ne_nil _ _)
    · rw [hdeliver]
      exact reaches_between (behind_of_valueText hfront hv) c

theorem reaches_wordLetter {front read left : List Char} {start : Nat}
    (hfront : Opened front s.stack) (hword : (read ++ left, v) ∈ words) (hleft : left ≠ [])
    (hm : s.mode = .word start left v) (c : Char) :
    Reaches (front ++ read ++ [c]) (s.take c) := by
  unfold State.take
  rw [hm]
  simp only
  obtain ⟨d, more, rfl⟩ := List.exists_cons_of_ne_nil hleft
  have hnext : ((read ++ [d]) ++ more, v) ∈ words := by
    rw [List.append_assoc]
    exact hword
  simp only
  split
  · next hc =>
    obtain rfl := beq_iff_eq.1 hc
    rw [List.append_assoc]
    split
    · next hmore =>
      rw [List.isEmpty_iff.1 hmore, List.append_nil] at hnext
      exact reaches_deliver (behind_of_valueText hfront (.word hnext))
    · next hmore => exact .word hfront hnext (by simpa using hmore)
  · exact reaches_fail _ _ _

/-! ## Steps and runs -/

theorem NameText.concat {cs : List Char} {name : String} (h : NameText cs name) (hc : isGap c) :
    NameText (cs ++ [c]) name := by
  obtain ⟨hgap, htext, hgap'⟩ := h
  simpa only [List.append_assoc, List.cons_append] using NameText.mk hgap htext (hgap'.concat hc)

/-- **One character** leads from a situation to another. -/
theorem Reached.step (h : Reached before s.stack s.mode) (c : Char) :
    Reaches (before ++ [c]) (s.step c) := by
  show Reaches (before ++ [c]) (s.take c)
  obtain ⟨offset, stack, mode⟩ := s
  cases h with
  | value h => exact reaches_begin (.value h) rfl c
  | firstItem hfront hgap => exact reaches_begin (.firstItem hfront hgap) rfl c
  | name h => exact reaches_beginName (.name h) rfl c
  | firstName hfront hgap => exact reaches_beginName (.firstName hfront hgap) rfl c
  | @colon front cs name _ ms text hfront hmembers hname =>
    unfold State.take
    simp only
    split
    · next hgap =>
      simpa only [Reaches, List.append_assoc, List.cons_append] using
        Reached.colon hfront hmembers (hname.concat hgap)
    split
    · next hcolon =>
      obtain rfl := beq_iff_eq.1 hcolon
      have hopened := Opened.member hfront hmembers hname isGapRow_nil
      refine .value ?_
      simpa only [List.append_assoc, List.cons_append] using hopened
    · exact reaches_fail _ _ _
  | @next _ frame stack _ v hbehind hs =>
    subst hs
    have hnext := reaches_between (s := ⟨offset, frame :: stack, .next⟩) hbehind c
    cases frame <;> exact hnext
  | @complete _ v hbehind => exact reaches_between (s := ⟨offset, [], .complete v⟩) hbehind c
  | string hfront hcs => exact reaches_inString hfront hcs c
  | number hfront hdigits => exact reaches_number hfront hdigits rfl c
  | word hfront hword hleft => exact reaches_wordLetter hfront hword hleft rfl c
  | malformed => exact .malformed
  | @tooLong front rest more n _ _ hfront hn hlong hends hmore hne =>
    have hmore' : EndsNumberParts (more ++ [c]) := by
      obtain ⟨d, ds, rfl⟩ := List.exists_cons_of_ne_nil hne
      exact hmore
    have hreached : Reached (front ++ (n.text ++ (rest ++ (more ++ [c])))) stack
        (.failed .numeralTooLong) :=
      .tooLong hfront hn hlong hends hmore' (List.append_ne_nil_of_left_ne_nil hne _)
    show Reached _ stack (.failed .numeralTooLong)
    simpa only [List.append_assoc] using hreached

theorem Reached.run : ∀ {cs before : List Char} {s : State}, Reached before s.stack s.mode →
    Reaches (before ++ cs) (s.run cs)
  | [], before, s, h => by
    rw [List.append_nil]
    exact h
  | c :: cs, before, s, h => by
    have hrest := @Reached.run cs _ _ (h.step c)
    rw [List.append_assoc] at hrest
    exact hrest

theorem reaches_run (cs : List Char) : Reaches cs (State.initial.run cs) :=
  @Reached.run cs [] _ (.value (.text isGapRow_nil))

/-! ## Whole texts -/

theorem isText_of_behind (h : Behind before [] v) : IsText before v := by
  obtain ⟨front, cs, gap, hfront, hv, hgap, rfl⟩ := h
  cases hfront with
  | text hfront => exact .mk hfront hv hgap

/-- What a result at the end of a text says of the text. -/
def Describes (before : List Char) : Except ReadFailure Json → Prop
  | .ok v => IsText before v
  | .error .numeralTooLong => MeetsLongInteger before
  | .error (.malformed _ _) => True

theorem describes_finish_of_closeNumber {front digits : List Char} {start : Nat}
    (hfront : Opened front s.stack) (hdigits : ∀ c ∈ digits, State.isNumberPart c)
    (hm : s.mode = .number start digits) : Describes (front ++ digits.reverse) s.finish := by
  have hall : ∀ d ∈ digits.reverse, State.isNumberPart d := fun d hd =>
    hdigits d (List.mem_reverse.1 hd)
  unfold State.finish
  rw [hm]
  simp only
  rcases closeNumber_outcomes s start hall with ⟨cause, offset, hmode⟩ |
    ⟨hmode, n, rest, hn, hlong, hends, htext⟩ | ⟨v, hv, hdeliver⟩
  · rw [hmode]
    trivial
  · rw [hmode, htext]
    exact ⟨front, s.stack, n, rest, hfront, hn, hlong, hends, rfl⟩
  · rw [hdeliver]
    obtain ⟨offset, stack, mode⟩ := s
    match stack, hfront with
    | [], hfront => exact isText_of_behind (behind_of_valueText hfront hv)
    | .items _ :: _, _ => trivial
    | .member _ _ :: _, _ => trivial

/-- **The end of a text**: what it gives says what the text is. -/
theorem Reached.finish (h : Reached before s.stack s.mode) : Describes before s.finish := by
  obtain ⟨offset, stack, mode⟩ := s
  cases h with
  | value _ | firstItem _ _ | name _ | firstName _ _ | colon _ _ _ | next _ _ | word _ _ _
  | malformed => trivial
  | complete hbehind => exact isText_of_behind hbehind
  | @string _ _ _ _ _ _ escape _ _ => cases escape <;> trivial
  | number hfront hdigits => exact describes_finish_of_closeNumber hfront hdigits rfl
  | @tooLong front rest more n _ _ hfront hn hlong hends hmore _ =>
    exact ⟨front, _, n, rest ++ more, hfront, hn, hlong,
      (Numeral.endsBefore_append_iff hmore).2 hends, rfl⟩

theorem describes_readChars (cs : List Char) : Describes cs (readChars cs) := by
  unfold readChars
  split
  · trivial
  · exact (reaches_run cs).finish

end Machine

/-- **The texts that are read** are those of the grammar, as the values that it gives them. -/
theorem readChars_eq_ok_iff {cs : List Char} {v : Json} : readChars cs = .ok v ↔ IsText cs v := by
  refine ⟨fun h => ?_, readChars_of_isText⟩
  have hdescribes := describes_readChars cs
  rw [h] at hdescribes
  exact hdescribes

/-- **The texts that are refused for the length of an integer** have one that is too long where a
value is due. -/
theorem readChars_eq_tooLong_iff {cs : List Char} :
    readChars cs = .error .numeralTooLong ↔ MeetsLongInteger cs := by
  refine ⟨fun h => ?_, readChars_of_meetsLongInteger⟩
  have hdescribes := describes_readChars cs
  rw [h] at hdescribes
  exact hdescribes

end CommandBook.Json
