import CommandBook.Proofs.Json.Integers

/-!
# The texts of numbers

An integer and a finite floating point number are written with digits, signs, points and the letter
of the exponent, so the reader takes their texts as one number. The other floating point numbers are
words.

## Main statements

* `isNumberText_integer`, `isNumberText_layOut` — what a number is written with
* `realText_text` — the texts of floating point numbers
-/

namespace CommandBook.Json

open Decimal

/-- A row of characters that may stand in a number, one at least. -/
structure IsNumberText (cs : List Char) : Prop where
  ne_nil : cs ≠ []
  isNumberPart : ∀ c ∈ cs, State.isNumberPart c

theorem isNumberText_integer (n : Int) : IsNumberText (integer n) := by
  refine ⟨?_, fun c hc => ?_⟩
  · cases n with
    | ofNat m => exact numeral_ne_nil m
    | negSucc m => exact List.cons_ne_nil _ _
  · rcases isDigit_or_minus_of_mem_integer hc with hc | rfl
    · exact isNumberPart_of_isDigit hc
    · rfl

theorem mem_of_mem_stripZeros {ds : List Char} {c : Char} (h : c ∈ stripZeros ds) : c ∈ ds := by
  rw [stripZeros, List.mem_reverse] at h
  exact List.mem_reverse.1 ((List.dropWhile_sublist _).subset h)

/-- The digits that are laid out. -/
theorem isDigit_of_mem_digits {n : Nat} {c : Char}
    (h : c ∈ if n = 0 then ['0'] else stripZeros (numeral n)) : c.isDigit := by
  split at h
  · rw [List.mem_singleton.1 h]
    rfl
  · exact isDigit_of_mem_numeral (mem_of_mem_stripZeros h)

/-- **A finite number** is laid out as the text of a number. -/
theorem isNumberText_layOut (style : Style) (s : Scientific) : IsNumberText (style.layOut s) := by
  have hzeros : ∀ n, ∀ c ∈ List.replicate n '0', State.isNumberPart c := fun n c hc => by
    rw [List.eq_of_mem_replicate hc]
    rfl
  have hsize : ∀ n, ∀ c ∈ numeral n, State.isNumberPart c := fun n c hc =>
    isNumberPart_of_isDigit (isDigit_of_mem_numeral hc)
  unfold Style.layOut
  extract_lets all lead ds place whole rest size
  have hds : ∀ c ∈ ds, State.isNumberPart c := fun c hc =>
    isNumberPart_of_isDigit (isDigit_of_mem_digits hc)
  clear_value ds place
  split
  · split
    · refine ⟨by simp, ?_⟩
      simp only [List.forall_mem_append, List.forall_mem_cons]
      exact ⟨⟨by decide, by decide, hzeros _⟩, hds⟩
    · refine ⟨by simp, ?_⟩
      simp only [List.forall_mem_append, List.forall_mem_cons]
      refine ⟨⟨fun c hc => hds c (List.mem_of_mem_take hc), hzeros _⟩, by decide, ?_⟩
      split
      · exact List.all_eq_true.1 rfl
      · exact fun c hc => hds c (List.mem_of_mem_drop hc)
  · refine ⟨by simp, ?_⟩
    simp only [List.forall_mem_append, List.forall_mem_cons]
    refine ⟨⟨fun c hc => hds c (List.mem_of_mem_take hc), ?_⟩, by decide, ?_, ?_⟩
    · split
      · exact fun c hc => absurd hc List.not_mem_nil
      · exact List.forall_mem_cons.2 ⟨by decide, fun c hc => hds c (List.mem_of_mem_drop hc)⟩
    · split <;> decide
    · split
      · exact List.forall_mem_cons.2 ⟨by decide, hsize _⟩
      · exact hsize _

/-- The text of a floating point number: that of a number, or one of three words. -/
inductive RealText : List Char → Prop where
  | number {cs : List Char} : IsNumberText cs → RealText cs
  | nan : RealText ['N', 'a', 'N']
  | infinity : RealText ['I', 'n', 'f', 'i', 'n', 'i', 't', 'y']
  | negInfinity : RealText ['-', 'I', 'n', 'f', 'i', 'n', 'i', 't', 'y']

/-- **What a floating point number is written as.** -/
theorem realText_text (x : Float) : RealText (numberStyle.text x).toList := by
  unfold Style.text
  extract_lets p sign
  have hsign : sign.toList = [] ∨ sign.toList = ['-'] := by
    dsimp only [sign]
    split
    · exact Or.inr rfl
    · exact Or.inl rfl
  clear_value p sign
  cases p.magnitude with
  | nan =>
    show RealText "NaN".toList
    exact .nan
  | infinite =>
    show RealText (sign ++ numberStyle.infinity).toList
    rw [String.toList_append]
    rcases hsign with hsign | hsign
    · rw [hsign]
      exact .infinity
    · rw [hsign]
      exact .negInfinity
  | finite m q =>
    have hbody := isNumberText_layOut numberStyle (shortest m q)
    show RealText (sign ++ String.ofList _).toList
    rw [String.toList_append, String.toList_ofList]
    rcases hsign with hsign | hsign
    · rw [hsign]
      exact .number hbody
    · rw [hsign]
      exact .number ⟨List.cons_ne_nil _ _,
        List.forall_mem_cons.2 ⟨by decide, hbody.isNumberPart⟩⟩

end CommandBook.Json
