import CommandBook.Decimal.Numeral
import CommandBook.Text.Digit

/-!
# ASCII digits among the digits of all scripts

Within ASCII the digits of all scripts are the ten ASCII digits, and no other character looks like
one. So a row of ASCII digits writes the number that it writes in decimal.

## Main statements

* `decimalValue?_of_isAscii`, `isDigitLike_of_isAscii` — the two classes of digits within ASCII
* `numeralValue?_of_isDigit` — the number that a row of ASCII digits writes
-/

namespace CommandBook.Text

variable {c : Char}

theorem isDigit_eq (c : Char) : c.isDigit = (decide (0x30 ≤ c.toNat) && decide (c.toNat ≤ 0x39)) :=
  rfl

/-- The digits of other scripts lie beyond ASCII. -/
theorem decimalValue?_of_isAscii (h : c.toNat < 0x80) :
    decimalValue? c = if c.isDigit then some (c.toNat - 0x30) else none := by
  have hothers : ∀ z ∈ zeroDigits.tail, 0x80 ≤ z := by decide
  have hnone : zeroDigits.tail.find? (fun z => z ≤ c.toNat && c.toNat < z + 10) = none := by
    refine List.find?_eq_none.2 fun z hz => ?_
    have hle := hothers z hz
    simp only [Bool.and_eq_true, decide_eq_true_eq, not_and]
    omega
  have hcons : zeroDigits = 0x30 :: zeroDigits.tail := rfl
  rw [decimalValue?, hcons, isDigit_eq]
  by_cases hc : 0x30 ≤ c.toNat ∧ c.toNat ≤ 0x39
  · rw [List.find?_cons_of_pos (by simp; omega), if_pos (by simp; omega)]
    rfl
  · rw [List.find?_cons_of_neg (by simp; omega), hnone, if_neg (by simp; omega)]
    rfl

/-- So do the characters that only look like digits. -/
theorem isDigitLike_of_isAscii (h : c.toNat < 0x80) : isDigitLike c = c.isDigit := by
  have hbeyond : ∀ r ∈ otherDigitRanges, 0x80 ≤ r.1 := by decide
  have hother : (otherDigitRanges.any fun r => r.1 ≤ c.toNat && c.toNat ≤ r.2) = false := by
    refine List.any_eq_false.2 fun r hr => ?_
    have hle := hbeyond r hr
    simp only [Bool.and_eq_true, decide_eq_true_eq, not_and]
    omega
  rw [isDigitLike, decimalValue?_of_isAscii h, hother, Bool.or_false]
  cases c.isDigit <;> rfl

theorem isAscii_of_isDigit (h : c.isDigit) : c.toNat < 0x80 := by
  rw [isDigit_eq, Bool.and_eq_true, decide_eq_true_eq, decide_eq_true_eq] at h
  omega

/-- **The number that a row of ASCII digits writes.** -/
theorem numeralValue?_of_isDigit {digits : List Char} (h : ∀ c ∈ digits, c.isDigit) :
    numeralValue? digits = some (Decimal.value digits) := by
  -- the two folds go on side by side from any number
  have hfold : ∀ n : Nat, digits.foldl
      (fun acc c => acc.bind fun n => (decimalValue? c).map (n * 10 + ·)) (some n) =
        some (digits.foldl (fun n c => n * 10 + (c.toNat - 0x30)) n) := by
    induction digits with
    | nil => exact fun n => rfl
    | cons c digits ih =>
      intro n
      have hc := h c List.mem_cons_self
      rw [List.foldl_cons, List.foldl_cons, Option.bind_some,
        decimalValue?_of_isAscii (isAscii_of_isDigit hc), if_pos hc, Option.map_some]
      exact ih (fun d hd => h d (List.mem_cons_of_mem _ hd)) _
  exact hfold 0

end CommandBook.Text
