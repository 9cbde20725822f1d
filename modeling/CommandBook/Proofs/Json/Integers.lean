import CommandBook.Json.Printer
import CommandBook.Json.Reader

/-!
# Integers as JSON numbers

The number that the reader finds in the text of an integer is that integer, and it takes the whole
text. The reader stops behind a leading zero, so the argument needs that a numeral has none but
that of zero itself.

## Main statements

* `value_numeral` — digits read back
* `numberAt?_integer` — an integer within the limit reads back from its text
-/

namespace CommandBook.Decimal

theorem value_numeral (n : Nat) : value (numeral n) = n := by
  have h := Nat.ofDigitChars_ten_toDigits (n := n)
  rw [Nat.ofDigitChars_eq_foldl] at h
  unfold value numeral
  simpa [Nat.mul_comm] using h

/-- The numeral of a number of two or more digits: that of the number without its last digit, and
the last digit. -/
theorem numeral_of_ten_le {n : Nat} (h : 10 ≤ n) :
    numeral n = numeral (n / 10) ++ [(n % 10).digitChar] :=
  Nat.toDigits_of_base_le (by decide) h

theorem numeral_of_lt_ten {n : Nat} (h : n < 10) : numeral n = [n.digitChar] :=
  Nat.toDigits_of_lt_base h

/-- Only the numeral of zero starts with a zero. -/
theorem head?_numeral_ne_zero {n : Nat} (h : 0 < n) : (numeral n).head? ≠ some '0' := by
  -- the first digit stays the first when the last one is taken away
  induction n using Nat.strongRecOn with
  | _ n ih =>
    by_cases hn : n < 10
    · rw [numeral_of_lt_ten hn]
      have hall : ∀ d ∈ List.range 10, 0 < d → [d.digitChar].head? ≠ some '0' := by decide
      exact hall n (List.mem_range.2 hn) h
    · rw [numeral_of_ten_le (by omega), List.head?_append]
      have hhead := ih (n / 10) (by omega) (by omega)
      cases hd : (numeral (n / 10)).head? with
      | none => exact absurd (List.head?_eq_none_iff.1 hd) (numeral_ne_nil _)
      | some c => rwa [hd] at hhead

theorem length_numeral_le {n k : Nat} (hk : 0 < k) (h : n < pow10 k) : (numeral n).length ≤ k :=
  (Nat.length_toDigits_le_iff (by decide) hk).2 h

/-- The characters of an integer are digits and perhaps a minus sign. -/
theorem isDigit_or_minus_of_mem_integer {n : Int} {c : Char} (h : c ∈ integer n) :
    c.isDigit ∨ c = '-' := by
  cases n with
  | ofNat m => exact Or.inl (isDigit_of_mem_numeral h)
  | negSucc m =>
    rcases List.mem_cons.1 h with h | h
    · exact Or.inr h
    · exact Or.inl (isDigit_of_mem_numeral h)

end CommandBook.Decimal

namespace CommandBook.Json

open Decimal

theorem isNumberPart_of_isDigit {c : Char} (h : c.isDigit) : State.isNumberPart c := by
  simp [State.isNumberPart, h]

/-- What the reader takes for the whole part of a numeral is the numeral. -/
theorem whole_numeral (n : Nat) :
    (if (numeral n).head? == some '0' then ['0'] else (numeral n).takeWhile Char.isDigit) =
      numeral n := by
  by_cases h : 0 < n
  · rw [if_neg (by simpa using head?_numeral_ne_zero h)]
    have hall : ∀ c ∈ numeral n, c.isDigit := fun c hc => isDigit_of_mem_numeral hc
    rw [← List.append_nil (numeral n), List.takeWhile_append_of_pos hall]
    simp
  · obtain rfl : n = 0 := by omega
    rfl

/-- A numeral does not start with a minus sign. -/
theorem head?_numeral_ne_minus (n : Nat) : ((numeral n).head? == some '-') = false := by
  cases h : (numeral n).head? with
  | none => rfl
  | some c =>
    have hc : c.isDigit := isDigit_of_mem_numeral (List.mem_of_mem_head? h)
    have hne : c ≠ '-' := by rintro rfl; exact absurd hc (by decide)
    simpa using hne

/-- **An integer reads back from its text**, all of which it takes. -/
theorem numberAt?_integer {n : Int} (h : fits n) :
    numberAt? (integer n) = some (.ok (.int n), (integer n).length) := by
  have hlen : ∀ m : Nat, m = n.natAbs → ¬ maxDigits < (numeral m).length := fun m hm => by
    have := length_numeral_le (n := m) (k := maxDigits) (by decide) (by simpa [fits, hm] using h)
    omega
  cases n with
  | ofNat m =>
    have hm := hlen m rfl
    unfold numberAt?
    simp only [integer, head?_numeral_ne_minus, Bool.false_eq_true, if_false, whole_numeral]
    simp [numeral_ne_nil, hm, value_numeral]
  | negSucc m =>
    have hm := hlen (m + 1) rfl
    unfold numberAt?
    simp only [integer, List.head?_cons, beq_self_eq_true, if_true, List.drop_succ_cons,
      List.drop_zero, whole_numeral]
    simp [numeral_ne_nil, hm, value_numeral, Int.negSucc_eq]

end CommandBook.Json
