/-!
# Hexadecimal digits

Numbers as rows of hexadecimal digits in lower case, padded to a width, and the values of digits of
either case.
-/

namespace CommandBook.Text

/-- The digit of a number below 16. -/
def hexDigit (n : Nat) : Char :=
  if n < 10 then Char.ofNat (0x30 + n) else Char.ofNat (0x57 + n)

/-- The last `width` hexadecimal digits of a number. -/
def hexDigits : (width : Nat) → Nat → List Char
  | 0, _ => []
  | width + 1, n => hexDigits width (n / 16) ++ [hexDigit (n % 16)]

theorem eq_hexDigit_of_mem_hexDigits {c : Char} : ∀ {width n : Nat}, c ∈ hexDigits width n →
    ∃ d, d < 16 ∧ c = hexDigit d
  | 0, _, h => absurd h List.not_mem_nil
  | width + 1, n, h => by
    rw [hexDigits, List.mem_append, List.mem_singleton] at h
    rcases h with h | h
    · exact eq_hexDigit_of_mem_hexDigits h
    · exact ⟨n % 16, Nat.mod_lt n (by decide), h⟩

/-- The value of a hexadecimal digit of either case. -/
def hexValue? (c : Char) : Option Nat :=
  let n := c.toNat
  if 0x30 ≤ n && n ≤ 0x39 then some (n - 0x30)
  else if 0x61 ≤ n && n ≤ 0x66 then some (n - 0x57)
  else if 0x41 ≤ n && n ≤ 0x46 then some (n - 0x37)
  else none

theorem hexValue?_hexDigit {n : Nat} (h : n < 16) : hexValue? (hexDigit n) = some n := by
  have all : ∀ d ∈ List.range 16, hexValue? (hexDigit d) = some d := by decide
  exact all n (List.mem_range.2 h)

/-- The number that a row of hexadecimal digits writes. -/
def hexNumber? (cs : List Char) : Option Nat :=
  cs.foldl (fun acc c => acc.bind fun n => (hexValue? c).map (n * 16 + ·)) (some 0)

end CommandBook.Text
