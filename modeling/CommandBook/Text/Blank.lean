/-!
# Blanks and words

White space in the Unicode sense, and the two operations that depend on it: trimming a text and
splitting it into words.

## Main statements

* `not_isBlank_head?_trimChars`, `not_isBlank_getLast?_trimChars` — the ends of a trimmed text
-/

namespace CommandBook.Text

/-- Unicode white space, the four information separators included. -/
def isBlank (c : Char) : Bool :=
  let n := c.toNat
  (0x09 ≤ n && n ≤ 0x0D) || (0x1C ≤ n && n ≤ 0x20) || n == 0x85 || n == 0xA0 || n == 0x1680 ||
    (0x2000 ≤ n && n ≤ 0x200A) || n == 0x2028 || n == 0x2029 || n == 0x202F || n == 0x205F ||
    n == 0x3000

/-- The pieces of a list between the elements that satisfy `p`; there is one more piece than there
are such elements. -/
def splitWhere {α : Type} (p : α → Bool) : List α → List (List α)
  | [] => [[]]
  | x :: xs => if p x then [] :: splitWhere p xs else (splitWhere p xs).modifyHead (x :: ·)

/-- The maximal rows of characters that are not blank, in order. -/
def words (cs : List Char) : List (List Char) :=
  (splitWhere isBlank cs).filter (!·.isEmpty)

/-- The text without the characters at its end that satisfy `p`. -/
def dropTrailing (p : Char → Bool) (cs : List Char) : List Char :=
  (cs.reverse.dropWhile p).reverse

/-- The text without blanks at either end. -/
def trimChars (cs : List Char) : List Char :=
  dropTrailing isBlank (cs.dropWhile isBlank)

/-- The text without blanks at either end. -/
def trim (s : String) : String := String.ofList (trimChars s.toList)

/-! ## Laws -/

theorem dropTrailing_prefix (p : Char → Bool) (cs : List Char) : dropTrailing p cs <+: cs := by
  rw [← List.reverse_suffix, dropTrailing, List.reverse_reverse]
  exact List.dropWhile_suffix p

/-- A trimmed text begins with no blank. -/
theorem not_isBlank_head?_trimChars {cs : List Char} {c : Char}
    (h : (trimChars cs).head? = some c) : isBlank c = false := by
  obtain ⟨rest, hrest⟩ := dropTrailing_prefix isBlank (cs.dropWhile isBlank)
  have hnot := List.head?_dropWhile_not isBlank cs
  rw [trimChars] at h
  rw [← hrest, List.head?_append, h] at hnot
  simpa using hnot

/-- A trimmed text ends with no blank. -/
theorem not_isBlank_getLast?_trimChars {cs : List Char} {c : Char}
    (h : (trimChars cs).getLast? = some c) : isBlank c = false := by
  rw [trimChars, dropTrailing, List.getLast?_reverse] at h
  have hnot := List.head?_dropWhile_not isBlank (cs.dropWhile isBlank).reverse
  rw [h] at hnot
  simpa using hnot

end CommandBook.Text
