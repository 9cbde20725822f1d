/-!
# Line ends

Texts that come from files and commands may end their lines with CR, LF or both; `unifyLineEnds`
leaves LF alone. Where a text is laid out anew, every character that Unicode lets end a line does.

## Main definitions

* `unifyLineEnds` — the text with LF for every line end
* `splitLines` — the lines of a text
-/

namespace CommandBook.Text

/-- The text with every CR LF and every lone CR replaced by LF. -/
def unifyLineEnds : List Char → List Char
  | [] => []
  | '\r' :: '\n' :: rest => '\n' :: unifyLineEnds rest
  | c :: rest => (if c = '\r' then '\n' else c) :: unifyLineEnds rest

theorem unifyLineEnds_eq_self {cs : List Char} (h : '\r' ∉ cs) : unifyLineEnds cs = cs := by
  fun_induction unifyLineEnds cs with
  | case1 => rfl
  | case2 rest ih => simp at h
  | case3 c rest _ ih =>
    simp only [List.mem_cons, not_or] at h
    rw [ih h.2, if_neg (Ne.symm h.1)]

/-- The characters that end a line. -/
def isLineEnd (c : Char) : Bool :=
  let n := c.toNat
  (0x0A ≤ n && n ≤ 0x0D) || (0x1C ≤ n && n ≤ 0x1E) || n == 0x85 || n == 0x2028 || n == 0x2029

/-- The lines of a text after the characters `line` (nearest first) of the present one; a line end
at the end of the text begins no new line. -/
def splitLinesFrom (line : List Char) : List Char → List (List Char)
  | [] => if line.isEmpty then [] else [line.reverse]
  | '\r' :: '\n' :: rest => line.reverse :: splitLinesFrom [] rest
  | c :: rest =>
    if isLineEnd c then line.reverse :: splitLinesFrom [] rest
    else splitLinesFrom (c :: line) rest

/-- The lines of a text. -/
def splitLines (cs : List Char) : List (List Char) := splitLinesFrom [] cs

end CommandBook.Text
