/-!
# Similar texts

How much two texts have in common: the longest row of characters that occurs in both, and so on to
the left and to the right of it. The share of common characters decides which names are close enough
to one that was mistyped. In a long text the characters that occur again and again say little, so
that no row is looked for that holds one of them; a row that was found may still grow by them.

## Main definitions

* `commonLength` — the number of characters in common rows
* `closest` — the names that are close to a text, the closest first
-/

namespace CommandBook.Text

/-- The number of characters that two texts begin with. -/
def sharedStart : List Char → List Char → Nat
  | a :: as, b :: bs => if a == b then sharedStart as bs + 1 else 0
  | _, _ => 0

/-- A row that two texts share: where it begins in each, and its length. -/
structure SharedRow where
  first : Nat
  second : Nat
  length : Nat

/-- The longest row of characters that count which stands at the start of `a` and at some place of
`b`. The first of several is taken. -/
def bestPlace (counts : Char → Bool) (a : List Char) : (place : Nat) → List Char → Nat × Nat
  | place, [] => (place, 0)
  | place, b :: bs =>
    let here := sharedStart a ((b :: bs).takeWhile counts)
    let later := bestPlace counts a (place + 1) bs
    if later.2 > here then later else (place, here)

/-- The longest row of characters that count in two texts, from a place of the first on. Without
one it is empty and stands at the start of both. -/
def longestRow (counts : Char → Bool) (b : List Char) : (place : Nat) → List Char → SharedRow
  | _, [] => ⟨0, 0, 0⟩
  | place, a :: as =>
    let (j, k) := bestPlace counts (a :: as) 0 b
    let later := longestRow counts b (place + 1) as
    if later.length > k then later else if k = 0 then ⟨0, 0, 0⟩ else ⟨place, j, k⟩

/-- A row with all characters that the two texts share on both sides of it. -/
def SharedRow.grown (r : SharedRow) (a b : List Char) : SharedRow :=
  let back := sharedStart (a.take r.first).reverse (b.take r.second).reverse
  let on := sharedStart (a.drop (r.first + r.length)) (b.drop (r.second + r.length))
  ⟨r.first - back, r.second - back, back + r.length + on⟩

/-- The number of characters in common rows, with a bound on the number of splits. -/
def commonLengthWithin (counts : Char → Bool) : Nat → List Char → List Char → Nat
  | 0, _, _ => 0
  | n + 1, a, b =>
    let r := (longestRow counts b 0 a).grown a b
    if r.length = 0 then 0
    else commonLengthWithin counts n (a.take r.first) (b.take r.second) + r.length +
      commonLengthWithin counts n (a.drop (r.first + r.length)) (b.drop (r.second + r.length))

/-- The length from which on a text is long. -/
def longText : Nat := 200

/-- Whether a character counts in a text: a long one has some so often that they do not. -/
def isTelling (text : List Char) (c : Char) : Bool :=
  text.length < longText || text.count c ≤ text.length / 100 + 1

/-- The number of characters in common rows; every split takes a character away. -/
def commonLength (a b : List Char) : Nat :=
  let telling := b.eraseDups.filter (isTelling b)
  commonLengthWithin telling.contains (a.length + 1) a b

/-- The most names that are worth a mention. -/
def mentions : Nat := 3

/-- The names of which at least six tenths are common with a text, the closest first and at most
three. -/
def closest (names : List String) (word : String) : List String :=
  let scored := names.filterMap fun n =>
    let common := 2 * commonLength n.toList word.toList
    let total := n.length + word.length
    if 6 * total ≤ 10 * common then some (common, total, n) else none
  let before (x y : Nat × Nat × String) : Bool :=
    if x.1 * y.2.1 = y.1 * x.2.1 then decide (y.2.2 ≤ x.2.2) else x.1 * y.2.1 > y.1 * x.2.1
  ((scored.mergeSort before).take mentions).map fun x => x.2.2

end CommandBook.Text
