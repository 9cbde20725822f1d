import CommandBook.Proofs.Json.Numerals

/-!
# The grammar of JSON

The texts of JSON values, as the standard gives them: six kinds of values, with gaps between tokens.
Beside the numbers of the standard there are `NaN`, `Infinity` and `-Infinity`, an integer has no
more digits than can be read, and of members with one name the last value counts.

A text that has been read in part is the beginning of a value: collections are open, and in the
innermost one a value is due. `Opened` are these beginnings, with what has been read of each
collection.

## Main definitions

* `StringText`, `ValueText`, `ItemsText`, `MembersText` — the texts of values
* `IsText` — a value with gaps around it
* `Opened` — the beginnings behind which a value is due
* `MeetsLongInteger` — texts in which an integer that is too long stands where a value is due

## Main statements

* `ItemsBefore.items`, `MembersBefore.members` — one more entry of a collection
-/

namespace CommandBook.Json

/-! ## Tokens -/

/-- A row of blanks and line ends, perhaps none. -/
def IsGapRow (cs : List Char) : Prop := ∀ c ∈ cs, isGap c

theorem isGapRow_nil : IsGapRow [] := fun _ hc => absurd hc List.not_mem_nil

theorem IsGapRow.concat {cs : List Char} (h : IsGapRow cs) {c : Char} (hc : isGap c) :
    IsGapRow (cs ++ [c]) :=
  List.forall_mem_append.2 ⟨h, List.forall_mem_singleton.2 hc⟩

/-- What stands between the quotes of a string, with its code points. -/
inductive StringText : List Char → List Nat → Prop
  | nil : StringText [] []
  | plain {c : Char} {cs : List Char} {points : List Nat} :
      c ≠ '"' → c ≠ '\\' → 0x20 ≤ c.toNat → StringText cs points →
      StringText (c :: cs) (c.toNat :: points)
  | letter {c d : Char} {cs : List Char} {points : List Nat} :
      escaped? c = some d → StringText cs points →
      StringText ('\\' :: c :: cs) (d.toNat :: points)
  | unit {digits cs : List Char} {n : Nat} {points : List Nat} :
      digits.length = 4 → Text.hexNumber? digits = some n → StringText cs points →
      StringText ('\\' :: 'u' :: (digits ++ cs)) (n :: points)

theorem StringText.append {cs ds : List Char} {points later : List Nat} (h : StringText cs points)
    (h' : StringText ds later) : StringText (cs ++ ds) (points ++ later) := by
  induction h with
  | nil => exact h'
  | plain hq hb hc _ ih => exact .plain hq hb hc ih
  | letter hd _ ih => exact .letter hd ih
  | unit hlength hn _ ih =>
    rw [List.cons_append, List.cons_append, List.append_assoc]
    exact .unit hlength hn ih

/-- The text of a row of code points. -/
def textOfPoints (points : List Nat) : String := String.ofList (joinSurrogates points)

/-- The words that stand for values. -/
def words : List (List Char × Json) := [
  (['n', 'u', 'l', 'l'], .null),
  (['t', 'r', 'u', 'e'], .bool true),
  (['f', 'a', 'l', 's', 'e'], .bool false),
  (['N', 'a', 'N'], .real (0.0 / 0.0)),
  (['I', 'n', 'f', 'i', 'n', 'i', 't', 'y'], .real (1.0 / 0.0)),
  (['-', 'I', 'n', 'f', 'i', 'n', 'i', 't', 'y'], .real (-1.0 / 0.0))]

/-! ## Values -/

/-- The name of a member, with the gaps around it. -/
inductive NameText : List Char → String → Prop
  | mk {gap cs gap' : List Char} {points : List Nat} :
      IsGapRow gap → StringText cs points → IsGapRow gap' →
      NameText (gap ++ '"' :: (cs ++ '"' :: gap')) (textOfPoints points)

mutual

/-- The text of a value. -/
inductive ValueText : List Char → Json → Prop
  | word {cs : List Char} {v : Json} : (cs, v) ∈ words → ValueText cs v
  | number {n : Numeral} {v : Json} : n.IsProper → n.value = .ok v → ValueText n.text v
  | string {cs : List Char} {points : List Nat} : StringText cs points →
      ValueText ('"' :: (cs ++ ['"'])) (.str (textOfPoints points))
  | noItems {gap : List Char} : IsGapRow gap → ValueText ('[' :: (gap ++ [']'])) (.arr [])
  | items {cs : List Char} {vs : List Json} : ItemsText cs vs →
      ValueText ('[' :: (cs ++ [']'])) (.arr vs)
  | noMembers {gap : List Char} : IsGapRow gap →
      ValueText ('\x7b' :: (gap ++ ['\x7d'])) (.obj [])
  | members {cs : List Char} {ms : List (String × Json)} : MembersText cs ms →
      ValueText ('\x7b' :: (cs ++ ['\x7d'])) (.obj (insertEntries [] ms))

/-- Items with commas between them. -/
inductive ItemsText : List Char → List Json → Prop
  | one {gap cs gap' : List Char} {v : Json} :
      IsGapRow gap → ValueText cs v → IsGapRow gap' → ItemsText (gap ++ (cs ++ gap')) [v]
  | more {before gap cs gap' : List Char} {vs : List Json} {v : Json} :
      ItemsText before vs → IsGapRow gap → ValueText cs v → IsGapRow gap' →
      ItemsText (before ++ ',' :: (gap ++ (cs ++ gap'))) (vs ++ [v])

/-- Members with commas between them. -/
inductive MembersText : List Char → List (String × Json) → Prop
  | one {front gap cs gap' : List Char} {name : String} {v : Json} :
      NameText front name → IsGapRow gap → ValueText cs v → IsGapRow gap' →
      MembersText (front ++ ':' :: (gap ++ (cs ++ gap'))) [(name, v)]
  | more {before front gap cs gap' : List Char} {ms : List (String × Json)} {name : String}
      {v : Json} :
      MembersText before ms → NameText front name → IsGapRow gap → ValueText cs v →
      IsGapRow gap' →
      MembersText (before ++ ',' :: (front ++ ':' :: (gap ++ (cs ++ gap')))) (ms ++ [(name, v)])

end

/-- The text of a value on its own, with gaps around it. -/
inductive IsText : List Char → Json → Prop
  | mk {gap cs gap' : List Char} {v : Json} :
      IsGapRow gap → ValueText cs v → IsGapRow gap' → IsText (gap ++ (cs ++ gap')) v

/-! ## Beginnings of values -/

/-- The items in front of one that is due: none, or some and a comma. -/
inductive ItemsBefore : List Char → List Json → Prop
  | none : ItemsBefore [] []
  | comma {cs : List Char} {vs : List Json} : ItemsText cs vs → ItemsBefore (cs ++ [',']) vs

/-- The members in front of one that is due. -/
inductive MembersBefore : List Char → List (String × Json) → Prop
  | none : MembersBefore [] []
  | comma {cs : List Char} {ms : List (String × Json)} : MembersText cs ms →
      MembersBefore (cs ++ [',']) ms

theorem ItemsBefore.items {before gap cs gap' : List Char} {vs : List Json} {v : Json}
    (h : ItemsBefore before vs) (hgap : IsGapRow gap) (hv : ValueText cs v)
    (hgap' : IsGapRow gap') : ItemsText (before ++ (gap ++ (cs ++ gap'))) (vs ++ [v]) := by
  cases h with
  | none =>
    rw [List.nil_append]
    exact .one hgap hv hgap'
  | comma hitems =>
    rw [List.append_assoc, List.singleton_append]
    exact .more hitems hgap hv hgap'

theorem MembersBefore.members {before front gap cs gap' : List Char}
    {ms : List (String × Json)} {name : String} {v : Json} (h : MembersBefore before ms)
    (hname : NameText front name) (hgap : IsGapRow gap) (hv : ValueText cs v)
    (hgap' : IsGapRow gap') :
    MembersText (before ++ (front ++ ':' :: (gap ++ (cs ++ gap')))) (ms ++ [(name, v)]) := by
  cases h with
  | none =>
    rw [List.nil_append]
    exact .one hname hgap hv hgap'
  | comma hmembers =>
    rw [List.append_assoc, List.singleton_append]
    exact .more hmembers hname hgap hv hgap'

/-- The beginning of a text behind which a value is due, with the collections that are open. -/
inductive Opened : List Char → List Frame → Prop
  | text {gap : List Char} : IsGapRow gap → Opened gap []
  | items {before cs gap : List Char} {stack : List Frame} {vs : List Json} :
      Opened before stack → ItemsBefore cs vs → IsGapRow gap →
      Opened (before ++ '[' :: (cs ++ gap)) (.items vs.reverse :: stack)
  | member {before cs front gap : List Char} {stack : List Frame} {ms : List (String × Json)}
      {name : String} :
      Opened before stack → MembersBefore cs ms → NameText front name → IsGapRow gap →
      Opened (before ++ '\x7b' :: (cs ++ (front ++ ':' :: gap)))
        (.member (insertEntries [] ms) name :: stack)

/-- An integer with more digits than may be read. -/
structure Numeral.IsTooLong (n : Numeral) : Prop where
  isInteger : n.isInteger
  long : Decimal.maxDigits < n.whole.length

/-- Where a value is due, an integer stands that is too long. -/
def MeetsLongInteger (cs : List Char) : Prop :=
  ∃ before stack, ∃ n : Numeral, ∃ after, Opened before stack ∧ n.IsProper ∧ n.IsTooLong ∧
    n.EndsBefore after ∧ cs = before ++ (n.text ++ after)

theorem Numeral.value_eq_error_iff {n : Numeral} {e : ReadFailure} :
    n.value = .error e ↔ n.IsTooLong ∧ e = .numeralTooLong := by
  unfold Numeral.value
  split
  · next hinteger =>
    split
    · next hlong =>
      constructor
      · rintro ⟨⟩
        exact ⟨⟨hinteger, hlong⟩, rfl⟩
      · rintro ⟨-, rfl⟩
        rfl
    · next hshort =>
      constructor
      · rintro ⟨⟩
      · rintro ⟨⟨-, hlong⟩, -⟩
        exact absurd hlong hshort
  · next hinteger =>
    constructor
    · rintro ⟨⟩
    · rintro ⟨⟨h, -⟩, -⟩
      exact absurd h hinteger

end CommandBook.Json
