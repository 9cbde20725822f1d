import CommandBook.Proofs.Text.Digits
import CommandBook.Response.Path

/-!
# What one segment finds

A segment finds a member of an object by three rules that take hyphens away differently: the exact
name, the name that the segment is without its first hyphen, and the first name that becomes that
without any hyphens. Whatever is found has the segment's name up to hyphens. The third rule compares
with a text that may still have a hyphen in it, and then no name fits; so it finds all there is to
find for segments with one hyphen at most, and nothing for others.

Into an array leads the numeral of an index, with a hyphen in it or without.

## Main statements

* `findsMember_member?` — what is found in an object
* `element?_of_isAscii` — what is found in an array
* `step_finds` — both
-/

namespace CommandBook.Response

variable {segment : List Char}

/-! ## Names up to hyphens -/

/-- The same name up to hyphens. -/
def AreAlike (name segment : List Char) : Prop := withoutHyphens name = withoutHyphens segment

instance (name segment : List Char) : Decidable (AreAlike name segment) :=
  inferInstanceAs (Decidable (_ = _))

theorem hyphen_not_mem_withoutHyphens (cs : List Char) : '-' ∉ withoutHyphens cs := fun h => by
  have hne := (List.mem_filter.1 h).2
  simp at hne

theorem withoutHyphens_of_not_mem {cs : List Char} (h : '-' ∉ cs) : withoutHyphens cs = cs := by
  refine List.filter_eq_self.2 fun c hc => ?_
  have hne : c ≠ '-' := fun heq => h (heq ▸ hc)
  simpa using hne

theorem withoutHyphens_withoutFirstHyphen (cs : List Char) :
    withoutHyphens (withoutFirstHyphen cs) = withoutHyphens cs := by
  unfold withoutHyphens withoutFirstHyphen
  induction cs with
  | nil => rfl
  | cons c cs ih =>
    by_cases hc : c = '-'
    · subst hc
      rw [List.erase_cons_head, List.filter_cons_of_neg (by decide)]
    · rw [List.erase_cons_tail (by simpa using hc), List.filter_cons, List.filter_cons, ih]

/-- Where the first hyphen is the only one, taking it away leaves none. -/
theorem withoutFirstHyphen_eq (h : '-' ∉ withoutFirstHyphen segment) :
    withoutFirstHyphen segment = withoutHyphens segment := by
  rw [← withoutHyphens_withoutFirstHyphen, withoutHyphens_of_not_mem h]

theorem withoutFirstHyphen_eq_of_count (h : segment.count '-' ≤ 1) :
    withoutFirstHyphen segment = withoutHyphens segment := by
  refine withoutFirstHyphen_eq (List.count_eq_zero.1 ?_)
  rw [withoutFirstHyphen, List.count_erase_self]
  omega

/-- A name that the third rule accepts is the segment's up to hyphens, and then the rule accepts
no other names than such ones. -/
theorem withoutFirstHyphen_eq_of_withoutHyphens {name : List Char}
    (h : withoutHyphens name = withoutFirstHyphen segment) :
    withoutFirstHyphen segment = withoutHyphens segment :=
  withoutFirstHyphen_eq (h ▸ hyphen_not_mem_withoutHyphens name)

/-! ## Objects -/

section Objects
variable {members : List (String × Json)} {v : Json}

/-- What a segment may find among the members of an object. -/
structure FindsMember (segment : List Char) (members : List (String × Json))
    (found : Option Json) : Prop where
  /-- Nothing is found but the value of a name that is the segment up to hyphens. -/
  alike : ∀ v, found = some v →
    ∃ name, members.lookup name = some v ∧ AreAlike name.toList segment
  /-- The exact name comes first. -/
  own : ∀ v, members.lookup (String.ofList segment) = some v → found = some v
  /-- Then the name without the first hyphen. -/
  stripped : members.lookup (String.ofList segment) = none →
    ∀ v, members.lookup (String.ofList (withoutFirstHyphen segment)) = some v → found = some v
  /-- Then the first name in document order that is the segment up to hyphens. -/
  first : members.lookup (String.ofList segment) = none →
    members.lookup (String.ofList (withoutFirstHyphen segment)) = none →
      ∀ v, found = some v → ∃ before name after, members = before ++ (name, v) :: after ∧
        AreAlike name.toList segment ∧ ∀ m ∈ before, ¬ AreAlike m.1.toList segment
  /-- With one hyphen at most, a segment finds whatever name there is. -/
  isSome_iff : segment.count '-' ≤ 1 →
    (found.isSome ↔ ∃ m ∈ members, AreAlike m.1.toList segment)

theorem member?_of_own (h : members.lookup (String.ofList segment) = some v) :
    member? segment members = some v := by
  simp [member?, h]

theorem member?_of_stripped (hown : members.lookup (String.ofList segment) = none)
    (h : members.lookup (String.ofList (withoutFirstHyphen segment)) = some v) :
    member? segment members = some v := by
  simp [member?, hown, h]

theorem member?_of_neither (hown : members.lookup (String.ofList segment) = none)
    (hstripped : members.lookup (String.ofList (withoutFirstHyphen segment)) = none) :
    member? segment members = (members.find? fun m =>
      withoutHyphens m.1.toList == withoutFirstHyphen segment).map Prod.snd := by
  simp [member?, hown, hstripped]

/-- The three rules, one after the other. -/
theorem member?_cases (segment : List Char) (members : List (String × Json)) :
    (∃ v, members.lookup (String.ofList segment) = some v ∧ member? segment members = some v) ∨
    (∃ v, members.lookup (String.ofList (withoutFirstHyphen segment)) = some v ∧
      member? segment members = some v) ∨
    member? segment members = (members.find? fun m =>
      withoutHyphens m.1.toList == withoutFirstHyphen segment).map Prod.snd := by
  cases hown : members.lookup (String.ofList segment) with
  | some v => exact Or.inl ⟨v, rfl, member?_of_own hown⟩
  | none =>
    cases hstripped : members.lookup (String.ofList (withoutFirstHyphen segment)) with
    | some v => exact Or.inr (Or.inl ⟨v, rfl, member?_of_stripped hown hstripped⟩)
    | none => exact Or.inr (Or.inr (member?_of_neither hown hstripped))

/-- The first of the members with a property that its name alone decides is the value of its
name. -/
theorem lookup_of_find? {p : String → Bool} {m : String × Json}
    (h : members.find? (fun m => p m.1) = some m) : members.lookup m.1 = some m.2 := by
  obtain ⟨hp, before, after, rfl, hbefore⟩ := List.find?_eq_some_iff_append.1 h
  refine List.lookup_eq_some_iff.2 ⟨before, after, rfl, fun e he => ?_⟩
  -- an earlier member of that name would have been the first
  have hnot := hbefore e he
  simp only [Bool.not_eq_true'] at hnot
  have hne : m.1 ≠ e.1 := fun heq => by
    rw [heq, hnot] at hp
    cases hp
  simpa using hne

/-- The third rule finds the first member whose name is the segment up to hyphens. -/
theorem exists_first_of_find? {m : String × Json}
    (h : members.find? (fun m => withoutHyphens m.1.toList == withoutFirstHyphen segment) =
      some m) :
    AreAlike m.1.toList segment ∧ ∃ before after, members = before ++ m :: after ∧
      ∀ e ∈ before, ¬ AreAlike e.1.toList segment := by
  obtain ⟨hm, before, after, hmembers, hbefore⟩ := List.find?_eq_some_iff_append.1 h
  have heq := withoutFirstHyphen_eq_of_withoutHyphens (eq_of_beq hm)
  refine ⟨(eq_of_beq hm).trans heq, before, after, hmembers, fun e he halike => ?_⟩
  have hnot := hbefore e he
  rw [heq, show withoutHyphens e.1.toList = withoutHyphens segment from halike] at hnot
  simp at hnot

/-- Whatever is found is the value of a name that is the segment up to hyphens. -/
theorem exists_alike_of_member? (h : member? segment members = some v) :
    ∃ name, members.lookup name = some v ∧ AreAlike name.toList segment := by
  rcases member?_cases segment members with ⟨w, hown, hfound⟩ | ⟨w, hstripped, hfound⟩ | hfound
  · obtain rfl : w = v := Option.some.inj (hfound.symm.trans h)
    refine ⟨_, hown, ?_⟩
    rw [String.toList_ofList]
    rfl
  · obtain rfl : w = v := Option.some.inj (hfound.symm.trans h)
    refine ⟨_, hstripped, ?_⟩
    rw [String.toList_ofList]
    exact withoutHyphens_withoutFirstHyphen segment
  · rw [hfound, Option.map_eq_some_iff] at h
    obtain ⟨m, hfind, rfl⟩ := h
    have hlookup := lookup_of_find?
      (p := fun name => withoutHyphens name.toList == withoutFirstHyphen segment) hfind
    exact ⟨m.1, hlookup, (exists_first_of_find? hfind).1⟩

/-- A name that is the segment's up to hyphens is enough for a segment with one hyphen at most. -/
theorem isSome_member?_of_alike (hcount : segment.count '-' ≤ 1) {m : String × Json}
    (hm : m ∈ members) (halike : AreAlike m.1.toList segment) :
    (member? segment members).isSome := by
  rcases member?_cases segment members with ⟨w, -, hfound⟩ | ⟨w, -, hfound⟩ | hfound
  · rw [hfound]
    rfl
  · rw [hfound]
    rfl
  -- the third rule compares with the segment without any hyphens, for it had one at most
  · rw [hfound, Option.isSome_map, List.find?_isSome]
    refine ⟨m, hm, ?_⟩
    rw [withoutFirstHyphen_eq_of_count hcount]
    exact beq_iff_eq.2 halike

/-- **What a segment finds in an object.** -/
theorem findsMember_member? (segment : List Char) (members : List (String × Json)) :
    FindsMember segment members (member? segment members) where
  alike _ h := exists_alike_of_member? h
  own _ h := member?_of_own h
  stripped hown _ h := member?_of_stripped hown h
  first hown hstripped v h := by
    rw [member?_of_neither hown hstripped, Option.map_eq_some_iff] at h
    obtain ⟨m, hfind, rfl⟩ := h
    obtain ⟨halike, before, after, hmembers, hbefore⟩ := exists_first_of_find? hfind
    exact ⟨before, m.1, after, hmembers, halike, hbefore⟩
  isSome_iff hcount := by
    constructor
    · intro h
      obtain ⟨v, hv⟩ := Option.isSome_iff_exists.1 h
      obtain ⟨name, hlookup, halike⟩ := exists_alike_of_member? hv
      obtain ⟨before, after, hmembers, -⟩ := List.lookup_eq_some_iff.1 hlookup
      exact ⟨(name, v), by simp [hmembers], halike⟩
    · rintro ⟨m, hm, halike⟩
      exact isSome_member?_of_alike hcount hm halike

end Objects

/-! ## Arrays -/

/-- A letter, a digit, an underscore or a hyphen. -/
def isSegmentChar (c : Char) : Bool := c.isAlphanum || c == '_' || c == '-'

theorem isAscii_of_isSegmentChar {c : Char} (h : isSegmentChar c) : c.toNat < 0x80 := by
  change (decide (65 ≤ c.val ∧ c.val ≤ 90) || (decide (97 ≤ c.val) && decide (c.val ≤ 122)) ||
    c.isDigit || c == '_' || c == '-') = true at h
  simp only [Bool.or_eq_true, Bool.and_eq_true, decide_eq_true_eq, beq_iff_eq,
    UInt32.le_iff_toNat_le, UInt32.reduceToNat] at h
  have hval : c.val.toNat = c.toNat := rfl
  rcases h with (((h | h) | h) | rfl) | rfl
  · omega
  · omega
  · exact Text.isAscii_of_isDigit h
  · decide
  · decide

/-- A row of ASCII digits, one at least. -/
structure IsNumeral (cs : List Char) : Prop where
  ne_nil : cs ≠ []
  isDigit : ∀ c ∈ cs, c.isDigit

instance (cs : List Char) : Decidable (IsNumeral cs) :=
  decidable_of_iff (cs ≠ [] ∧ cs.all Char.isDigit)
    ⟨fun h => ⟨h.1, List.all_eq_true.1 h.2⟩, fun h => ⟨h.1, List.all_eq_true.2 h.2⟩⟩

/-- The text of an index in a segment: the segment itself if it is all digits, and else the segment
without its first hyphen. -/
def indexText (segment : List Char) : List Char :=
  if IsNumeral segment then segment else withoutFirstHyphen segment

/-- What a segment finds among the items of an array: the one whose index it writes. -/
structure FindsItem (segment : List Char) (items : List Json) (found : Option Json) : Prop where
  isSome_iff : found.isSome ↔
    IsNumeral (indexText segment) ∧ Decimal.value (indexText segment) < items.length
  item : IsNumeral (indexText segment) → ∀ h : Decimal.value (indexText segment) < items.length,
    found = some items[Decimal.value (indexText segment)]

theorem isIndex_of_isAscii {cs : List Char} (h : ∀ c ∈ cs, c.toNat < 0x80) :
    isIndex cs = decide (IsNumeral cs) := by
  have hall : cs.all Text.isDigitLike = cs.all Char.isDigit := by
    rw [Bool.eq_iff_iff, List.all_eq_true, List.all_eq_true]
    exact forall₂_congr fun c hc => by rw [Text.isDigitLike_of_isAscii (h c hc)]
  rw [isIndex, hall, Bool.eq_iff_iff, decide_eq_true_eq, Bool.and_eq_true, List.all_eq_true]
  constructor
  · rintro ⟨hne, hdigit⟩
    exact ⟨by simpa using hne, hdigit⟩
  · rintro ⟨hne, hdigit⟩
    exact ⟨by simpa using hne, hdigit⟩

theorem length_indexText_le (segment : List Char) : (indexText segment).length ≤ segment.length := by
  unfold indexText
  split
  · exact Nat.le_refl _
  · exact List.length_erase_le

/-- **What a segment finds in an array**: the item at the index that it writes. No fault arises from
ASCII characters that are not too many. -/
theorem element?_of_isAscii (h : ∀ c ∈ segment, c.toNat < 0x80)
    (hlength : segment.length ≤ Decimal.maxDigits) (items : List Json) :
    element? segment items = .ok (if IsNumeral (indexText segment)
      then items[Decimal.value (indexText segment)]? else none) := by
  have hdigits : (if isIndex segment then segment else withoutFirstHyphen segment) =
      indexText segment := by
    simp only [isIndex_of_isAscii h, decide_eq_true_eq]
    rfl
  have htext : ∀ c ∈ indexText segment, c.toNat < 0x80 := fun c hc => by
    unfold indexText at hc
    split at hc
    · exact h c hc
    · exact h c (List.mem_of_mem_erase hc)
  have hshort := length_indexText_le segment
  rw [element?, index?, hdigits]
  simp only [isIndex_of_isAscii htext, decide_eq_true_eq]
  by_cases hnumeral : IsNumeral (indexText segment)
  · rw [if_pos hnumeral, if_pos hnumeral, Text.numeralValue?_of_isDigit hnumeral.isDigit]
    simp only [if_neg (show ¬ Decimal.maxDigits < (indexText segment).length by omega)]
  · rw [if_neg hnumeral, if_neg hnumeral]

/-- One step along such a segment is never a fault. -/
theorem exists_step_of_isAscii (h : ∀ c ∈ segment, c.toNat < 0x80)
    (hlength : segment.length ≤ Decimal.maxDigits) (v : Json) :
    ∃ found, step segment v = .ok found := by
  cases v with
  | obj members => exact ⟨_, rfl⟩
  | arr items => exact ⟨_, element?_of_isAscii h hlength items⟩
  | null | bool | int | real | str => exact ⟨_, rfl⟩

theorem findsItem_getElem? (segment : List Char) (items : List Json) :
    FindsItem segment items (if IsNumeral (indexText segment)
      then items[Decimal.value (indexText segment)]? else none) where
  isSome_iff := by
    split
    · next h => simp [h]
    · next h => simp [h]
  item hnumeral hlt := by rw [if_pos hnumeral, List.getElem?_eq_getElem hlt]

/-! ## One step -/

/-- **What one segment finds.** In an object it finds the value of a name that is the segment up to
hyphens: of the segment itself before all others, then of the segment without its first hyphen, then
of the first such name; and a segment with one hyphen at most finds one whenever there is one. In an
array a segment of letters, digits, underscores and hyphens finds the item whose index it writes,
its first hyphen left out unless all are digits, and it never counts from the end. -/
theorem step_finds (segment : List Char) :
    (∀ members, ∃ found, step segment (.obj members) = .ok found ∧
      FindsMember segment members found) ∧
    ((∀ c ∈ segment, isSegmentChar c) → segment.length < Decimal.maxDigits →
      ∀ items, ∃ found, step segment (.arr items) = .ok found ∧
        FindsItem segment items found) := by
  refine ⟨fun members => ⟨_, rfl, findsMember_member? segment members⟩, ?_⟩
  intro hchars hlength items
  have hascii : ∀ c ∈ segment, c.toNat < 0x80 := fun c hc => isAscii_of_isSegmentChar (hchars c hc)
  exact ⟨_, element?_of_isAscii hascii (Nat.le_of_lt hlength) items, findsItem_getElem? segment items⟩

/-- Members whose names differ by hyphens alone. -/
def hyphenated : List (String × Json) := [("us-erid", .int 1), ("userid-", .int 2)]

/-- The first of two names that are like the segment; and no index from the end. -/
theorem step_finds_hyphenated :
    step "user-id".toList (.obj hyphenated) = .ok (some (.int 1)) ∧
      FindsMember "user-id".toList hyphenated (some (.int 1)) ∧
      (∀ c ∈ "-1".toList, isSegmentChar c) ∧ "-1".toList.length < Decimal.maxDigits ∧
      step "-1".toList (.arr [.int 5, .int 6, .int 7]) = .ok (some (.int 6)) ∧
      FindsItem "-1".toList [.int 5, .int 6, .int 7] (some (.int 6)) := by
  have hobject : step "user-id".toList (.obj hyphenated) = .ok (some (.int 1)) := rfl
  have harray : step "-1".toList (.arr [.int 5, .int 6, .int 7]) = .ok (some (.int 6)) := rfl
  have hchars : ∀ c ∈ "-1".toList, isSegmentChar c := List.all_eq_true.1 rfl
  have hlength : "-1".toList.length < Decimal.maxDigits := by decide
  obtain ⟨found, hfound, hmember⟩ := (step_finds "user-id".toList).1 hyphenated
  obtain rfl : found = some (.int 1) := Except.ok.inj (hfound.symm.trans hobject)
  obtain ⟨found, hfound, hitem⟩ :=
    (step_finds "-1".toList).2 hchars hlength [.int 5, .int 6, .int 7]
  obtain rfl : found = some (.int 6) := Except.ok.inj (hfound.symm.trans harray)
  exact ⟨hobject, hmember, hchars, hlength, harray, hitem⟩

end CommandBook.Response
