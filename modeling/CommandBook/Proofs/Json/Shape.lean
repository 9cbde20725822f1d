import CommandBook.Proofs.Json.Straying

/-!
# The shape of what is read

What a value is but for its texts: the names of its objects, the lengths of its arrays, its numbers,
truth values and nulls. Layouts that write the texts of a value as guarded strings, whatever is in
them, and its names as they are, cannot give it another shape: what the reader makes of such a text
has a shape that is known from the value alone, or there is nothing that it makes of it.

## Main statements

* `exists_shape_write` — the reader over the text of a value, wherever a value may stand
* `exists_shape_readChars` — the text of a value on its own
-/

namespace CommandBook.Json

open Decimal

/-! ## Shapes -/

mutual
/-- A value with its texts left out. -/
def shape : Json → Json
  | .null => .null
  | .bool b => .bool b
  | .int n => .int n
  | .real x => .real x
  | .str _ => .str ""
  | .arr items => .arr (shapeItems items)
  | .obj members => .obj (shapeMembers members)

def shapeItems : List Json → List Json
  | [] => []
  | v :: rest => shape v :: shapeItems rest

def shapeMembers : List (String × Json) → List (String × Json)
  | [] => []
  | (k, v) :: rest => (k, shape v) :: shapeMembers rest
end

theorem shapeItems_append : ∀ items others : List Json,
    shapeItems (items ++ others) = shapeItems items ++ shapeItems others
  | [], _ => rfl
  | v :: rest, others => by
    rw [List.cons_append, shapeItems, shapeItems, shapeItems_append rest others, List.cons_append]

/-- Members are written with their shapes. -/
theorem shapeMembers_insertEntry (k : String) (v : Json) (members : List (String × Json)) :
    shapeMembers (insertEntry k v members) = insertEntry k v.shape (shapeMembers members) := by
  induction members with
  | nil => rfl
  | cons member rest ih =>
    obtain ⟨k', v'⟩ := member
    rw [insertEntry, shapeMembers, insertEntry]
    split
    · rw [shapeMembers]
    · rw [shapeMembers, ih]

mutual
/-- Each text of a value has the property `P`, each name `Q`. -/
def Each (P Q : String → Prop) : Json → Prop
  | .null | .bool _ | .int _ | .real _ => True
  | .str s => P s
  | .arr items => EachItem P Q items
  | .obj members => EachMember P Q members

def EachItem (P Q : String → Prop) : List Json → Prop
  | [] => True
  | v :: rest => Each P Q v ∧ EachItem P Q rest

def EachMember (P Q : String → Prop) : List (String × Json) → Prop
  | [] => True
  | (k, v) :: rest => Q k ∧ Each P Q v ∧ EachMember P Q rest
end

/-! ## Layouts with guarded strings -/

/-- A layout writes the texts with the property `P` as guarded strings and the names with the
property `Q` as they are, and leaves only gaps between tokens. -/
structure Layout.Guards (L : Layout) (P Q : String → Prop) : Prop where
  text : ∀ s, P s → Guarded (L.text s)
  name : ∀ k, Q k → Guarded (L.text k) ∧ ReadsAs (L.text k) k.toList
  first : ∀ level, ∀ c ∈ L.first level, isGap c
  later : ∀ level, ∀ c ∈ L.later level, isGap c
  last : ∀ level, ∀ c ∈ L.last level, isGap c

theorem woven_gap {gap : List Char} (h : ∀ c ∈ gap, isGap c) : Woven gap :=
  woven_of_forall fun c hc => by
    rcases eq_of_isGap (h c hc) with rfl | rfl | rfl | rfl <;> exact ⟨by decide, by decide⟩

theorem woven_quote {L : Layout} {k : String} (h : Guarded (L.text k)) : Woven (L.quote k) :=
  .string h .nil

theorem RealText.woven {cs : List Char} (h : RealText cs) : Woven cs := by
  cases h with
  | number h => exact h.woven
  | nan | infinity | negInfinity => exact woven_token _ rfl

section Guards
variable {L : Layout} {P Q : String → Prop} (hL : L.Guards P Q)
include hL

mutual
theorem woven_write : ∀ (v : Json) (level : Nat), v.Each P Q → Woven (L.write level v)
  | .null, _, _ => woven_token ['n', 'u', 'l', 'l'] rfl
  | .bool true, _, _ => woven_token ['t', 'r', 'u', 'e'] rfl
  | .bool false, _, _ => woven_token ['f', 'a', 'l', 's', 'e'] rfl
  | .int n, _, _ => (isNumberText_integer n).woven
  | .real x, _, _ => (realText_text x).woven
  | .str s, _, h => woven_quote (hL.text s h)
  | .arr [], _, _ => woven_token ['[', ']'] rfl
  | .arr (v :: rest), level, h => by
    have hopen := (woven_token ['['] rfl).append (woven_gap (hL.first (level + 1)))
    have hitems := (hopen.append (woven_write v (level + 1) h.1)).append
      (woven_writeItems rest (level + 1) h.2)
    exact (hitems.append (woven_gap (hL.last level))).append (woven_token [']'] rfl)
  | .obj [], _, _ => woven_token ['\x7b', '\x7d'] rfl
  | .obj ((k, v) :: rest), level, h => by
    have hopen := (woven_token ['\x7b'] rfl).append (woven_gap (hL.first (level + 1)))
    have hname := (hopen.append (woven_quote (hL.name k h.1).1)).append
      (woven_token [':', ' '] rfl)
    have hmembers := (hname.append (woven_write v (level + 1) h.2.1)).append
      (woven_writeMembers rest (level + 1) h.2.2)
    have hwhole := (hmembers.append (woven_gap (hL.last level))).append (woven_token ['\x7d'] rfl)
    simpa [Layout.write] using hwhole

theorem woven_writeItems : ∀ (items : List Json) (level : Nat), EachItem P Q items →
    Woven (L.writeItems level items)
  | [], _, _ => .nil
  | v :: rest, level, h => by
    have hcomma := (woven_token [','] rfl).append (woven_gap (hL.later level))
    exact (hcomma.append (woven_write v level h.1)).append (woven_writeItems rest level h.2)

theorem woven_writeMembers : ∀ (members : List (String × Json)) (level : Nat),
    EachMember P Q members → Woven (L.writeMembers level members)
  | [], _, _ => .nil
  | (k, v) :: rest, level, h => by
    have hcomma := (woven_token [','] rfl).append (woven_gap (hL.later level))
    have hname := (hcomma.append (woven_quote (hL.name k h.1).1)).append
      (woven_token [':', ' '] rfl)
    have hmembers := (hname.append (woven_write v level h.2.1)).append
      (woven_writeMembers rest level h.2.2)
    simpa [Layout.writeMembers] using hmembers
end

/-! ## What may stand behind a value -/

theorem trailing_close (level : Nat) {close : Char} (h : close = ']' ∨ close = '\x7d') :
    Trailing (L.last level ++ [close]) where
  woven := (woven_gap (hL.last level)).append
    (.char (by rcases h with rfl | rfl <;> decide) (by rcases h with rfl | rfl <;> decide) .nil)
  endsNumber c hc := by
    cases hgap : L.last level with
    | nil =>
      rw [hgap] at hc
      cases hc
      rcases h with rfl | rfl <;> exact ⟨rfl, by decide⟩
    | cons d gap =>
      rw [hgap] at hc
      cases hc
      rcases eq_of_isGap (hL.last level c (by rw [hgap]; simp)) with rfl | rfl | rfl | rfl <;>
        exact ⟨rfl, by decide⟩

theorem trailing_writeItems (level : Nat) {items : List Json} (h : EachItem P Q items) :
    Trailing (L.writeItems level items) where
  woven := woven_writeItems hL items level h
  endsNumber c hc := by
    cases items with
    | nil => cases hc
    | cons v rest => cases hc; exact ⟨rfl, by decide⟩

theorem trailing_writeMembers (level : Nat) {members : List (String × Json)}
    (h : EachMember P Q members) : Trailing (L.writeMembers level members) where
  woven := woven_writeMembers hL members level h
  endsNumber c hc := by
    cases members with
    | nil => cases hc
    | cons m rest => cases hc; exact ⟨rfl, by decide⟩

/-! ## Values -/

/-- A name and the colon behind it. -/
theorem run_guarded_name {s : State} {stack : List Frame} {done : List (String × Json)}
    {closable : Bool} (h : At s stack (.name done closable)) {k : String} (hk : Q k) :
    At ((s.run (L.quote k)).run [':', ' ']) (.member done k :: stack) (.value false) := by
  have hname := h.run_name (hL.name k hk).2
  rw [String.ofList_toList] at hname
  rw [← State.run_append, Layout.quote]
  simpa using hname

end Guards

/-- Wherever a value may stand, the reader takes `cs` for a value of the shape `o`, or is lost. -/
def ReadsShaped (cs : List Char) (o : Json) : Prop :=
  ∀ ⦃s : State⦄ ⦃stack : List Frame⦄ ⦃closable : Bool⦄, At s stack (.value closable) →
    Lost (s.run cs) ∨ ∃ w, Holds (s.run cs) stack w ∧ w.shape = o

theorem readsShaped_quote {L : Layout} {k : String} (h : Guarded (L.text k)) :
    ReadsShaped (L.quote k) (.str "") := fun _ _ _ hs => by
  rcases hs.run_guarded h with hstrays | ⟨text, hholds⟩
  · exact Or.inl (Or.inl hstrays)
  · exact Or.inr ⟨_, hholds, rfl⟩

theorem exists_readsShaped_number {cs : List Char} (h : IsNumberText cs) :
    ∃ o, ReadsShaped cs o := by
  by_cases hread : ∃ v, numberAt? cs = some (.ok v, cs.length)
  · obtain ⟨v, hv⟩ := hread
    refine ⟨v.shape, fun _ _ _ hs => (hs.run_numberText h).imp_right ?_⟩
    rintro ⟨w, hw, hholds⟩
    rw [hv] at hw
    cases hw
    exact ⟨v, hholds, rfl⟩
  · refine ⟨.null, fun _ _ _ hs => (hs.run_numberText h).imp_right ?_⟩
    rintro ⟨w, hw, -⟩
    exact absurd ⟨w, hw⟩ hread

theorem RealText.exists_readsShaped {cs : List Char} (h : RealText cs) : ∃ o, ReadsShaped cs o := by
  cases h with
  | number h => exact exists_readsShaped_number h
  | nan => exact ⟨_, fun _ _ _ hs =>
      Or.inr ⟨_, hs.run_word_of_take (List.cons_ne_nil _ _) rfl, rfl⟩⟩
  | infinity => exact ⟨_, fun _ _ _ hs =>
      Or.inr ⟨_, hs.run_word_of_take (List.cons_ne_nil _ _) rfl, rfl⟩⟩
  | negInfinity => exact ⟨_, fun _ _ _ hs => Or.inr ⟨_, hs.run_negInfinity, rfl⟩⟩

section Shapes
variable {Q : String → Prop}

mutual
/-- **The shape of what is read** does not depend on the layout. -/
theorem exists_shape_write : ∀ v : Json, ∃ o, ∀ ⦃L : Layout⦄ ⦃P : String → Prop⦄, L.Guards P Q →
    v.Each P Q → ∀ level, ReadsShaped (L.write level v) o
  | .null => ⟨_, fun _ _ _ _ _ _ _ _ hs =>
      Or.inr ⟨_, hs.run_word_of_take (List.cons_ne_nil _ _) rfl, rfl⟩⟩
  | .bool true => ⟨_, fun _ _ _ _ _ _ _ _ hs =>
      Or.inr ⟨_, hs.run_word_of_take (List.cons_ne_nil _ _) rfl, rfl⟩⟩
  | .bool false => ⟨_, fun _ _ _ _ _ _ _ _ hs =>
      Or.inr ⟨_, hs.run_word_of_take (List.cons_ne_nil _ _) rfl, rfl⟩⟩
  | .int n => by
    obtain ⟨o, ho⟩ := exists_readsShaped_number (isNumberText_integer n)
    exact ⟨o, fun _ _ _ _ _ => ho⟩
  | .real x => by
    obtain ⟨o, ho⟩ := (realText_text x).exists_readsShaped
    exact ⟨o, fun _ _ _ _ _ => ho⟩
  | .str k => ⟨_, fun _ _ hL hk _ => readsShaped_quote (hL.text k hk)⟩
  | .arr [] => ⟨_, fun _ _ _ _ _ _ _ _ hs =>
      Or.inr ⟨_, hs.step_openItems.step_closeNoItems, rfl⟩⟩
  | .arr (v :: rest) => by
    obtain ⟨o, ho⟩ := exists_shape_write v
    obtain ⟨os, hos⟩ := exists_shape_writeItems rest
    refine ⟨.arr (o :: os), fun L P hL hv level s stack closable h => ?_⟩
    have hopen := h.step_openItems.run_gap_value (hL.first (level + 1))
    have hitems := trailing_writeItems hL (level + 1) hv.2
    have hclose := trailing_close hL level (Or.inl rfl)
    have hwhole : s.run (L.write level (.arr (v :: rest))) =
        ((((s.step '[').run (L.first (level + 1))).run (L.write (level + 1) v)).run
          (L.writeItems (level + 1) rest)).run (L.last level ++ [']']) := by
      simp [Layout.write, State.run_append, run_cons]
    rw [hwhole]
    -- a reader that is lost in the first item finds nothing in the others to mend that
    rcases ho hL hv.1 (level + 1) hopen with hlost | ⟨w, hw, rfl⟩
    · exact Or.inl ((hlost.run hitems).run hclose)
    rcases hos hL hv.2 (level + 1) hw with hlost | ⟨w', done', hw', hdone⟩
    · exact Or.inl (hlost.run hclose)
    · rw [State.run_append]
      refine Or.inr ⟨_, (hw'.run_gap (hL.last level)).step_close_items, ?_⟩
      rw [shape, hdone]
      rfl
  | .obj [] => ⟨_, fun _ _ _ _ _ _ _ _ hs =>
      Or.inr ⟨_, hs.step_openMembers.step_closeNoMembers, rfl⟩⟩
  | .obj ((k, v) :: rest) => by
    obtain ⟨o, ho⟩ := exists_shape_write v
    obtain ⟨os, hos⟩ := exists_shape_writeMembers rest
    refine ⟨.obj (insertEntries [(k, o)] os), fun L P hL hv level s stack closable h => ?_⟩
    have hname := run_guarded_name hL (h.step_openMembers.run_gap_name (hL.first (level + 1))) hv.1
    have hmembers := trailing_writeMembers hL (level + 1) hv.2.2
    have hclose := trailing_close hL level (Or.inr rfl)
    have hwhole : s.run (L.write level (.obj ((k, v) :: rest))) =
        ((((((s.step '\x7b').run (L.first (level + 1))).run (L.quote k)).run [':', ' ']).run
          (L.write (level + 1) v)).run (L.writeMembers (level + 1) rest)).run
            (L.last level ++ ['\x7d']) := by
      simp [Layout.write, State.run_append, run_cons]
    rw [hwhole]
    rcases ho hL hv.2.1 (level + 1) hname with hlost | ⟨w, hw, rfl⟩
    · exact Or.inl ((hlost.run hmembers).run hclose)
    rcases hos hL hv.2.2 (level + 1) hw with hlost | ⟨w', done', name', hw', hdone⟩
    · exact Or.inl (hlost.run hclose)
    · rw [State.run_append]
      refine Or.inr ⟨_, (hw'.run_gap (hL.last level)).step_close_member, ?_⟩
      rw [shape, hdone]
      rfl

theorem exists_shape_writeItems : ∀ items : List Json, ∃ os, ∀ ⦃L : Layout⦄ ⦃P : String → Prop⦄,
    L.Guards P Q → EachItem P Q items → ∀ (level : Nat) ⦃s : State⦄ ⦃stack : List Frame⦄
      ⦃done : List Json⦄ ⦃w : Json⦄, Holds s (.items done :: stack) w →
        Lost (s.run (L.writeItems level items)) ∨
          ∃ w' done', Holds (s.run (L.writeItems level items)) (.items done' :: stack) w' ∧
            shapeItems (w' :: done').reverse = shapeItems (w :: done).reverse ++ os
  | [] => ⟨[], fun _ _ _ _ _ _ _ done w h => Or.inr ⟨w, done, h, (List.append_nil _).symm⟩⟩
  | v :: rest => by
    obtain ⟨o, ho⟩ := exists_shape_write v
    obtain ⟨os, hos⟩ := exists_shape_writeItems rest
    refine ⟨o :: os, fun L P hL hv level s stack done w h => ?_⟩
    have hcomma := h.step_comma_items.run_gap_value (hL.later level)
    rw [Layout.writeItems, State.run_append, State.run_append]
    rcases ho hL hv.1 level hcomma with hlost | ⟨w₁, hw₁, rfl⟩
    · exact Or.inl (hlost.run (trailing_writeItems hL level hv.2))
    rcases hos hL hv.2 level hw₁ with hlost | ⟨w', done', hw', hdone⟩
    · exact Or.inl hlost
    · refine Or.inr ⟨w', done', hw', ?_⟩
      rw [hdone, List.reverse_cons, shapeItems_append, List.append_assoc]
      rfl

theorem exists_shape_writeMembers : ∀ members : List (String × Json), ∃ os,
    ∀ ⦃L : Layout⦄ ⦃P : String → Prop⦄, L.Guards P Q → EachMember P Q members →
      ∀ (level : Nat) ⦃s : State⦄ ⦃stack : List Frame⦄ ⦃done : List (String × Json)⦄
        ⦃name : String⦄ ⦃w : Json⦄, Holds s (.member done name :: stack) w →
          Lost (s.run (L.writeMembers level members)) ∨
            ∃ w' done' name', Holds (s.run (L.writeMembers level members))
                (.member done' name' :: stack) w' ∧
              shapeMembers (insertEntry name' w' done') =
                insertEntries (shapeMembers (insertEntry name w done)) os
  | [] => ⟨[], fun _ _ _ _ _ _ _ done name w h => Or.inr ⟨w, done, name, h, rfl⟩⟩
  | (k, v) :: rest => by
    obtain ⟨o, ho⟩ := exists_shape_write v
    obtain ⟨os, hos⟩ := exists_shape_writeMembers rest
    refine ⟨(k, o) :: os, fun L P hL hv level s stack done name w h => ?_⟩
    have hname := run_guarded_name hL (h.step_comma_member.run_gap_name (hL.later level)) hv.1
    have hwhole : s.run (L.writeMembers level ((k, v) :: rest)) =
        (((((s.step ',').run (L.later level)).run (L.quote k)).run [':', ' ']).run
          (L.write level v)).run (L.writeMembers level rest) := by
      simp [Layout.writeMembers, State.run_append, run_cons]
    rw [hwhole]
    rcases ho hL hv.2.1 level hname with hlost | ⟨w₁, hw₁, rfl⟩
    · exact Or.inl (hlost.run (trailing_writeMembers hL level hv.2.2))
    rcases hos hL hv.2.2 level hw₁ with hlost | ⟨w', done', name', hw', hdone⟩
    · exact Or.inl hlost
    · refine Or.inr ⟨w', done', name', hw', ?_⟩
      rw [hdone, shapeMembers_insertEntry]
      rfl
end

/-- **The shape of what is read** from the text of a value on its own. -/
theorem exists_shape_readChars (v : Json) : ∃ o, ∀ ⦃L : Layout⦄ ⦃P : String → Prop⦄,
    L.Guards P Q → v.Each P Q → ∀ w, readChars (L.write 0 v) = .ok w → w.shape = o := by
  obtain ⟨o, ho⟩ := exists_shape_write (Q := Q) v
  refine ⟨o, fun L P hL hv w hread => ?_⟩
  have hstart : At State.initial [] (.value false) := ⟨rfl, rfl⟩
  rw [readChars] at hread
  split at hread
  · cases hread
  rcases ho hL hv 0 hstart with hlost | ⟨w', hw', hshape⟩
  · obtain ⟨e, he⟩ := hlost.finish_eq
    rw [hread] at he
    cases he
  · rw [hw'.finish_eq] at hread
    cases hread
    exact hshape

end Shapes

end CommandBook.Json
