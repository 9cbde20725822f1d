import CommandBook.Proofs.Response.Walk

/-!
# Paths without a value

A path that leads nowhere has the value null; but there are paths that have no value at all. The
text of an index is recognised by characters that look like digits, of which not all are decimal
digits, and the number it writes is read with a limit on its length. A segment that is recognised
and not read is a fault where it meets an array. Objects and values without parts never ask for an
index, so these are the only faults.

## Main definitions

* `Unreadable` — segments that are recognised as an index and cannot be read as one

## Main statements

* `index?_eq_error_iff` — the segments that are faults in an array
* `walk_eq_error_iff` — the walks that end in a fault
* `exists_valueAt_iff` — the paths that have a value
-/

namespace CommandBook.Response

open Text (decimalValue? numeralValue?)

variable {segment : List Char} {f : Fault}

/-- The part of a segment that is looked at as an index: all of it if it looks like digits, and else
what is left without the first hyphen. -/
def digitsOf (segment : List Char) : List Char :=
  if isIndex segment then segment else withoutFirstHyphen segment

/-- A segment that looks like an index and has no number: a character in it is no decimal digit, or
there are more digits than a number may have. -/
inductive Unreadable (segment : List Char) : Fault → Prop
  | lookalike : isIndex (digitsOf segment) → (∃ c ∈ digitsOf segment, decimalValue? c = none) →
      Unreadable segment .notADecimalDigit
  | long : isIndex (digitsOf segment) → (∀ c ∈ digitsOf segment, decimalValue? c ≠ none) →
      Decimal.maxDigits < (digitsOf segment).length → Unreadable segment .numeralTooLong

/-! ## One segment -/

/-- A row of characters writes no number exactly if one of them is no decimal digit. -/
theorem numeralValue?_eq_none_iff (cs : List Char) :
    numeralValue? cs = none ↔ ∃ c ∈ cs, decimalValue? c = none := by
  -- the fold keeps the number read so far, so the statement is about any such number
  have hnone : ∀ cs : List Char, cs.foldl
      (fun acc c => acc.bind fun n => (decimalValue? c).map (n * 10 + ·)) none = none := fun cs => by
    induction cs with
    | nil => rfl
    | cons c cs ih => exact ih
  have hfold : ∀ n : Nat, cs.foldl
      (fun acc c => acc.bind fun n => (decimalValue? c).map (n * 10 + ·)) (some n) = none ↔
        ∃ c ∈ cs, decimalValue? c = none := by
    induction cs with
    | nil => simp
    | cons c cs ih =>
      intro n
      rw [List.foldl_cons, Option.bind_some]
      cases hc : decimalValue? c with
      | none => simp [hnone, hc]
      | some d =>
        rw [Option.map_some, ih]
        simp [hc]
  exact hfold 0

theorem index?_eq (segment : List Char) : index? segment =
    if isIndex (digitsOf segment) then
      (numeralValue? (digitsOf segment)).elim (some (.error .notADecimalDigit)) fun n =>
        if Decimal.maxDigits < (digitsOf segment).length then some (.error .numeralTooLong)
        else some (.ok n)
    else none := by
  rw [index?, ← digitsOf]
  cases numeralValue? (digitsOf segment) <;> rfl

/-- **The segments that are faults in an array.** -/
theorem index?_eq_error_iff : index? segment = some (.error f) ↔ Unreadable segment f := by
  by_cases hdigits : isIndex (digitsOf segment)
  · rw [index?_eq, if_pos hdigits]
    by_cases hlook : ∃ c ∈ digitsOf segment, decimalValue? c = none
    · rw [(numeralValue?_eq_none_iff _).2 hlook]
      constructor
      · rintro ⟨⟩
        exact .lookalike hdigits hlook
      · intro h
        cases h with
        | lookalike => rfl
        | long _ hvalue _ =>
          obtain ⟨c, hc, hnone⟩ := hlook
          exact absurd hnone (hvalue c hc)
    · obtain ⟨n, hn⟩ := Option.ne_none_iff_exists'.1 (mt (numeralValue?_eq_none_iff _).1 hlook)
      rw [hn, Option.elim_some]
      by_cases hlong : Decimal.maxDigits < (digitsOf segment).length
      · rw [if_pos hlong]
        constructor
        · rintro ⟨⟩
          exact .long hdigits (fun c hc hnone => hlook ⟨c, hc, hnone⟩) hlong
        · intro h
          cases h with
          | lookalike _ h => exact absurd h hlook
          | long => rfl
      · rw [if_neg hlong]
        constructor
        · rintro ⟨⟩
        · intro h
          cases h with
          | lookalike _ h => exact absurd h hlook
          | long _ _ h => exact absurd h hlong
  · rw [index?_eq, if_neg hdigits]
    constructor
    · rintro ⟨⟩
    · intro h
      cases h with
      | lookalike h => exact absurd h hdigits
      | long h => exact absurd h hdigits

/-- A step is a fault where such a segment meets an array, and nowhere else. -/
theorem step_eq_error_iff {v : Json} :
    step segment v = .error f ↔ ∃ items, v = .arr items ∧ Unreadable segment f := by
  cases v with
  | arr items =>
    rw [← index?_eq_error_iff]
    change element? segment items = .error f ↔ _
    unfold element?
    cases index? segment with
    | none => simp
    | some read => cases read <;> simp
  | obj | null | bool | int | real | str => simp [step]

/-! ## A whole path -/

/-- **The walks that end in a fault**: an unreadable segment meets an array on the way. -/
theorem walk_eq_error_iff {ss : List (List Char)} {v : Json} :
    walk ss v = .error f ↔ ∃ before segment after items, ss = before ++ segment :: after ∧
      walk before v = .ok (some (.arr items)) ∧ Unreadable segment f := by
  induction ss generalizing v with
  | nil => simp [walk]
  | cons s ss ih =>
    -- the segment that is the fault is the first one, or it is met from where the first one leads
    have hsplit : (∃ before segment after items, s :: ss = before ++ segment :: after ∧
          walk before v = .ok (some (.arr items)) ∧ Unreadable segment f) ↔
        step s v = .error f ∨ ∃ w, step s v = .ok (some w) ∧ walk ss w = .error f := by
      rw [step_eq_error_iff]
      constructor
      · rintro ⟨before, segment, after, items, hss, hwalk, hbad⟩
        cases before with
        | nil =>
          obtain ⟨rfl, -⟩ := List.cons.inj hss
          exact Or.inl ⟨items, Option.some.inj (Except.ok.inj hwalk), hbad⟩
        | cons first before =>
          obtain ⟨rfl, rfl⟩ := List.cons.inj hss
          rw [walk] at hwalk
          split at hwalk
          · cases hwalk
          · cases hwalk
          · next w hw => exact Or.inr ⟨w, hw, ih.2 ⟨before, segment, after, items, rfl, hwalk, hbad⟩⟩
      · rintro (⟨items, rfl, hbad⟩ | ⟨w, hw, hfault⟩)
        · exact ⟨[], s, ss, items, rfl, rfl, hbad⟩
        · obtain ⟨before, segment, after, items, rfl, hwalk, hbad⟩ := ih.1 hfault
          refine ⟨s :: before, segment, after, items, rfl, ?_, hbad⟩
          rw [walk, hw]
          exact hwalk
    rw [hsplit, walk]
    cases hstep : step s v with
    | error e => simp
    | ok found => cases found <;> simp

/-- **The paths that have a value.** Every path has one, null included, unless a segment on it looks
like an index, cannot be read as one, and comes where the segments before it have led to an array:
then the fault is that of the segment. -/
theorem exists_valueAt_iff (root : Json) (path : List Char) :
    ((∃ v, valueAt root path = .ok v) ↔ ∀ before segment after items,
      segments path = before ++ segment :: after →
        walk before root = .ok (some (.arr items)) → ∀ f, ¬ Unreadable segment f) ∧
    ∀ f, valueAt root path = .error f ↔ ∃ before segment after items,
      segments path = before ++ segment :: after ∧
        walk before root = .ok (some (.arr items)) ∧ Unreadable segment f := by
  have herror : ∀ f, valueAt root path = .error f ↔ walk (segments path) root = .error f := by
    intro f
    unfold valueAt
    cases walk (segments path) root <;> simp [Except.map]
  refine ⟨?_, fun f => (herror f).trans walk_eq_error_iff⟩
  constructor
  · rintro ⟨v, hv⟩ before segment after items hpath hwalk f hbad
    have hfault := (herror f).2
      (walk_eq_error_iff.2 ⟨before, segment, after, items, hpath, hwalk, hbad⟩)
    rw [hv] at hfault
    cases hfault
  · intro h
    cases hvalue : valueAt root path with
    | ok v => exact ⟨v, rfl⟩
    | error f =>
      obtain ⟨before, segment, after, items, hpath, hwalk, hbad⟩ :=
        walk_eq_error_iff.1 ((herror f).1 hvalue)
      exact absurd hbad (h before segment after items hpath hwalk f)

/-- In an array a digit can be read, and a superscript cannot. -/
theorem exists_valueAt_iff_item :
    (∀ f, ¬ Unreadable ['0'] f) ∧ valueAt (.arr [.int 1]) ['²'] = .error .notADecimalDigit := by
  constructor
  · have hread := (exists_valueAt_iff (.arr [.int 1]) ['0']).1.1 ⟨.int 1, rfl⟩
    exact hread [] ['0'] [] [.int 1] rfl rfl
  · have hbad : Unreadable ['²'] .notADecimalDigit :=
      .lookalike rfl ⟨'²', List.mem_singleton_self _, rfl⟩
    exact ((exists_valueAt_iff (.arr [.int 1]) ['²']).2 .notADecimalDigit).2
      ⟨[], ['²'], [], [.int 1], rfl, rfl, hbad⟩

/-- A superscript is recognised as a digit and has no value as one. -/
theorem valueAt_superscript :
    ¬ ∀ (root : Json) (path : List Char), ∃ v, valueAt root path = .ok v := by
  intro htotal
  have hfault : valueAt (.arr [.int 1]) ['²'] = .error .notADecimalDigit := rfl
  obtain ⟨v, hv⟩ := htotal (.arr [.int 1]) ['²']
  rw [hfault] at hv
  cases hv

end CommandBook.Response
