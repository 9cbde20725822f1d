import CommandBook.Proofs.Response.Lookup
import CommandBook.Proofs.Response.Reference
import CommandBook.Proofs.Response.Walk

/-!
# Filling templates from a response

Filling a template puts a text in the place of each reference and keeps the literals. Only a segment
that is too long can be a fault there, for path characters are ASCII. The two ways of filling differ
in nothing but the texts of null and of long texts.

## Main statements

* `exists_valueAt_of_isPath` — the paths of references are no faults
* `fillRefs_template` — a template in parts is filled part by part
* `capture_reference` — what a lone reference captures
* `capture_display_parts` — what a template in parts captures and shows
-/

namespace CommandBook.Response

open Template

variable {path : List Char}

/-! ## The values of references -/

theorem isAscii_of_isPathChar {c : Char} (h : isPathChar c) : c.toNat < 0x80 := by
  by_cases hdot : c = '.'
  · subst hdot
    decide
  · refine isAscii_of_isSegmentChar ?_
    simpa [isPathChar, isSegmentChar, hdot] using h

theorem exists_walk_of_isAscii {ss : List (List Char)}
    (h : ∀ s ∈ ss, (∀ c ∈ s, c.toNat < 0x80) ∧ s.length ≤ Decimal.maxDigits) (v : Json) :
    ∃ found, walk ss v = .ok found := by
  induction ss generalizing v with
  | nil => exact ⟨_, rfl⟩
  | cons s ss ih =>
    obtain ⟨hascii, hlength⟩ := h s List.mem_cons_self
    obtain ⟨found, hfound⟩ := exists_step_of_isAscii hascii hlength v
    rw [walk, hfound]
    cases found with
    | none => exact ⟨_, rfl⟩
    | some w => exact ih (fun s hs => h s (List.mem_cons_of_mem _ hs)) w

/-- **A path that a reference can name** is never a fault, unless a segment of it is too long. -/
theorem exists_valueAt_of_isPath (hpath : IsPath path)
    (hshort : ∀ s ∈ segments path, s.length ≤ Decimal.maxDigits) (body : Json) :
    ∃ v, valueAt body path = .ok v := by
  have hsegments : ∀ s ∈ segments path,
      (∀ c ∈ s, c.toNat < 0x80) ∧ s.length ≤ Decimal.maxDigits := fun s hs =>
    ⟨fun c hc => isAscii_of_isPathChar (hpath.isPathChar c (mem_of_mem_segments hs hc)),
      hshort s hs⟩
  obtain ⟨found, hfound⟩ := exists_walk_of_isAscii hsegments body
  exact ⟨_, by rw [valueAt, hfound]; rfl⟩

/-- The text that a value is captured as. -/
inductive CapturedAs : Json → List Char → Prop
  | text (s : String) : CapturedAs (.str s) s.toList
  | null : CapturedAs .null []
  | other {v : Json} (htext : ∀ s, v ≠ .str s) (hnull : v ≠ .null) : CapturedAs v v.renderChars

/-- The text that a value is shown as: fifty characters of a text at most, and three dots where
there are more. -/
inductive ShownAs : Json → List Char → Prop
  | whole {s : String} (h : s.length ≤ 50) : ShownAs (.str s) s.toList
  | cut {s : String} {front back : List Char} (hs : s.toList = front ++ back)
      (hfront : front.length = 50) (hback : back ≠ []) : ShownAs (.str s) (front ++ ['.', '.', '.'])
  | null : ShownAs .null ['u', 'n', 'd', 'e', 'f', 'i', 'n', 'e', 'd']
  | other {v : Json} (htext : ∀ s, v ≠ .str s) (hnull : v ≠ .null) : ShownAs v v.renderChars

/-- A value that is neither null nor a long text is shown as it is. -/
theorem shown_of_length_le {v : Json} (hnull : v ≠ .null)
    (hshort : ∀ s, v = .str s → s.length ≤ maxShown) : shown v = v := by
  cases v with
  | str s => exact if_neg (Nat.not_lt.2 (hshort s rfl))
  | null => exact absurd rfl hnull
  | bool | int | real | arr | obj => rfl

/-- A long text is cut. -/
theorem textOf_shown_of_lt {s : String} (h : maxShown < s.length) :
    textOf (shown (.str s)) = s.toList.take maxShown ++ ['.', '.', '.'] := by
  rw [shown, if_pos h, textOf, String.toList_append, String.toList_ofList]
  rfl

theorem capturedAs_iff {v : Json} {text : List Char} : CapturedAs v text ↔ text = textOf v := by
  constructor
  · intro h
    cases h with
    | text s => rfl
    | null => rfl
    | other htext hnull =>
      cases v with
      | str s => exact absurd rfl (htext s)
      | null => exact absurd rfl hnull
      | bool | int | real | arr | obj => rfl
  · rintro rfl
    cases v with
    | str s => exact .text s
    | null => exact .null
    | bool | int | real | arr | obj => exact .other (by simp) (by simp)

theorem shownAs_iff {v : Json} {text : List Char} : ShownAs v text ↔ text = textOf (shown v) := by
  constructor
  · intro h
    cases h with
    | @whole s h => rw [shown_of_length_le (by simp) (by rintro _ ⟨⟩; exact h)]; rfl
    | @cut s front back hs hfront hback =>
      have hlong : maxShown < s.length := by
        have hpos := List.length_pos_iff.2 hback
        rw [← String.length_toList, hs, List.length_append, hfront, maxShown]
        omega
      rw [textOf_shown_of_lt hlong, hs, maxShown, List.take_left' hfront]
    | null => rfl
    | other htext hnull =>
      rw [shown_of_length_le hnull fun s hs => absurd hs (htext s)]
      exact capturedAs_iff.1 (.other htext hnull)
  · rintro rfl
    cases v with
    | str s =>
      by_cases hlong : maxShown < s.length
      · rw [textOf_shown_of_lt hlong]
        rw [maxShown, ← String.length_toList] at hlong
        refine .cut (List.take_append_drop maxShown s.toList).symm ?_ ?_
        · rw [List.length_take, maxShown]
          omega
        · rw [ne_eq, List.drop_eq_nil_iff, maxShown]
          omega
      · rw [shown, if_neg hlong]
        exact .whole (Nat.not_lt.1 hlong)
    | null => exact .null
    | bool | int | real | arr | obj => exact .other (by simp) (by simp)

/-! ## Filling templates -/

/-- The text of the value at a path, changed before; none where the path is a fault. -/
def textAt (change : Json → Json) (body : Json) (path : List Char) : List Char :=
  match valueAt body path with
  | .ok v => textOf (change v)
  | .error _ => []

theorem textAt_of_ok {change : Json → Json} {body v : Json} (h : valueAt body path = .ok v) :
    textAt change body path = textOf (change v) := by
  rw [textAt, h]

/-- **A template in parts is filled part by part.** -/
theorem fillRefs_template {t : Parts} (ht : t.AreApart) {change : Json → Json} {body : Json}
    (h : ∀ r ∈ t.later, ∃ v, valueAt body r.1 = .ok v) :
    fillRefs change body t.template = .ok (String.ofList (t.write (textAt change body))) := by
  have hrefs : ∀ path, .ref path ∈ pieces dataRef t.template.toList →
      (valueAt body path).map (fun v => textOf (change v)) = .ok (textAt change body path) := by
    intro path hpath
    obtain ⟨r, hr, rfl⟩ := (Parts.ref_mem_pieces_iff ht).1 hpath
    obtain ⟨v, hv⟩ := h r hr
    rw [textAt_of_ok hv, hv]
    rfl
  rw [fillRefs, fill?_eq_ok hrefs, Parts.fill_pieces ht]
  rfl

/-- Whether a template can be filled does not depend on how values are changed before. -/
theorem exists_fillRefs_iff {change : Json → Json} {body : Json} {template : String} :
    (∃ text, fillRefs change body template = .ok text) ↔
      ∀ path, .ref path ∈ pieces dataRef template.toList → ∃ v, valueAt body path = .ok v := by
  have hmap : ∀ path, (∃ cs, (valueAt body path).map (fun v => textOf (change v)) = .ok cs) ↔
      ∃ v, valueAt body path = .ok v := fun path => by
    cases valueAt body path <;> simp [Except.map]
  simp only [← hmap]
  rw [← exists_fill?_iff, fillRefs]
  cases fill? (fun path => (valueAt body path).map fun v => textOf (change v))
    (pieces dataRef template.toList) <;> simp [Except.map]

/-- The template that is one reference. -/
def reference (path : List Char) : String :=
  String.ofList ('$' :: 'd' :: 'a' :: 't' :: 'a' :: '.' :: path)

/-- **A lone reference** captures the text of the value that it names. -/
theorem capture_reference (h : IsPath path) (body : Json) :
    capture (reference path) body =
      (valueAt body path).map fun v => String.ofList (textOf v) := by
  have hpieces : pieces dataRef (reference path).toList = [.ref path] := by
    have hone : pieces dataRef (opening ++ path ++ []) = .ref path :: pieces dataRef [] :=
      pieces_opening_append h (by simp [EndsPath])
    rw [List.append_nil] at hone
    rw [reference, String.toList_ofList]
    exact hone
  rw [capture, fillRefs, hpieces, fill?, fill?]
  cases valueAt body path with
  | error f => rfl
  | ok v => exact congrArg (Except.ok ∘ String.ofList) (List.append_nil (textOf v))

/-- **What a template captures and shows.** Every template is a row of literals and references. In
the place of each reference stands the text of its value, as it is captured or as it is shown, and
the literals stay; what was put in is not looked at again. A template can be captured where it can
be shown, and the two agree where no value is null or a long text. -/
theorem capture_display_parts (body : Json) :
    (∀ t : Parts, t.AreApart →
      (∀ r ∈ t.later, ∀ s ∈ segments r.1, s.length < Decimal.maxDigits) →
        ∃ captured onScreen : List Char → List Char,
          (∀ r ∈ t.later, ∃ v, valueAt body r.1 = .ok v ∧
            CapturedAs v (captured r.1) ∧ ShownAs v (onScreen r.1)) ∧
          capture t.template body = .ok (String.ofList (t.write captured)) ∧
          display t.template body = .ok (String.ofList (t.write onScreen)) ∧
          ((∀ r ∈ t.later, ∀ v, valueAt body r.1 = .ok v →
            v ≠ .null ∧ ∀ s, v = .str s → s.length ≤ 50) →
              capture t.template body = display t.template body)) ∧
    (∀ template, ∃ t : Parts, t.AreApart ∧ t.template = template) ∧
    ∀ template, (∃ text, capture template body = .ok text) ↔
      ∃ text, display template body = .ok text := by
  refine ⟨fun t ht hshort => ?_, exists_parts, fun template => ?_⟩
  · have hvalue : ∀ r ∈ t.later, ∃ v, valueAt body r.1 = .ok v := fun r hr =>
      exists_valueAt_of_isPath (ht.isPath r hr) (fun s hs => Nat.le_of_lt (hshort r hr s hs)) body
    have hcapture : capture t.template body = _ := fillRefs_template ht hvalue
    have hdisplay : display t.template body = _ := fillRefs_template ht hvalue
    refine ⟨textAt id body, textAt shown body, fun r hr => ?_, hcapture, hdisplay, fun hkept => ?_⟩
    · obtain ⟨v, hv⟩ := hvalue r hr
      rw [textAt_of_ok hv, textAt_of_ok hv]
      exact ⟨v, hv, capturedAs_iff.2 rfl, shownAs_iff.2 rfl⟩
    · rw [hcapture, hdisplay]
      congr 2
      refine Parts.write_congr fun r hr => ?_
      obtain ⟨v, hv⟩ := hvalue r hr
      obtain ⟨hnull, hlength⟩ := hkept r hr v hv
      rw [textAt_of_ok hv, textAt_of_ok hv, shown_of_length_le hnull hlength]
      rfl
  · exact exists_fillRefs_iff.trans exists_fillRefs_iff.symm

/-- The template `$data.$data.x$$data.y`: an opening that is literal, and a dollar sign between two
references. -/
def openings : Parts := ⟨opening, [(['x'], ['$']), (['y'], [])]⟩

/-- What is put in looks like a reference itself and stays; the second reference leads nowhere. -/
theorem capture_display_parts_openings :
    let body : Json := .obj [("x", .str "$data.x")]
    openings.AreApart ∧
      (∀ r ∈ openings.later, ∀ s ∈ segments r.1, s.length < Decimal.maxDigits) ∧
      capture "$data.$data.x$$data.y" body = .ok "$data.$data.x$" ∧
      display "$data.$data.x$$data.y" body = .ok "$data.$data.x$undefined" := by
  intro body
  have hapart : openings.AreApart := by decide
  have hshort : ∀ r ∈ openings.later, ∀ s ∈ segments r.1, s.length < Decimal.maxDigits := by decide
  obtain ⟨captured, onScreen, hvalues, hcapture, hdisplay, -⟩ :=
    (capture_display_parts body).1 openings hapart hshort
  have htexts : ∀ r ∈ openings.later, ∀ v, valueAt body r.1 = .ok v →
      captured r.1 = textOf v ∧ onScreen r.1 = textOf (shown v) := by
    intro r hr v hv
    obtain ⟨w, hw, hcaptured, hshown⟩ := hvalues r hr
    obtain rfl : v = w := Except.ok.inj (hv.symm.trans hw)
    exact ⟨capturedAs_iff.1 hcaptured, shownAs_iff.1 hshown⟩
  obtain ⟨hx, hx'⟩ := htexts (['x'], ['$']) (by simp [openings]) (.str "$data.x") rfl
  obtain ⟨hy, hy'⟩ := htexts (['y'], []) (by simp [openings]) .null rfl
  have hfilled : openings.write captured = "$data.$data.x$".toList := by
    show opening ++ ((captured ['x'] ++ ['$']) ++ ((captured ['y'] ++ []) ++ [])) = _
    rw [hx, hy]
    rfl
  have hfilled' : openings.write onScreen = "$data.$data.x$undefined".toList := by
    show opening ++ ((onScreen ['x'] ++ ['$']) ++ ((onScreen ['y'] ++ []) ++ [])) = _
    rw [hx', hy']
    rfl
  rw [hfilled] at hcapture
  rw [hfilled'] at hdisplay
  exact ⟨hapart, hshort, hcapture, hdisplay⟩

end CommandBook.Response
