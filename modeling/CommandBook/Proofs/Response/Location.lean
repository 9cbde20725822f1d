import CommandBook.Proofs.Json.Integers
import CommandBook.Proofs.Response.Filling

/-!
# Locations in a response

A location goes down from the root by the names of members and the indices of items. Its path has
their texts with dots between them, and the value there is the value at the location: a segment that
is the very name of a member finds that member before all names that are like it, and what digits
mean depends on whether they lead into an object or into an array.

## Main statements

* `segments_pathOf` — the segments of the path of a location
* `walk_map_segment` — a walk along the segments of a location
* `valueAt_pathOf` — the value at the path of a location
-/

namespace CommandBook.Response

/-- One branch of a location: the name of a member or the index of an item. -/
inductive Branch where
  | member (name : String)
  | item (index : Nat)
deriving DecidableEq, Repr

namespace Branch

/-- The value down a branch, by the very name or index. -/
def child? : Branch → Json → Option Json
  | .member name, .obj members => members.lookup name
  | .item index, .arr items => items[index]?
  | _, _ => none

/-- The segment of a path that stands for a branch. -/
def segment : Branch → List Char
  | .member name => name.toList
  | .item index => Decimal.numeral index

/-- A branch that a segment can stand for: a name that is not empty and has no dot, or an index of
no more digits than are read as a number, as have the indices of all arrays that fit in memory. -/
def IsNamed : Branch → Prop
  | .member name => name ≠ "" ∧ '.' ∉ name.toList
  | .item index => Decimal.fits index

end Branch

/-- The value at a location. -/
def locate? : List Branch → Json → Option Json
  | [], v => some v
  | b :: location, v => (b.child? v).bind (locate? location)

/-- The path of a location. -/
def pathOf (location : List Branch) : List Char := dotted (location.map Branch.segment)

/-! ## Segments of branches -/

theorem isNumeral_numeral (n : Nat) : IsNumeral (Decimal.numeral n) :=
  ⟨Decimal.numeral_ne_nil n, fun _ hc => Decimal.isDigit_of_mem_numeral hc⟩

theorem Branch.IsNamed.ne_nil {b : Branch} (h : b.IsNamed) : b.segment ≠ [] := by
  cases b with
  | member name => exact fun heq => h.1 (String.toList_eq_nil_iff.1 heq)
  | item index => exact Decimal.numeral_ne_nil index

theorem Branch.IsNamed.dot_not_mem {b : Branch} (h : b.IsNamed) : '.' ∉ b.segment := by
  cases b with
  | member name => exact h.2
  | item index =>
    intro hdot
    have hdigit : ('.' : Char).isDigit := (isNumeral_numeral index).isDigit _ hdot
    exact absurd hdigit (by decide)

/-- **The segments of the path of a location** are those of its branches. -/
theorem segments_pathOf {location : List Branch} (h : ∀ b ∈ location, b.IsNamed) :
    segments (pathOf location) = location.map Branch.segment := by
  rw [pathOf, segments_dotted]
  induction location with
  | nil => rfl
  | cons b location ih =>
    have hb := h b List.mem_cons_self
    rw [List.map_cons, List.flatMap_cons, segments_of_not_mem hb.ne_nil hb.dot_not_mem,
      ih fun b hb => h b (List.mem_cons_of_mem _ hb)]
    rfl

/-! ## Walks to locations -/

/-- The numeral of an index finds the item there. -/
theorem element?_numeral {index : Nat} (h : Decimal.fits index) (items : List Json) :
    element? (Decimal.numeral index) items = .ok items[index]? := by
  have hnumeral := isNumeral_numeral index
  have htext : indexText (Decimal.numeral index) = Decimal.numeral index := if_pos hnumeral
  have hlength : (Decimal.numeral index).length ≤ Decimal.maxDigits :=
    Decimal.length_numeral_le (by decide) (by simpa [Decimal.fits] using h)
  rw [element?_of_isAscii (fun c hc => Text.isAscii_of_isDigit (hnumeral.isDigit c hc)) hlength,
    htext, if_pos hnumeral, Decimal.value_numeral]

theorem step_segment {b : Branch} (h : b.IsNamed) {v w : Json} (hchild : b.child? v = some w) :
    step b.segment v = .ok (some w) := by
  unfold Branch.child? at hchild
  split at hchild
  · next name members =>
    have hmember : member? name.toList members = some w :=
      member?_of_own (by rw [String.ofList_toList]; exact hchild)
    exact congrArg Except.ok hmember
  · next index items =>
    have helement := element?_numeral h items
    rw [hchild] at helement
    exact helement
  · cases hchild

/-- **A walk along the segments of a location** arrives there. -/
theorem walk_map_segment {location : List Branch} (h : ∀ b ∈ location, b.IsNamed) {root v : Json}
    (hlocate : locate? location root = some v) :
    walk (location.map Branch.segment) root = .ok (some v) := by
  induction location generalizing root with
  | nil => exact congrArg Except.ok hlocate
  | cons b location ih =>
    obtain ⟨w, hchild, hrest⟩ := Option.bind_eq_some_iff.1 hlocate
    rw [List.map_cons, walk, step_segment (h b List.mem_cons_self) hchild]
    exact ih (fun b hb => h b (List.mem_cons_of_mem _ hb)) hrest

/-! ## Paths of locations in templates -/

theorem isPathChar_of_isSegmentChar {c : Char} (h : isSegmentChar c) : isPathChar c := by
  simp only [isSegmentChar, isPathChar, Bool.or_eq_true] at h ⊢
  exact h.imp_left Or.inl

theorem isPathChar_of_mem_segment {b : Branch}
    (h : ∀ name, b = .member name → ∀ c ∈ name.toList, isSegmentChar c) :
    ∀ c ∈ b.segment, isPathChar c := by
  intro c hc
  cases b with
  | member name => exact isPathChar_of_isSegmentChar (h name rfl c hc)
  | item index =>
    have hdigit := (isNumeral_numeral index).isDigit c hc
    simp [isPathChar, Char.isAlphanum, hdigit]

theorem isPathChar_of_mem_dotted {rows : List (List Char)}
    (h : ∀ row ∈ rows, ∀ c ∈ row, isPathChar c) : ∀ c ∈ dotted rows, isPathChar c := by
  induction rows with
  | nil => simp [dotted]
  | cons row rows ih =>
    cases rows with
    | nil => simpa [dotted] using h
    | cons next rows =>
      intro c hc
      rw [dotted, List.intercalate_cons_cons, List.append_assoc, List.mem_append] at hc
      rcases hc with hc | hc
      · exact h row List.mem_cons_self c hc
      · rcases List.mem_cons.1 hc with rfl | hc
        · decide
        · exact ih (fun row hrow => h row (List.mem_cons_of_mem _ hrow)) c hc

/-- The path of a location below the root is one that a reference can name. -/
theorem isPath_pathOf {location : List Branch} (hne : location ≠ [])
    (h : ∀ b ∈ location, b.IsNamed)
    (hnames : ∀ name, .member name ∈ location → ∀ c ∈ name.toList, isSegmentChar c) :
    IsPath (pathOf location) := by
  refine ⟨fun hnil => ?_, isPathChar_of_mem_dotted fun row hrow => ?_⟩
  · have hsegments := segments_pathOf h
    rw [hnil] at hsegments
    exact hne (List.map_eq_nil_iff.1 hsegments.symm)
  · obtain ⟨b, hb, rfl⟩ := List.mem_map.1 hrow
    exact isPathChar_of_mem_segment fun name heq => hnames name (heq ▸ hb)

/-- **Every place of a response has a path.** The value at the path of a location is the value at the
location, whatever other names there are. Where its names consist of letters, digits, underscores
and hyphens, a reference with the path of a location below the root captures the text of the value
there. -/
theorem valueAt_pathOf {location : List Branch} {root v : Json}
    (hnamed : ∀ b ∈ location, b.IsNamed) (hlocate : locate? location root = some v) :
    valueAt root (pathOf location) = .ok v ∧
      (location ≠ [] →
        (∀ name, .member name ∈ location → ∀ c ∈ name.toList, isSegmentChar c) →
          ∃ text, CapturedAs v text ∧
            capture (reference (pathOf location)) root = .ok (String.ofList text)) := by
  have hvalue : valueAt root (pathOf location) = .ok v := by
    rw [valueAt, segments_pathOf hnamed, walk_map_segment hnamed hlocate]
    rfl
  refine ⟨hvalue, fun hne hnames => ⟨textOf v, capturedAs_iff.2 rfl, ?_⟩⟩
  rw [capture_reference (isPath_pathOf hne hnamed hnames), hvalue]
  rfl

/-- A response whose names differ by a hyphen, or look like an index. -/
def rosters : Json :=
  .obj [("user-id", .null), ("userid", .arr [.null, .obj [("-1", .str "no"), ("1", .str "yes")]])]

theorem valueAt_pathOf_rosters :
    let location := [Branch.member "userid", .item 1, .member "1"]
    (∀ b ∈ location, b.IsNamed) ∧ locate? location rosters = some (.str "yes") ∧
      (∀ name, .member name ∈ location → ∀ c ∈ name.toList, isSegmentChar c) ∧
      pathOf location = "userid.1.1".toList ∧
      valueAt rosters "userid.1.1".toList = .ok (.str "yes") ∧
      capture "$data.userid.1.1" rosters = .ok "yes" := by
  intro location
  have hnamed : ∀ b ∈ location, b.IsNamed := by
    intro b hb
    simp only [location, List.mem_cons, List.not_mem_nil, or_false] at hb
    rcases hb with rfl | rfl | rfl
    · exact ⟨by decide, by decide⟩
    · show Decimal.fits 1 = true
      decide +kernel
    · exact ⟨by decide, by decide⟩
  have hnames : ∀ name, .member name ∈ location → ∀ c ∈ name.toList, isSegmentChar c := by
    intro name hname
    simp only [location, List.mem_cons, List.not_mem_nil, or_false, Branch.member.injEq,
      reduceCtorEq, false_or] at hname
    rcases hname with rfl | rfl
    · exact List.all_eq_true.1 rfl
    · exact List.all_eq_true.1 rfl
  have hlocate : locate? location rosters = some (.str "yes") := rfl
  obtain ⟨hvalue, hcapture⟩ := valueAt_pathOf hnamed hlocate
  obtain ⟨text, htext, hcaptured⟩ := hcapture (by simp [location]) hnames
  obtain rfl : text = "yes".toList := capturedAs_iff.1 htext
  exact ⟨hnamed, hlocate, hnames, rfl, hvalue, hcaptured⟩

end CommandBook.Response
