import CommandBook.Proofs.Text.Words
import CommandBook.Response.Path

/-!
# Walks along paths

The segments of two paths with a dot between them are those of the one and then those of the other,
so a walk along both is a walk along the first, and from where it arrives a walk along the second.
A walk that arrives nowhere is given out as null, and from null no segment leads on; this is why it
makes no difference to the value whether the second walk starts or not.

## Main statements

* `segments_dotted` — the segments of a row of paths with dots between them
* `walk_append` — a walk along two rows of segments
* `valueAt_append_dot` — the value at two paths with a dot between them
-/

namespace CommandBook.Response

/-- Texts with single dots between them. -/
def dotted (rows : List (List Char)) : List Char := List.intercalate ['.'] rows

/-! ## Segments -/

theorem segments_append_dot (p q : List Char) :
    segments (p ++ '.' :: q) = segments p ++ segments q := by
  unfold segments
  rw [Text.splitWhere_append (by rfl), List.filter_append]

/-- **The segments of a row of paths** are those of each in turn. -/
theorem segments_dotted (rows : List (List Char)) :
    segments (dotted rows) = rows.flatMap segments := by
  induction rows with
  | nil => rfl
  | cons row rows ih =>
    cases rows with
    | nil => simp [dotted]
    | cons next rest =>
      have hdot : dotted (row :: next :: rest) = row ++ '.' :: dotted (next :: rest) := by
        simp [dotted, List.intercalate_cons_cons]
      rw [hdot, segments_append_dot, ih]
      rfl

/-- A text without dots is a segment, unless it is empty. -/
theorem segments_of_not_mem {segment : List Char} (hne : segment ≠ []) (hdot : '.' ∉ segment) :
    segments segment = [segment] := by
  have hsplit : Text.splitWhere (· == '.') segment = [segment] :=
    Text.splitWhere_eq_singleton fun c hc => by
      have hc' : c ≠ '.' := fun h => hdot (h ▸ hc)
      simpa using hc'
  rw [segments, hsplit]
  simp [hne]

/-- Empty texts in a row of paths bring in no segments. -/
theorem segments_dotted_filter (rows : List (List Char)) :
    segments (dotted (rows.filter (!·.isEmpty))) = segments (dotted rows) := by
  rw [segments_dotted, segments_dotted]
  induction rows with
  | nil => rfl
  | cons row rows ih =>
    cases row with
    | nil => exact ih
    | cons c row =>
      rw [List.filter_cons_of_pos (by rfl), List.flatMap_cons, ih, List.flatMap_cons]

/-- The characters of a segment are characters of the path. -/
theorem mem_of_mem_segments {path segment : List Char} {c : Char} (h : segment ∈ segments path)
    (hc : c ∈ segment) : c ∈ path :=
  Text.mem_of_mem_splitWhere (List.mem_filter.1 h).1 c hc

/-! ## Walks -/

/-- **A walk along two rows of segments** is one along the first, and one along the second from
where the first arrives, if it arrives anywhere. -/
theorem walk_append (ss ts : List (List Char)) (v : Json) :
    walk (ss ++ ts) v = (walk ss v).bind fun w => w.elim (.ok none) (walk ts) := by
  induction ss generalizing v with
  | nil => rfl
  | cons segment ss ih =>
    rw [List.cons_append, walk, walk]
    cases step segment v with
    | error f => rfl
    | ok w =>
      cases w with
      | none => rfl
      | some w => exact ih w

/-- From null every path leads to null: there is nowhere to go, or nothing to go along. -/
theorem valueAt_null (path : List Char) : valueAt .null path = .ok .null := by
  unfold valueAt
  cases segments path with
  | nil => rfl
  | cons segment rest => rfl

/-- **Paths compose.** The value at two paths with a dot between them is the value at the second in
the value at the first, faults included. Where the first leads nowhere, no longer one leads
anywhere, and empty segments make no difference. -/
theorem valueAt_append_dot (root : Json) :
    (∀ p q, valueAt root (p ++ '.' :: q) = (valueAt root p).bind (valueAt · q)) ∧
      (∀ p q, walk (segments p) root = .ok none →
        walk (segments (p ++ '.' :: q)) root = .ok none) ∧
      ∀ rows, valueAt root (dotted (rows.filter (!·.isEmpty))) = valueAt root (dotted rows) := by
  refine ⟨fun p q => ?_, fun p q hmiss => ?_, fun rows => ?_⟩
  · rw [valueAt, segments_append_dot, walk_append, valueAt]
    cases walk (segments p) root with
    | error f => rfl
    | ok w =>
      cases w with
      | none => exact (valueAt_null q).symm
      | some w => rfl
  · rw [segments_append_dot, walk_append, hmiss]
    rfl
  · rw [valueAt, valueAt, segments_dotted_filter]

/-- A response with an object inside and a null inside that. -/
def account : Json := .obj [("user", .obj [("name", .str "ann"), ("mail", .null)])]

theorem valueAt_append_dot_account :
    valueAt account ".user..name".toList =
        (valueAt account ".user.".toList).bind (valueAt · "name".toList) ∧
      walk (segments "user.mail.host".toList) account = .ok none ∧
      walk (segments "user.mail.host.name".toList) account = .ok none := by
  have hmiss : walk (segments "user.mail.host".toList) account = .ok none := rfl
  obtain ⟨hcompose, hlonger, -⟩ := valueAt_append_dot account
  exact ⟨hcompose ".user.".toList "name".toList, hmiss,
    hlonger "user.mail.host".toList "name".toList hmiss⟩

end CommandBook.Response
