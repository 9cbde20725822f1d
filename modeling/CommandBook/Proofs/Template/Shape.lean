import CommandBook.Proofs.Json.Shape
import CommandBook.Proofs.Template.Splice

/-!
# The shape of a value after substitution

Substitution in the text of a value puts what placeholders stand for between the quotes of its
strings. Where each quote that is put in has a backslash directly in front of it, what is read
afterwards has a shape that the value alone decides, or nothing is read at all. The names of the
value must have no placeholders, for what they stand for would be names then.

## Main statements

* `guards_spliced` — the layout after substitution has guarded strings
* `exists_shape_resolveChars` — the shape of what is read after substitution
-/

namespace CommandBook.Template

open Json

/-- What the placeholders of a text stand for has no quote but directly behind a backslash. -/
def IsGuarded (scope : Scope) (template : String) : Prop :=
  ∀ name ∈ references placeholder template.toList, Guarded (substitute scope name)

/-- A text in which no placeholder can begin. -/
def HasNoDollar (s : String) : Prop := '$' ∉ s.toList

theorem guarded_pieces {scope : Scope} : ∀ ps : List (Piece String),
    (∀ name, .ref name ∈ ps → Guarded (substitute scope name)) →
      Guarded (ps.flatMap (splicePiece scope))
  | [], _ => .nil
  | .char c :: ps, h =>
    (guarded_escape c).append (guarded_pieces ps fun name hn => h name (List.mem_cons_of_mem _ hn))
  | .ref name :: ps, h =>
    (h name List.mem_cons_self).append
      (guarded_pieces ps fun name hn => h name (List.mem_cons_of_mem _ hn))

theorem guarded_splice {scope : Scope} {template : String} (h : IsGuarded scope template) :
    Guarded (splice scope template.toList) :=
  guarded_pieces _ fun name hn => h name (List.mem_filterMap.2 ⟨_, hn, rfl⟩)

/-- Without a dollar sign nothing is put in. -/
theorem splice_of_not_mem (scope : Scope) : ∀ {cs : List Char}, '$' ∉ cs →
    splice scope cs = cs.flatMap escape
  | [], _ => rfl
  | c :: cs, h => by
    rw [List.mem_cons, not_or] at h
    rw [splice_cons scope (Ne.symm h.1), splice_of_not_mem scope h.2, List.flatMap_cons]

theorem guarded_flatMap_escape : ∀ cs : List Char, Guarded (cs.flatMap escape)
  | [] => .nil
  | c :: cs => (guarded_escape c).append (guarded_flatMap_escape cs)

/-- **The layout after substitution** has guarded strings. -/
theorem guards_spliced (scope : Scope) :
    (spliced scope).Guards (IsGuarded scope) HasNoDollar where
  text _ h := guarded_splice h
  name k h := by
    have htext : (spliced scope).text k = k.toList.flatMap escape := splice_of_not_mem scope h
    rw [htext]
    exact ⟨guarded_flatMap_escape _, readsAs_flatMap_escape _⟩
  first _ _ hc := absurd hc List.not_mem_nil
  later _ c hc := by
    rw [List.mem_singleton.1 hc]
    rfl
  last _ _ hc := absurd hc List.not_mem_nil

/-- **The shape of what is read after substitution** in the text of a value is the same for all
scopes. -/
theorem exists_shape_resolveChars (v : Json) : ∃ o, ∀ scope : Scope,
    v.Each (IsGuarded scope) HasNoDollar →
      ∀ w, readChars (resolveChars scope v.renderChars) = .ok w → w.shape = o := by
  obtain ⟨o, ho⟩ := exists_shape_readChars (Q := HasNoDollar) v
  refine ⟨o, fun scope hv w hread => ?_⟩
  rw [resolveChars_renderChars] at hread
  exact ho (guards_spliced scope) hv w hread

end CommandBook.Template
