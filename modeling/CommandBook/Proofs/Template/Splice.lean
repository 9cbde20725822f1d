import CommandBook.Proofs.Json.Numbers
import CommandBook.Proofs.Json.RoundTrip
import CommandBook.Proofs.Template.Placeholder

/-!
# Placeholders in the text of a JSON value

Substitution in the text of a value finds the placeholders of the value's strings and no others. A
dollar sign stands nowhere but inside strings, an escape starts with a character that no name goes
on with, and so does what follows a string. What comes out is therefore the text of the value in a
layout of its own, `spliced scope`: between the quotes stand escapes and, unescaped, what was
substituted. Where substituted texts need no escape, that layout reads back as the value with each
of its strings resolved.

## Main statements

* `resolveChars_flatMap_escape` — a string is spliced
* `resolveChars_write` — a value is laid out
* `readChars_resolveChars` — what is read after substitution
-/

namespace CommandBook.Template

/-! ## Escapes -/

section Escapes
open Json

theorem dollar_not_mem_unitEscape (n : Nat) : '$' ∉ unitEscape n := fun h =>
  absurd (mem_unitChars_of_mem_unitEscape h) (by decide)

/-- An escape is the character itself, or starts with a backslash and has no dollar sign. -/
theorem escapeForm_eq_or {c : Char} {cs : List Char} (h : EscapeForm c cs) :
    cs = [c] ∨ ∃ rest, cs = '\\' :: rest ∧ '$' ∉ rest := by
  cases h with
  | @letter d hl _ =>
    have hne : '$' ≠ d := by rintro rfl; exact absurd hl (by decide)
    exact Or.inr ⟨[d], rfl, by simpa using hne⟩
  | plain _ _ _ _ => exact Or.inl rfl
  | unit _ _ =>
    exact Or.inr ⟨_, rfl, fun h => dollar_not_mem_unitEscape _ (List.mem_cons_of_mem _ h)⟩
  | pair _ =>
    refine Or.inr ⟨_, rfl, fun h => ?_⟩
    have hpair : '$' ∈ unitEscape (highUnit c) ++ unitEscape (lowUnit c) :=
      List.mem_cons_of_mem _ h
    rcases List.mem_append.1 hpair with h | h
    · exact dollar_not_mem_unitEscape _ h
    · exact dollar_not_mem_unitEscape _ h

theorem dollar_not_mem_escape {c : Char} (h : c ≠ '$') : '$' ∉ escape c := by
  rcases escapeForm_eq_or (escapeForm_escape c) with heq | ⟨rest, heq, hrest⟩
  · simpa [heq] using Ne.symm h
  · simp [heq, hrest]

theorem toNat_of_isNameChar {c : Char} (h : isNameChar c) : 65 ≤ c.toNat ∧ c.toNat ≤ 122 := by
  change (decide (c.val ≥ 65 ∧ c.val ≤ 90) || (decide (c.val ≥ 97) && decide (c.val ≤ 122)) ||
    c == '_') = true at h
  simp only [Bool.or_eq_true, Bool.and_eq_true, decide_eq_true_eq, beq_iff_eq, ge_iff_le,
    UInt32.le_iff_toNat_le, UInt32.reduceToNat] at h
  have hval : c.val.toNat = c.toNat := rfl
  rcases h with h | rfl
  · omega
  · decide

/-- The characters of names are written as they are. -/
theorem escape_of_isNameChar {c : Char} (h : isNameChar c) : escape c = [c] := by
  obtain ⟨hlow, hhigh⟩ := toNat_of_isNameChar h
  have hform := escapeForm_escape c
  generalize escape c = cs at hform ⊢
  cases hform with
  | @letter d hl hd =>
    have hall : escapeLetters.all fun l => (escaped? l).all fun e => !isNameChar e := by decide
    have hnot := List.all_eq_true.1 hall d hl
    rw [hd, Option.all_some, h] at hnot
    cases hnot
  | plain _ _ _ _ => rfl
  | unit hout _ => omega
  | pair hc => omega

theorem flatMap_escape_of_isName {name : List Char} (h : ∀ c ∈ name, isNameChar c) :
    name.flatMap escape = name := by
  induction name with
  | nil => rfl
  | cons c rest ih =>
    rw [List.flatMap_cons, escape_of_isNameChar (h c List.mem_cons_self),
      ih fun d hd => h d (List.mem_cons_of_mem _ hd), List.singleton_append]

/-- Where no name goes on, none goes on in the escapes. -/
theorem EndsName.flatMap_escape {cs rest : List Char} (h : EndsName cs) (hrest : EndsName rest) :
    EndsName (cs.flatMap escape ++ rest) := by
  cases cs with
  | nil => exact hrest
  | cons c cs =>
    rw [List.flatMap_cons]
    rcases escapeForm_eq_or (escapeForm_escape c) with heq | ⟨tail, heq, -⟩
    · rw [heq]
      exact h
    · rw [heq]
      rintro _ ⟨⟩
      rfl

end Escapes

/-! ## Strings and values -/

/-- A piece of a string as it comes out of substitution in the string's escapes. -/
def splicePiece (scope : Scope) : Piece String → List Char
  | .char c => Json.escape c
  | .ref name => substitute scope name

/-- What substitution makes of the escapes of a string. -/
def splice (scope : Scope) (cs : List Char) : List Char :=
  (pieces placeholder cs).flatMap (splicePiece scope)

/-- The layout of a value's text after substitution. -/
def spliced (scope : Scope) : Json.Layout :=
  { Json.oneLine with text := fun s => splice scope s.toList }

section Substituted
variable (scope : Scope)

theorem splice_cons {c : Char} (h : c ≠ '$') (rest : List Char) :
    splice scope (c :: rest) = Json.escape c ++ splice scope rest := by
  rw [splice, pieces_cons h]
  rfl

theorem splice_dollar {rest : List Char} (h : EndsName rest) :
    splice scope ('$' :: rest) = '$' :: splice scope rest := by
  rw [splice, pieces_dollar h]
  rfl

theorem splice_name {name rest : List Char} (hname : IsName name) (h : EndsName rest) :
    splice scope ('$' :: name ++ rest) =
      substitute scope (String.ofList name) ++ splice scope rest := by
  rw [splice, pieces_name hname h]
  rfl

/-- **Substitution in the escapes of a string** finds the placeholders of the string. -/
theorem resolveChars_flatMap_escape (cs : List Char) {rest : List Char} (hrest : EndsName rest) :
    resolveChars scope (cs.flatMap Json.escape ++ rest) =
      splice scope cs ++ resolveChars scope rest := by
  induction cs using pieces_induction with
  | nil => rfl
  | char c cs hc ih =>
    rw [List.flatMap_cons, List.append_assoc,
      resolveChars_append scope _ (dollar_not_mem_escape hc), ih, splice_cons scope hc,
      List.append_assoc]
  -- neither an escape nor `rest` goes on with a name, so the dollar sign is literal there too
  | dollar cs hcs ih =>
    rw [List.flatMap_cons, List.append_assoc, splice_dollar scope hcs]
    show resolveChars scope ('$' :: (cs.flatMap Json.escape ++ rest)) = _
    rw [resolveChars_dollar scope (hcs.flatMap_escape hrest), ih, List.cons_append]
  -- for the same reason the name ends where it ends in the string
  | name name cs hname hcs ih =>
    rw [List.flatMap_append, List.flatMap_cons, flatMap_escape_of_isName hname.isNameChar,
      splice_name scope hname hcs, List.append_assoc, List.append_assoc]
    show resolveChars scope ('$' :: name ++ (cs.flatMap Json.escape ++ rest)) = _
    rw [resolveChars_name scope hname (hcs.flatMap_escape hrest), ih, List.append_assoc]

/-- A string with its quotes. -/
theorem resolveChars_quote (s : String) (rest : List Char) :
    resolveChars scope (Json.oneLine.quote s ++ rest) =
      (spliced scope).quote s ++ resolveChars scope rest := by
  have hquote : EndsName ('"' :: rest) := by
    rintro _ ⟨⟩
    rfl
  have htext := resolveChars_flatMap_escape scope s.toList hquote
  rw [resolveChars_cons scope (by decide)] at htext
  simp only [Json.Layout.quote, List.cons_append, List.append_assoc, List.nil_append]
  rw [resolveChars_cons scope (by decide)]
  show _ :: resolveChars scope (s.toList.flatMap Json.escape ++ '"' :: rest) = _
  rw [htext]
  rfl

theorem dollar_not_mem_integer (n : Int) : '$' ∉ Decimal.integer n := fun h => by
  rcases Decimal.isDigit_or_minus_of_mem_integer h with h | h <;> exact absurd h (by decide)

theorem dollar_not_mem_real (x : Float) : '$' ∉ (Json.numberStyle.text x).toList := fun h => by
  have hreal := Json.realText_text x
  generalize (Json.numberStyle.text x).toList = cs at h hreal
  cases hreal with
  | number hcs => exact absurd (hcs.isNumberPart _ h) (by decide)
  | nan | infinity | negInfinity => exact absurd h (by decide)

end Substituted

section Values
open Json

mutual
/-- **Substitution in the text of a value** lays the value out anew. -/
theorem resolveChars_write (scope : Scope) : ∀ (v : Json) (level : Nat) (rest : List Char),
    resolveChars scope (oneLine.write level v ++ rest) =
      (spliced scope).write level v ++ resolveChars scope rest
  | .null, _, rest => resolveChars_append scope ['n', 'u', 'l', 'l'] (by decide) rest
  | .bool true, _, rest => resolveChars_append scope ['t', 'r', 'u', 'e'] (by decide) rest
  | .bool false, _, rest => resolveChars_append scope ['f', 'a', 'l', 's', 'e'] (by decide) rest
  | .int n, _, rest => resolveChars_append scope _ (dollar_not_mem_integer n) rest
  | .real x, _, rest => resolveChars_append scope _ (dollar_not_mem_real x) rest
  | .str s, _, rest => resolveChars_quote scope s rest
  | .arr [], _, rest => resolveChars_append scope ['[', ']'] (by decide) rest
  | .arr (v :: items), level, rest => by
    have hopen := resolveChars_append scope ['['] (by decide)
    have hclose := resolveChars_append scope [']'] (by decide) rest
    have hfirst := resolveChars_write scope v (level + 1)
      (oneLine.writeItems (level + 1) items ++ ([']'] ++ rest))
    rw [resolveChars_writeItems scope items (level + 1), hclose] at hfirst
    have hwhole := (hopen _).trans (congrArg _ hfirst)
    simpa [Layout.write, spliced, oneLine] using hwhole
  | .obj [], _, rest => resolveChars_append scope ['\x7b', '\x7d'] (by decide) rest
  | .obj ((k, v) :: members), level, rest => by
    have hopen := resolveChars_append scope ['\x7b'] (by decide)
    have hcolon := resolveChars_append scope [':', ' '] (by decide)
    have hclose := resolveChars_append scope ['\x7d'] (by decide) rest
    have hfirst := resolveChars_write scope v (level + 1)
      (oneLine.writeMembers (level + 1) members ++ (['\x7d'] ++ rest))
    rw [resolveChars_writeMembers scope members (level + 1), hclose] at hfirst
    have hname := (resolveChars_quote scope k _).trans
      (congrArg _ ((hcolon _).trans (congrArg _ hfirst)))
    have hwhole := (hopen _).trans (congrArg _ hname)
    simpa [Layout.write, spliced, oneLine] using hwhole

theorem resolveChars_writeItems (scope : Scope) : ∀ (items : List Json) (level : Nat)
    (rest : List Char), resolveChars scope (oneLine.writeItems level items ++ rest) =
      (spliced scope).writeItems level items ++ resolveChars scope rest
  | [], _, _ => rfl
  | v :: items, level, rest => by
    have hcomma := resolveChars_append scope [',', ' '] (by decide)
    have hfirst := resolveChars_write scope v level (oneLine.writeItems level items ++ rest)
    rw [resolveChars_writeItems scope items level rest] at hfirst
    have hwhole := (hcomma _).trans (congrArg _ hfirst)
    simpa [Layout.writeItems, spliced, oneLine] using hwhole

theorem resolveChars_writeMembers (scope : Scope) : ∀ (members : List (String × Json))
    (level : Nat) (rest : List Char),
    resolveChars scope (oneLine.writeMembers level members ++ rest) =
      (spliced scope).writeMembers level members ++ resolveChars scope rest
  | [], _, _ => rfl
  | (k, v) :: members, level, rest => by
    have hcomma := resolveChars_append scope [',', ' '] (by decide)
    have hcolon := resolveChars_append scope [':', ' '] (by decide)
    have hfirst := resolveChars_write scope v level (oneLine.writeMembers level members ++ rest)
    rw [resolveChars_writeMembers scope members level rest] at hfirst
    have hname := (resolveChars_quote scope k _).trans
      (congrArg _ ((hcolon _).trans (congrArg _ hfirst)))
    have hwhole := (hcomma _).trans (congrArg _ hname)
    simpa [Layout.writeMembers, spliced, oneLine] using hwhole
end

/-- The text of a value on its own. -/
theorem resolveChars_renderChars (scope : Scope) (v : Json) :
    resolveChars scope v.renderChars = (spliced scope).write 0 v := by
  have htext := resolveChars_write scope v 0 []
  rw [List.append_nil, write_oneLine] at htext
  rw [htext]
  exact List.append_nil _

/-! ## Reading after substitution -/

/-- A text that may stand in a string as it is. -/
def isPlainText (s : String) : Bool :=
  s.toList.all fun c => c != '"' && c != '\\' && 0x20 ≤ c.toNat

/-- Every value of a scope has a text, and one that may stand in a string as it is. -/
def isPlain (scope : Scope) : Bool :=
  scope.entries.all fun e =>
    match e.2.text? with
    | .ok s => isPlainText s
    | .error _ => false

theorem isPlainText_of_get? {scope : Scope} (h : isPlain scope) {name : String} {v : Value}
    (hv : scope.get? name = some v) : isPlainText v.text := by
  obtain ⟨before, after, hentries, -⟩ := List.lookup_eq_some_iff.1 hv
  have htext := List.all_eq_true.1 h (name, v) (by rw [hentries]; simp)
  rw [Value.text?] at htext
  split at htext
  · next hok =>
    split at hok
    · cases hok
      exact htext
    · cases hok
  · cases htext

theorem readsAs_substitute {scope : Scope} (h : isPlain scope) (name : String) :
    ReadsAs (substitute scope name) (substitute scope name) := by
  unfold substitute
  split
  · next v hv =>
    split
    · refine readsAs_self fun c hc => ?_
      simpa [and_assoc] using List.all_eq_true.1 (isPlainText_of_get? h hv) c hc
    · exact readsAs_nil
  · exact readsAs_nil

theorem readsAs_pieces {scope : Scope} (h : isPlain scope) : ∀ ps : List (Piece String),
    ReadsAs (ps.flatMap (splicePiece scope)) (fill (substitute scope) ps)
  | [] => readsAs_nil
  | .char c :: ps => (readsAs_escape c).append (readsAs_pieces h ps)
  | .ref name :: ps => (readsAs_substitute h name).append (readsAs_pieces h ps)

theorem reads_spliced {scope : Scope} (h : isPlain scope) :
    (spliced scope).Reads (resolve scope) where
  text s := by
    rw [resolve, String.toList_ofList]
    exact readsAs_pieces h _
  first _ _ hc := absurd hc List.not_mem_nil
  later _ c hc := by
    rw [List.mem_singleton.1 hc]
    rfl
  last _ _ hc := absurd hc List.not_mem_nil

/-- **What is read after substitution** in the text of a value is the value with each of its
strings resolved. -/
theorem readChars_resolveChars {scope : Scope} (h : isPlain scope) {v : Json}
    (hv : isIntegral v) :
    readChars (resolveChars scope v.renderChars) = .ok (merged (mapTexts (resolve scope) v)) := by
  rw [resolveChars_renderChars, readChars_write (reads_spliced h) hv]

end Values

end CommandBook.Template
