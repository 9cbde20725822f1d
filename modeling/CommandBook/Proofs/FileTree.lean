import CommandBook.FileTree

/-!
# What stays when files change

A path leads through directories, so it leads to the same location in every tree that has the
directories of the first. Putting an entry where no directory is keeps all directories, and so does
taking away what is none. Nothing here needs the entries of a tree to lie in directories of their
own.

## Main statements

* `Keeps.locate` — a path leads to the same location where all directories stay
* `keeps_put_file`, `keeps_remove` — changes that keep directories
* `locate_parent` — what a path leads to lies in a directory
* `ensureDirectory_of_directory` — where the directory is there, none is made
* `not_directory_of_ensureDirectory` — where making the directory fails, there is none afterwards
-/

namespace CommandBook.FileTree

variable {t u : FileTree}

/-! ## Entries -/

theorem isDirectory_iff {l : Location} : t.isDirectory l ↔ t.get? l = some .directory := by
  unfold isDirectory
  split
  · next h => simp [h]
  · next h => simpa using h

theorem get?_nil (t : FileTree) : t.get? [] = some .directory := rfl

theorem get?_of_ne_nil {l : Location} (h : l ≠ []) : t.get? l = t.entries.get? l := by
  rw [get?, if_neg (by simpa using h)]

theorem ne_nil_of_not_isDirectory {l : Location} (h : t.isDirectory l = false) : l ≠ [] := by
  rintro rfl
  exact absurd h (by simp [isDirectory, get?_nil])

/-- Making the way to a location changes nothing that is there. -/
theorem get?_makeParents {entries : OrderedMap Location FileEntry} {d : Location} {e : FileEntry}
    (l : Location) (h : entries.get? d = some e) : (makeParents entries l).get? d = some e := by
  unfold makeParents
  generalize (ancestors l).filter (!·.isEmpty) = way
  induction way generalizing entries with
  | nil => exact h
  | cons a way ih =>
    rw [List.foldl_cons]
    refine ih ?_
    split
    -- nothing is put where something is
    · exact h
    · next hnone =>
      rw [OrderedMap.get?_insert, if_neg]
      · exact h
      · rintro heq
        rw [← eq_of_beq heq, h] at hnone
        exact hnone rfl

/-- What is put at a location lies there. -/
theorem get?_put_self {l : Location} (h : l ≠ []) (t : FileTree) (e : FileEntry) :
    (t.put l e).get? l = some e := by
  rw [get?_of_ne_nil h, put, OrderedMap.get?_insert, if_pos (beq_self_eq_true l)]

/-- What lies elsewhere stays. -/
theorem get?_put_of_ne {l d : Location} {e e' : FileEntry} (hne : d ≠ l) (h : t.get? d = some e') :
    (t.put l e).get? d = some e' := by
  by_cases hd : d = []
  · subst hd
    exact h
  · rw [get?_of_ne_nil hd] at h ⊢
    rw [put, OrderedMap.get?_insert, if_neg (by simpa using hne)]
    exact get?_makeParents l h

theorem lookup_filter {l d : Location} : ∀ es : List (Location × FileEntry),
    (es.filter fun e => e.1 != l).lookup d = if d == l then none else es.lookup d
  | [] => by simp
  | (k, e) :: es => by
    rw [List.filter_cons]
    by_cases hk : k = l
    · subst hk
      rw [if_neg (by simp), lookup_filter es, List.lookup_cons]
      by_cases hd : d = k
      · simp [hd]
      · simp [beq_false_of_ne hd]
    · rw [if_pos (by simpa using hk), List.lookup_cons, lookup_filter es, List.lookup_cons]
      by_cases hd : d = l
      · subst hd
        simp [beq_false_of_ne (Ne.symm hk)]
      · simp [hd]

/-- Only what is taken away is gone. -/
theorem get?_remove {l d : Location} (hd : d ≠ []) :
    (t.remove l).get? d = if d == l then none else t.get? d := by
  have hnodup : ((t.entries.entries.filter fun e => e.1 != l).map Prod.fst).Nodup :=
    t.entries.nodup.sublist (List.filter_sublist.map Prod.fst)
  rw [get?_of_ne_nil hd, get?_of_ne_nil hd, remove, OrderedMap.ofList,
    OrderedMap.get?_foldl_insert _ _ _ hnodup, lookup_filter, OrderedMap.get?_empty, Option.or_none]
  rfl

/-! ## Directories that stay -/

/-- A later tree has all directories of an earlier one, and counts paths from the same place. -/
structure Keeps (t u : FileTree) : Prop where
  current_eq : u.current = t.current
  isDirectory : ∀ l, t.isDirectory l → u.isDirectory l

/-- A file in the place of no directory. -/
theorem keeps_put_file {l : Location} (h : t.isDirectory l = false) (e : FileEntry) :
    Keeps t (t.put l e) := by
  refine ⟨rfl, fun d hd => ?_⟩
  have hne : d ≠ l := by
    rintro rfl
    exact absurd hd (by simp [h])
  rw [isDirectory_iff] at hd ⊢
  exact get?_put_of_ne hne hd

/-- Taking away what is no directory. -/
theorem keeps_remove {l : Location} (h : t.isDirectory l = false) : Keeps t (t.remove l) := by
  refine ⟨rfl, fun d hd => ?_⟩
  have hne : d ≠ l := by
    rintro rfl
    exact absurd hd (by simp [h])
  by_cases hnil : d = []
  · subst hnil
    rfl
  · rw [isDirectory_iff] at hd ⊢
    rw [get?_remove hnil, if_neg (by simpa using hne)]
    exact hd

/-- Names that lead somewhere go on leading there. -/
theorem Keeps.follow (h : Keeps t u) : ∀ {names : List String} {l r : Location},
    t.follow l names = .ok r → u.follow l names = .ok r
  | [], _, _, hr => hr
  | name :: rest, l, r, hr => by
    rw [FileTree.follow] at hr ⊢
    split at hr
    · cases hr
    · cases hr
    · next hdir =>
      rw [isDirectory_iff.1 (h.isDirectory l (isDirectory_iff.2 hdir))]
      split at hr
      · cases hr
      · next hlong =>
        simp only [hlong, if_false]
        exact h.follow hr

/-- **A path leads to the same location where all directories stay.** -/
theorem Keeps.locate (h : Keeps t u) {p : FilePath} {l : Location} (hl : t.locate p = .ok l) :
    u.locate p = .ok l := by
  unfold FileTree.locate at hl ⊢
  simp only at hl ⊢
  split at hl
  · cases hl
  split at hl
  · cases hl
  · next hnul hlong =>
    rw [if_neg hnul, if_neg hlong, h.current_eq]
    exact h.follow hl

theorem entry_of_locate {p : FilePath} {l : Location} (h : t.locate p = .ok l) :
    t.entry p = match t.get? l with
      | some e => .ok (l, e)
      | none => .error .fileMissing := by
  rw [FileTree.entry, h]
  rfl

theorem entry_eq_ok_iff {p : FilePath} {l : Location} {e : FileEntry} :
    t.entry p = .ok (l, e) ↔ t.locate p = .ok l ∧ t.get? l = some e := by
  cases hlocate : t.locate p with
  | error f =>
    rw [FileTree.entry, hlocate]
    show Except.error f = _ ↔ _
    simp
  | ok l' =>
    rw [entry_of_locate hlocate]
    split
    · next h => simp; rintro rfl; simp [h]
    · next h => simp; rintro rfl; simp [h]

theorem find?_eq_some_iff {p : FilePath} {e : Location × FileEntry} :
    t.find? p = .ok (some e) ↔ t.entry p = .ok e := by
  unfold find?
  split
  · next h => simp [h]
  · next h => simp [h]
  · next h => simp [h]

/-- Only the length of a path keeps it from being looked up. -/
theorem find?_eq_error_iff {p : FilePath} {f : Fault} :
    t.find? p = .error f ↔ f = .nameTooLong ∧ t.entry p = .error .nameTooLong := by
  unfold find?
  cases t.entry p with
  | ok found => simp
  | error g => cases g <;> simp [eq_comm]

theorem decode_eq_error_iff {content : ByteArray} {f : Fault} :
    decode content = .error f ↔ f = .notUtf8 ∧ String.fromUTF8? content = none := by
  unfold decode
  split
  · next h => simp [h]
  · next h => simp [h, eq_comm]

theorem decode_eq_ok_iff {content : ByteArray} {text : String} :
    decode content = .ok text ↔ ∃ s, String.fromUTF8? content = some s ∧
      String.ofList (Text.unifyLineEnds s.toList) = text := by
  unfold decode
  split
  · next h => simp [h]
  · next h => simp [h]

/-! ## Directories on the way -/

/-- The last name of a row leads on from a directory. -/
theorem follow_concat {name : String} : ∀ {names : List String} {l r : Location},
    t.follow l (names ++ [name]) = .ok r → ∃ d, t.follow l names = .ok d ∧ t.isDirectory d
  | [], l, r, h => by
    refine ⟨l, rfl, isDirectory_iff.2 ?_⟩
    rw [List.nil_append, FileTree.follow] at h
    split at h
    · cases h
    · cases h
    · assumption
  | first :: rest, l, r, h => by
    rw [List.cons_append, FileTree.follow] at h
    rw [FileTree.follow]
    split at h
    · cases h
    · cases h
    · split at h
      · cases h
      · next hlong =>
        simp only [hlong, if_false]
        exact follow_concat h

/-- The text of a path without its last name is the start of the path's text, or a single dot. -/
theorem toString_concat (root : Nat) (names : List String) (name : String) :
    (FilePath.mk root names).toString = "." ∨
      ∃ tail, (FilePath.mk root (names ++ [name])).toString =
        (FilePath.mk root names).toString ++ tail := by
  unfold FilePath.toString
  by_cases hnames : names = []
  · subst hnames
    by_cases hroot : root = 0
    · exact Or.inl (by simp [hroot])
    · exact Or.inr ⟨name, by simp [hroot]⟩
  · refine Or.inr ⟨"/" ++ name, ?_⟩
    simp [hnames, String.intercalate_append_of_ne_nil, String.append_assoc]

/-- **What a path leads to lies in a directory.** -/
theorem locate_parent {p : FilePath} {l : Location} (hnames : p.names ≠ [])
    (h : t.locate p = .ok l) : ∃ d, t.entry p.parent = .ok (d, .directory) := by
  obtain ⟨root, names⟩ := p
  obtain ⟨names, name, rfl⟩ := List.eq_nil_or_concat names |>.resolve_left hnames
  rw [List.concat_eq_append] at h
  have htext := toString_concat root names name
  unfold FileTree.locate at h
  simp only at h
  split at h
  · cases h
  split at h
  · cases h
  next hnul hlong =>
  obtain ⟨d, hfollow, hdir⟩ := follow_concat h
  -- the text of the directory is a start of the path's, so it passes the checks that this passed
  have hlocate : t.locate ⟨root, names⟩ = .ok d := by
    unfold FileTree.locate
    simp only
    rw [if_neg, if_neg]
    · exact hfollow
    · rcases htext with hdot | ⟨tail, htail⟩
      · rw [hdot]
        decide
      · rw [htail, String.utf8ByteSize_append] at hlong
        omega
    · rcases htext with hdot | ⟨tail, htail⟩
      · rw [hdot]
        decide
      · rw [htail] at hnul
        simp at hnul ⊢
        exact hnul.1
  refine ⟨d, entry_eq_ok_iff.2 ⟨?_, isDirectory_iff.1 hdir⟩⟩
  rw [FilePath.parent, List.concat_eq_append, List.dropLast_concat, hlocate]

/-! ## Making directories -/

/-- The tree with some directories made. -/
def withDirectories (t : FileTree) (made : List Location) : FileTree :=
  made.foldl (fun t l => t.put l .directory) t

theorem makeable_of_directory {p : FilePath} {d : Location} (h : t.entry p = .ok (d, .directory)) :
    t.makeable p = .error .fileExists := by
  obtain ⟨hlocate, hget⟩ := entry_eq_ok_iff.1 h
  rw [makeable, hlocate]
  show (if (t.get? d).isSome then _ else _) = _
  rw [hget]
  rfl

theorem settle_of_directory {p : FilePath} {d : Location} (h : t.entry p = .ok (d, .directory))
    (f : Fault) : t.settle p f = .ok () := by
  rw [settle, h]

/-- Where the directory is there, none is made. -/
theorem ensureDirectory_of_directory {p : FilePath} {d : Location}
    (h : t.entry p = .ok (d, .directory)) : t.ensureDirectory p = ([], .ok ()) := by
  obtain ⟨root, names⟩ := p
  rw [ensureDirectory]
  cases hnames : names.reverse with
  | nil => rfl
  | cons name outer =>
    obtain rfl : names = (name :: outer).reverse := by rw [← hnames, List.reverse_reverse]
    rw [ensureNames]
    simp only [makeable_of_directory h]
    rw [settle_of_directory h]

/-- The outermost of the directories that cannot be made is missing afterwards, and with it all
that would lie in it. -/
theorem not_directory_of_ensureNames {root : Nat} {f : Fault} : ∀ {names : List String},
    (t.ensureNames root names).2 = .error f → ∀ d,
      (t.withDirectories (t.ensureNames root names).1).entry ⟨root, names.reverse⟩ ≠
        .ok (d, .directory)
  | [], h, _ => by cases h
  | name :: outer, h, d => by
    intro hdir
    rw [ensureNames] at h hdir
    simp only at h hdir
    split at h
    · cases h
    · next hmake =>
      simp only [hmake] at hdir
      rcases hrec : t.ensureNames root outer with ⟨made, _ | _⟩
      -- the directory that it should lie in is missing, so nothing lies there
      · simp only [hrec] at h hdir
        obtain ⟨hlocate, -⟩ := entry_eq_ok_iff.1 hdir
        obtain ⟨d', hparent⟩ := locate_parent (by simp) hlocate
        rw [FilePath.parent, List.reverse_cons, List.dropLast_concat] at hparent
        have hnone := not_directory_of_ensureNames (by rw [hrec]) d'
        rw [hrec] at hnone
        exact hnone hparent
      -- the second attempt fails only where no directory is
      · cases hagain : (made.foldl (fun t l => t.put l .directory) t).makeable
            ⟨root, (name :: outer).reverse⟩ with
        | ok l =>
          simp only [hrec, hagain] at h
          cases h
        | error g =>
          simp only [hrec, hagain] at h hdir
          cases (settle_of_directory hdir g).symm.trans h
    · next g hne hmake =>
      simp only [hmake] at hdir
      cases (settle_of_directory hdir g).symm.trans h

/-- **Where making the directory fails, there is none afterwards.** -/
theorem not_directory_of_ensureDirectory {p : FilePath} {f : Fault}
    (h : (t.ensureDirectory p).2 = .error f) (d : Location) :
    (t.withDirectories (t.ensureDirectory p).1).entry p ≠ .ok (d, .directory) := by
  have hnames := not_directory_of_ensureNames h d
  rwa [List.reverse_reverse] at hnames

end CommandBook.FileTree
