import CommandBook.Proofs.Effect
import CommandBook.Proofs.Session.Text

/-!
# Saving and loading

A session file that was saved is loaded as what was saved. Saving makes the directories on the way,
then writes once; where it stops, there was no file and there is none afterwards, so a session is
never lost by half.

## Main statements

* `find?_save`, `load_save` — what lies at the path after saving
* `bytes?_of_save_error` — saving that stops leaves no file where none was
* `load_congr` — loading depends on nothing but what lies at the path
* `save_result_congr` — whether saving stops does not depend on what is saved
-/

namespace CommandBook

namespace FileTree

variable {t : FileTree}

theorem find?_eq_none_of_missing {p : FilePath} {l : Location} (h : t.locate p = .ok l)
    (hl : t.get? l = none) : t.find? p = .ok none := by
  have hentry : t.entry p = .error .fileMissing := by
    rw [entry_of_locate h, hl]
  rw [find?, hentry]

theorem writable_eq_ok_iff {p : FilePath} {l : Location} :
    t.writable p = .ok l ↔ t.locate p = .ok l ∧ t.isDirectory l = false := by
  unfold writable
  cases hlocate : t.locate p with
  | error f =>
    show Except.error f = _ ↔ _
    simp
  | ok l' =>
    show (if t.isDirectory l' then Except.error _ else .ok l') = _ ↔ _
    split
    · next h =>
      simp only [reduceCtorEq, Except.ok.injEq, false_iff, not_and, Bool.not_eq_false]
      rintro rfl
      exact h
    · next h =>
      simp only [Except.ok.injEq, iff_self_and]
      rintro rfl
      simpa using h

end FileTree

namespace SessionStore

variable {store : SessionStore} {files files' : FileTree} {session : Session} {scope : Scope}

/-! ## Loading -/

/-- Loading depends on nothing but what lies at the path. -/
theorem load_eq (store : SessionStore) (files : FileTree) : store.load files =
    match files.find? store.path with
    | .error f => .error (.fault f)
    | .ok none => .ok .empty
    | .ok (some (_, .directory)) => .error (.fault .isDirectory)
    | .ok (some (_, .file content)) => Stop.ofFault (FileTree.decode content) >>= store.parse := by
  rw [load]
  cases hfind : files.find? store.path with
  | error f => rfl
  | ok found =>
    cases found with
    | none => rfl
    | some e =>
      have hentry := FileTree.find?_eq_some_iff.1 hfind
      obtain ⟨l, _ | content⟩ := e
      · show Stop.ofFault (files.readText store.path) >>= store.parse = _
        rw [FileTree.readText, hentry]
        rfl
      · show Stop.ofFault (files.readText store.path) >>= store.parse = _
        rw [FileTree.readText, hentry]
        rfl

theorem load_congr (h : files'.find? store.path = files.find? store.path) :
    store.load files' = store.load files := by
  rw [load_eq, load_eq, h]

/-- A file that holds the bytes of saved variables loads as those. -/
theorem load_of_find? {place : Location}
    (h : files.find? store.path = .ok (some (place, .file session.fileText.toUTF8))) :
    store.load files = .ok session := by
  rw [load_eq, h]
  show Stop.ofFault (FileTree.decode session.fileText.toUTF8) >>= store.parse = _
  rw [Session.decode_fileText]
  exact Session.parse_fileText store session

/-! ## Saving -/

/-- How saving can go: it stops while or after it makes directories, or writes. -/
theorem save_cases (store : SessionStore) (files : FileTree) (session : Session) :
    (∃ made f, files.ensureDirectory store.path.parent = (made, .error f) ∧
      store.save files session = ⟨made.map .makeDirectory, .error (.fault f)⟩) ∨
    (∃ made f, files.ensureDirectory store.path.parent = (made, .ok ()) ∧
      (files.withDirectories made).writable store.path = .error f ∧
      store.save files session = ⟨made.map .makeDirectory, .error (.fault f)⟩) ∨
    (∃ made place, files.ensureDirectory store.path.parent = (made, .ok ()) ∧
      (files.withDirectories made).writable store.path = .ok place ∧
      store.save files session =
        ⟨made.map .makeDirectory ++ [.write place session.fileText.toUTF8], .ok ()⟩) := by
  rcases hensure : files.ensureDirectory store.path.parent with ⟨made, f | ⟨⟩⟩
  · refine Or.inl ⟨made, f, rfl, ?_⟩
    rw [save, hensure]
    exact congrArg (Step.mk · _) (List.append_nil _)
  · have hsave : store.save files session =
        (Step.emitAll (made.map .makeDirectory)).bind fun _ =>
          (Step.ofExcept (Stop.ofFault ((files.withDirectories made).writable store.path))).bind
            fun place => .emit (.write place session.fileText.toUTF8) := by
      rw [save, hensure]
      rfl
    cases hwritable : (files.withDirectories made).writable store.path with
    | error f =>
      refine Or.inr (Or.inl ⟨made, f, rfl, hwritable, ?_⟩)
      rw [hsave, hwritable]
      exact congrArg (Step.mk · _) (List.append_nil _)
    | ok place =>
      refine Or.inr (Or.inr ⟨made, place, rfl, hwritable, ?_⟩)
      rw [hsave, hwritable]
      rfl

/-- **What was saved lies at the path**, and a later saving will find it there. -/
theorem find?_save (h : (store.save files session).result = .ok ()) : ∃ place,
    (Effect.applyAll files (store.save files session).effects).find? store.path =
      .ok (some (place, .file session.fileText.toUTF8)) := by
  rcases save_cases store files session with ⟨made, f, -, hsave⟩ | ⟨made, f, -, -, hsave⟩ |
    ⟨made, place, -, hwritable, hsave⟩
  · rw [hsave] at h
    cases h
  · rw [hsave] at h
    cases h
  · obtain ⟨hlocate, hdir⟩ := FileTree.writable_eq_ok_iff.1 hwritable
    refine ⟨place, ?_⟩
    rw [hsave, Effect.applyAll_append, Effect.applyAll_makeDirectory,
      FileTree.find?_eq_some_iff, FileTree.entry_eq_ok_iff]
    exact ⟨(FileTree.keeps_put_file hdir _).locate hlocate,
      FileTree.get?_put_self (FileTree.ne_nil_of_not_isDirectory hdir) _ _⟩

/-- **What was saved is loaded.** -/
theorem load_save (h : (store.save files session).result = .ok ()) :
    store.load (Effect.applyAll files (store.save files session).effects) = .ok session := by
  obtain ⟨place, hfind⟩ := find?_save h
  exact load_of_find? hfind

/-- Saving a scope stops where a number in it is too long, or saves its texts. -/
theorem saveScope_cases (store : SessionStore) (files : FileTree) (scope : Scope) :
    (Session.ofScope? scope = .error .numeralTooLong ∧
      store.saveScope files scope = ⟨[], .error (.fault .numeralTooLong)⟩) ∨
    (Session.ofScope? scope = .ok (Session.ofScope scope) ∧
      store.saveScope files scope = store.save files (Session.ofScope scope)) := by
  have hsave : store.saveScope files scope =
      (Step.ofExcept (Stop.ofFault (Session.ofScope? scope))).bind (store.save files) := rfl
  rw [hsave, Session.ofScope?]
  split
  · exact Or.inr ⟨rfl, rfl⟩
  · exact Or.inl ⟨rfl, rfl⟩

theorem find?_saveScope (h : (store.saveScope files scope).result = .ok ()) : ∃ place,
    (Effect.applyAll files (store.saveScope files scope).effects).find? store.path =
      .ok (some (place, .file (Session.ofScope scope).fileText.toUTF8)) := by
  rcases saveScope_cases store files scope with ⟨-, hsave⟩ | ⟨-, hsave⟩
  · rw [hsave] at h
    cases h
  · rw [hsave] at h ⊢
    exact find?_save h

/-- Saving makes directories and writes. -/
theorem emits_save {P : Effect → Prop} (hmake : ∀ l, P (.makeDirectory l))
    (hwrite : ∀ l content, P (.write l content)) (session : Session) :
    (store.save files session).Emits P := by
  have hmade : ∀ made : List Location, ∀ e ∈ made.map Effect.makeDirectory, P e := by
    intro made e he
    obtain ⟨l, -, rfl⟩ := List.mem_map.1 he
    exact hmake l
  rcases save_cases store files session with ⟨made, f, -, hsave⟩ | ⟨made, f, -, -, hsave⟩ |
    ⟨made, place, -, -, hsave⟩
  · rw [hsave]
    exact hmade made
  · rw [hsave]
    exact hmade made
  · rw [hsave]
    intro e he
    rcases List.mem_append.1 he with he | he
    · exact hmade made e he
    · rw [List.mem_singleton.1 he]
      exact hwrite place _

theorem emits_saveScope {P : Effect → Prop} (hmake : ∀ l, P (.makeDirectory l))
    (hwrite : ∀ l content, P (.write l content)) (scope : Scope) :
    (store.saveScope files scope).Emits P :=
  (Step.emits_ofExcept _).bind fun session _ => emits_save hmake hwrite session

/-! ## The bytes at the path -/

/-- The bytes of the session file, if there is one. -/
def bytes? (store : SessionStore) (files : FileTree) : Option ByteArray :=
  match files.find? store.path with
  | .ok (some (_, .file content)) => some content
  | _ => none

theorem bytes?_congr (h : files'.find? store.path = files.find? store.path) :
    store.bytes? files' = store.bytes? files := by
  rw [bytes?, bytes?, h]

theorem entry_of_bytes? {content : ByteArray} (h : store.bytes? files = some content) :
    ∃ place, files.entry store.path = .ok (place, .file content) := by
  unfold bytes? at h
  split at h
  · next place _ hfind =>
    cases h
    exact ⟨place, FileTree.find?_eq_some_iff.1 hfind⟩
  · cases h

/-- Where the path leads somewhere, its directory is there. -/
theorem ensureDirectory_of_locate {place : Location} (h : files.locate store.path = .ok place) :
    files.ensureDirectory store.path.parent = ([], .ok ()) := by
  by_cases hnames : store.path.names = []
  · rw [FileTree.ensureDirectory, FilePath.parent, hnames]
    rfl
  · obtain ⟨d, hd⟩ := FileTree.locate_parent hnames h
    exact FileTree.ensureDirectory_of_directory hd

/-- Where the path leads somewhere but not to a directory, saving writes and does nothing else. -/
theorem save_of_writable {place : Location} (h : files.writable store.path = .ok place) :
    store.save files session = ⟨[.write place session.fileText.toUTF8], .ok ()⟩ := by
  have hensure := ensureDirectory_of_locate (FileTree.writable_eq_ok_iff.1 h).1
  rcases save_cases store files session with ⟨made, f, hmade, -⟩ | ⟨made, f, hmade, hfail, -⟩ |
    ⟨made, place', hmade, hplace, hsave⟩
  · cases hensure.symm.trans hmade
  · cases hensure.symm.trans hmade
    cases h.symm.trans hfail
  · cases hensure.symm.trans hmade
    cases h.symm.trans hplace
    exact hsave

theorem writable_of_entry {place : Location} {content : ByteArray}
    (h : files.entry store.path = .ok (place, .file content)) :
    files.writable store.path = .ok place := by
  obtain ⟨hlocate, hget⟩ := FileTree.entry_eq_ok_iff.1 h
  refine FileTree.writable_eq_ok_iff.2 ⟨hlocate, ?_⟩
  rw [FileTree.isDirectory, hget]

theorem save_result_eq (store : SessionStore) (files : FileTree) (session : Session) :
    (store.save files session).result = Stop.ofFault
      (match files.ensureDirectory store.path.parent with
      | (_, .error f) => .error f
      | (made, .ok ()) =>
        ((files.withDirectories made).writable store.path).map fun _ => ()) := by
  rcases save_cases store files session with ⟨made, f, hmade, hsave⟩ |
    ⟨made, f, hmade, hfail, hsave⟩ | ⟨made, place, hmade, hplace, hsave⟩
  · rw [hsave, hmade]
    rfl
  · rw [hsave, hmade]
    simp only [hfail]
    rfl
  · rw [hsave, hmade]
    simp only [hplace]
    rfl

/-- Whether saving stops does not depend on what is saved. -/
theorem save_result_congr (store : SessionStore) (files : FileTree) (session session' : Session) :
    (store.save files session).result = (store.save files session').result := by
  rw [save_result_eq, save_result_eq]

/-- **Saving that stops leaves no file where none was**; where there was one, it does not stop. -/
theorem bytes?_of_save_error {e : Stop} (h : (store.save files session).result = .error e) :
    store.bytes? files = none ∧
      store.bytes? (Effect.applyAll files (store.save files session).effects) = none := by
  refine ⟨?_, ?_⟩
  -- a file at the path can be written over, so saving would not have stopped
  · cases hbytes : store.bytes? files with
    | none => rfl
    | some content =>
      obtain ⟨place, hentry⟩ := entry_of_bytes? hbytes
      rw [save_of_writable (writable_of_entry hentry)] at h
      cases h
  · cases hbytes : store.bytes? (Effect.applyAll files (store.save files session).effects) with
    | none => rfl
    | some content =>
      obtain ⟨place, hentry⟩ := entry_of_bytes? hbytes
      rcases save_cases store files session with ⟨made, f, hmade, hsave⟩ |
        ⟨made, f, hmade, hfail, hsave⟩ | ⟨made, place', -, -, hsave⟩
      -- a file would lie in a directory, and that is what could not be made
      · rw [hsave, Effect.applyAll_makeDirectory] at hentry
        by_cases hnames : store.path.names = []
        · rw [FileTree.ensureDirectory, FilePath.parent, hnames] at hmade
          cases hmade
        · obtain ⟨d, hd⟩ := FileTree.locate_parent hnames (FileTree.entry_eq_ok_iff.1 hentry).1
          have hnone := FileTree.not_directory_of_ensureDirectory (by rw [hmade]) d
          rw [hmade] at hnone
          exact absurd hd hnone
      · rw [hsave, Effect.applyAll_makeDirectory] at hentry
        cases hfail.symm.trans (writable_of_entry hentry)
      · rw [hsave] at h
        cases h

theorem bytes?_saveScope (h : (store.saveScope files scope).result = .ok ()) :
    store.bytes? (Effect.applyAll files (store.saveScope files scope).effects) =
      some (Session.ofScope scope).fileText.toUTF8 := by
  obtain ⟨place, hfind⟩ := find?_saveScope h
  rw [bytes?, hfind]

/-- **Saving a scope that stops leaves the bytes of the file as they were.** -/
theorem bytes?_saveScope_error {reason : Stop}
    (h : (store.saveScope files scope).result = .error reason) :
    store.bytes? (Effect.applyAll files (store.saveScope files scope).effects) =
      store.bytes? files := by
  rcases saveScope_cases store files scope with ⟨-, hsave⟩ | ⟨-, hsave⟩
  · rw [hsave]
    rfl
  · rw [hsave] at h ⊢
    obtain ⟨hbefore, hafter⟩ := bytes?_of_save_error h
    rw [hbefore, hafter]

/-- A tree with a file in the current directory where a path counted from there needs a
directory. -/
def blocked : FileTree := FileTree.write ⟨.empty, ["work"], ["home"]⟩ ["work", "blocked"] ""

/-- A path, counted from the current directory, below that file. -/
def blockedPath : FilePath := ⟨0, ["blocked", "s.json"]⟩

example : FilePath.ofString "blocked/s.json" = blockedPath := by decide +kernel

end SessionStore

end CommandBook
