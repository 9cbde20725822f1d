import CommandBook.Proofs.Session.Store

/-!
# A store remembers like a map in memory

The operations on a store answer like those on an ordered map that is held in memory: what was
saved last is loaded, in the same order and as texts, until it is cleared; and loading never stops.
This takes a place where a file can be written: where a first saving stops, a store forgets what it
was given, and where it does not, no later one does. So the condition is exact.

A step of either answers the same and keeps `Represents`, from which the whole run follows.

## Main statements

* `perform_represents` — one operation
* `answers_eq_iff` — any sequence of operations
-/

namespace CommandBook

/-- What can be done with a store. -/
inductive SessionStore.Operation where
  | load
  | save (mapping : Scope)
  | clear

/-- What an operation answers. -/
inductive SessionStore.Outcome where
  | loaded (session : Session)
  | saved
  | cleared (found : Bool)
  | stopped (reason : Stop)

/-- One operation on the file of a store. -/
def SessionStore.perform (store : SessionStore) (files : FileTree) : Operation → Outcome × FileTree
  | .load =>
    match store.load files with
    | .ok session => (.loaded session, files)
    | .error reason => (.stopped reason, files)
  | .save mapping =>
    let step := store.saveScope files mapping
    let files := Effect.applyAll files step.effects
    match step.result with
    | .ok () => (.saved, files)
    | .error reason => (.stopped reason, files)
  | .clear =>
    match store.clear files with
    | .ok none => (.cleared false, files)
    | .ok (some place) => (.cleared true, files.remove place)
    | .error reason => (.stopped reason, files)

/-- The answers to a row of operations on the file of a store. -/
def SessionStore.answers (store : SessionStore) : FileTree → List Operation → List Outcome
  | _, [] => []
  | files, op :: ops =>
    (store.perform files op).1 :: store.answers (store.perform files op).2 ops

/-- What was saved last, unless it was cleared. -/
abbrev Memory := Option Session

namespace Memory

open SessionStore

/-- One operation in memory: values are kept as texts, and null as the empty one. A mapping with a
number that is too long to write is refused. -/
def perform (memory : Memory) : Operation → Outcome × Memory
  | .load => (.loaded (memory.getD .empty), memory)
  | .save mapping =>
    match Session.ofScope? mapping with
    | .ok session => (.saved, some session)
    | .error f => (.stopped (.fault f), memory)
  | .clear => (.cleared memory.isSome, none)

/-- The answers to a row of operations in memory. -/
def answers : Memory → List Operation → List Outcome
  | _, [] => []
  | memory, op :: ops => (memory.perform op).1 :: answers (memory.perform op).2 ops

end Memory

namespace SessionStore

variable {store : SessionStore} {files : FileTree}

/-- The file of a store holds what a memory holds. Where there is no file, one can be written. -/
def Represents (store : SessionStore) (files : FileTree) : Memory → Prop
  | none => files.find? store.path = .ok none ∧ (store.save files .empty).result = .ok ()
  | some session =>
    ∃ place, files.find? store.path = .ok (some (place, .file session.fileText.toUTF8))

theorem load_of_represents : ∀ {memory : Memory}, Represents store files memory →
    store.load files = .ok (memory.getD .empty)
  | none, h => by
    rw [load_eq, h.1]
    rfl
  | some session, h => by
    obtain ⟨place, hfind⟩ := h
    exact load_of_find? hfind

/-- Where a memory is represented, saving goes well. -/
theorem save_of_represents (session : Session) : ∀ {memory : Memory},
    Represents store files memory → (store.save files session).result = .ok ()
  | none, h => (save_result_congr store files session .empty).trans h.2
  | some _, h => by
    obtain ⟨place, hfind⟩ := h
    rw [save_of_writable (writable_of_entry (FileTree.find?_eq_some_iff.1 hfind))]

/-- After clearing there is no file, and one can be written where it was. -/
theorem represents_remove {place : Location} {content : ByteArray}
    (h : files.find? store.path = .ok (some (place, .file content))) :
    Represents store (files.remove place) none := by
  have hwritable := writable_of_entry (FileTree.find?_eq_some_iff.1 h)
  obtain ⟨hlocate, hdir⟩ := FileTree.writable_eq_ok_iff.1 hwritable
  have hplace := FileTree.ne_nil_of_not_isDirectory hdir
  have hstays := (FileTree.keeps_remove hdir).locate hlocate
  have hgone : (files.remove place).get? place = none := by
    rw [FileTree.get?_remove hplace, if_pos (beq_self_eq_true place)]
  refine ⟨FileTree.find?_eq_none_of_missing hstays hgone, ?_⟩
  rw [save_of_writable (FileTree.writable_eq_ok_iff.2 ⟨hstays, ?_⟩)]
  rw [FileTree.isDirectory, hgone]

/-- **One operation** answers as in memory, and the file goes on holding what the memory holds. -/
theorem perform_represents {memory : Memory} (h : Represents store files memory) (op : Operation) :
    (store.perform files op).1 = (memory.perform op).1 ∧
      Represents store (store.perform files op).2 (memory.perform op).2 := by
  cases op with
  | load =>
    rw [perform, Memory.perform, load_of_represents h]
    exact ⟨rfl, h⟩
  | save mapping =>
    simp only [perform, Memory.perform]
    -- a mapping without texts is refused by both, any other is kept by both
    rcases saveScope_cases store files mapping with ⟨htexts, hsave⟩ | ⟨htexts, hsave⟩
    · rw [hsave, htexts]
      exact ⟨rfl, h⟩
    · have hok := save_of_represents (Session.ofScope mapping) h
      rw [hsave, htexts, hok]
      exact ⟨rfl, find?_save hok⟩
  | clear =>
    cases memory with
    | none =>
      simp only [perform, Memory.perform, clear, h.1]
      exact ⟨rfl, h⟩
    | some session =>
      obtain ⟨place, hfind⟩ := h
      simp only [perform, Memory.perform, clear, hfind]
      exact ⟨rfl, represents_remove hfind⟩

theorem answers_eq_of_represents : ∀ (ops : List Operation) {files : FileTree} {memory : Memory},
    Represents store files memory → store.answers files ops = memory.answers ops
  | [], _, _, _ => rfl
  | op :: ops, _, _, h => by
    obtain ⟨hanswer, hnext⟩ := perform_represents h op
    rw [answers, Memory.answers, hanswer, answers_eq_of_represents ops hnext]

/-- **A store whose file is absent remembers like a map in memory**, whatever the operations, if
and only if a first saving at its path goes well. -/
theorem answers_eq_iff (h : files.find? store.path = .ok none) :
    (∀ ops, store.answers files ops = Memory.answers none ops) ↔
      (store.save files .empty).result = .ok () := by
  constructor
  -- in memory saving an empty mapping goes well
  · intro hops
    have hfirst : (store.perform files (.save .empty)).1 = .saved :=
      (List.cons.inj (hops [.save .empty])).1
    rw [perform] at hfirst
    split at hfirst
    · assumption
    · cases hfirst
  · intro hsave ops
    exact answers_eq_of_represents ops ⟨h, hsave⟩

/-- A store in the root directory. -/
theorem answers_eq_of_root :
    FileTree.find? ⟨.empty, [], []⟩ (FilePath.absolute ["session.json"]) = .ok none ∧
      ∀ ops, answers ⟨.absolute ["session.json"]⟩ ⟨.empty, [], []⟩ ops = Memory.answers none ops :=
  ⟨rfl, (answers_eq_iff rfl).2 rfl⟩

/-- A path whose directory cannot be made: what is saved is not loaded. -/
theorem answers_blocked_ne :
    blocked.find? blockedPath = .ok none ∧
      ¬∀ ops, answers ⟨blockedPath⟩ blocked ops = Memory.answers none ops := by
  refine ⟨rfl, fun h => ?_⟩
  have hops := h [.save (.ofList [("a", .str "b")]), .load]
  have hfile : answers ⟨blockedPath⟩ blocked [.save (.ofList [("a", .str "b")]), .load] =
      [.stopped (.fault .fileExists), .loaded .empty] := rfl
  have hmemory : Memory.answers none [.save (.ofList [("a", .str "b")]), .load] =
      [.saved, .loaded (.ofList [("a", "b")])] := rfl
  rw [hfile, hmemory] at hops
  cases hops

end SessionStore

end CommandBook
