import CommandBook.CommandLine.Dispatch
import CommandBook.Proofs.Json.Recognition
import CommandBook.Proofs.Session.Store

/-!
# What a session file may hold

A session file is bytes, and what becomes of them when they are loaded depends on nothing but what
they are: an object of JSON gives its members as texts, another value or no value at all is
reported, and two things escape as faults, bytes that are no text and an integer that is too long.
The four are told apart by the grammar of JSON, not by the reader.

## Main definitions

* `HasText`, `Holds`, `HoldsLongInteger` — what bytes are

## Main statements

* `load_file` — what becomes of a session file, for any bytes in it
* `finish_invoke_of_stop`, `finish_showSession_of_stop` — what is reported ends with status 1
-/

namespace CommandBook

open Json (IsText MeetsLongInteger)

/-! ## Bytes -/

/-- Bytes in UTF-8 with the text that they hold, its line ends unified. -/
def HasText (content : ByteArray) (cs : List Char) : Prop :=
  ∃ s, String.fromUTF8? content = some s ∧ Text.unifyLineEnds s.toList = cs

/-- Bytes that hold a value of JSON. -/
def Holds (content : ByteArray) (v : Json) : Prop := ∃ cs, HasText content cs ∧ IsText cs v

/-- Bytes that hold an integer that is too long where a value of JSON is due. -/
def HoldsLongInteger (content : ByteArray) : Prop :=
  ∃ cs, HasText content cs ∧ MeetsLongInteger cs

section Bytes
variable {content : ByteArray} {cs : List Char} {v : Json}

theorem decode_eq_ok_iff_hasText :
    FileTree.decode content = .ok (String.ofList cs) ↔ HasText content cs := by
  rw [FileTree.decode_eq_ok_iff]
  constructor
  · rintro ⟨s, hs, htext⟩
    exact ⟨s, hs, String.ofList_injective htext⟩
  · rintro ⟨s, hs, htext⟩
    exact ⟨s, hs, congrArg String.ofList htext⟩

/-- A text is one text only. -/
theorem HasText.eq {ds : List Char} (h : HasText content cs) (h' : HasText content ds) :
    cs = ds := by
  obtain ⟨s, hs, rfl⟩ := h
  obtain ⟨t, ht, rfl⟩ := h'
  rw [Option.some.inj (hs.symm.trans ht)]

/-- Bytes are no text, or the text that they hold is read. -/
theorem hasText_or (content : ByteArray) :
    String.fromUTF8? content = none ∨ ∃ cs, HasText content cs := by
  cases hcontent : String.fromUTF8? content with
  | none => exact Or.inl rfl
  | some s => exact Or.inr ⟨_, s, hcontent, rfl⟩

theorem HasText.ne_none (h : HasText content cs) : String.fromUTF8? content ≠ none := by
  obtain ⟨s, hs, -⟩ := h
  rw [hs]
  exact Option.some_ne_none s

theorem holds_iff (h : HasText content cs) : Holds content v ↔ Json.readChars cs = .ok v := by
  rw [Json.readChars_eq_ok_iff]
  constructor
  · rintro ⟨ds, hds, hv⟩
    rwa [h.eq hds]
  · exact fun hv => ⟨cs, h, hv⟩

theorem holdsLongInteger_iff (h : HasText content cs) :
    HoldsLongInteger content ↔ Json.readChars cs = .error .numeralTooLong := by
  rw [Json.readChars_eq_tooLong_iff]
  constructor
  · rintro ⟨ds, hds, hlong⟩
    rwa [h.eq hds]
  · exact fun hlong => ⟨cs, h, hlong⟩

end Bytes

namespace SessionStore

variable {store : SessionStore} {files : FileTree} {place : Location} {content : ByteArray}
  {cs : List Char}

/-! ## Loading a file -/

theorem load_of_not_utf8 (h : files.find? store.path = .ok (some (place, .file content)))
    (hcontent : String.fromUTF8? content = none) :
    store.load files = .error (.fault .notUtf8) := by
  rw [load_eq, h]
  simp only [FileTree.decode_eq_error_iff.2 ⟨rfl, hcontent⟩]
  rfl

theorem load_of_hasText (h : files.find? store.path = .ok (some (place, .file content)))
    (hcontent : HasText content cs) : store.load files = store.parse (String.ofList cs) := by
  rw [load_eq, h]
  simp only [decode_eq_ok_iff_hasText.2 hcontent]
  rfl

/-- The text of a session file, by what is read of it. -/
theorem parse_ofList (store : SessionStore) (cs : List Char) :
    (∃ members, Json.readChars cs = .ok (.obj members) ∧
      store.parse (String.ofList cs) = .ok (Session.ofMembers members)) ∨
    (∃ v, Json.readChars cs = .ok v ∧ (∀ members, v ≠ .obj members) ∧
      store.parse (String.ofList cs) = .error (.session (.notAnObject store.path.toString))) ∨
    (∃ cause offset, Json.readChars cs = .error (.malformed cause offset) ∧
      store.parse (String.ofList cs) =
        .error (.session (.notJson store.path.toString (.locate cause cs offset)))) ∨
    (Json.readChars cs = .error .numeralTooLong ∧
      store.parse (String.ofList cs) = .error (.fault .numeralTooLong)) := by
  unfold parse Json.read
  rw [String.toList_ofList]
  cases hread : Json.readChars cs with
  | ok v =>
    cases v with
    | obj members => exact Or.inl ⟨members, rfl, rfl⟩
    | _ => exact Or.inr (Or.inl ⟨_, rfl, fun _ => Json.noConfusion, rfl⟩)
  | error e =>
    cases e with
    | malformed cause offset => exact Or.inr (Or.inr (Or.inl ⟨cause, offset, rfl, rfl⟩))
    | numeralTooLong => exact Or.inr (Or.inr (Or.inr ⟨rfl, rfl⟩))

section File
variable {session : Session} {path : String} {f : Fault}
  (h : files.find? store.path = .ok (some (place, .file content)))
include h

/-- An object of JSON is loaded, and nothing else is. -/
theorem load_file_eq_ok_iff : store.load files = .ok session ↔
    ∃ members, Holds content (.obj members) ∧ session = Session.ofMembers members := by
  rcases hasText_or content with hnone | ⟨cs, hcs⟩
  · rw [load_of_not_utf8 h hnone]
    refine iff_of_false (by simp) ?_
    rintro ⟨members, ⟨cs, hcs, -⟩, -⟩
    exact hcs.ne_none hnone
  · simp only [load_of_hasText h hcs, holds_iff hcs]
    rcases parse_ofList store cs with ⟨members, hread, hparse⟩ | ⟨v, hread, hv, hparse⟩ |
      ⟨cause, offset, hread, hparse⟩ | ⟨hread, hparse⟩
    · simp [hread, hparse, eq_comm]
    · simp [hread, hparse, hv]
    · simp [hread, hparse]
    · simp [hread, hparse]

/-- A value that is no object is reported as such. -/
theorem load_file_eq_notAnObject_iff :
    store.load files = .error (.session (.notAnObject path)) ↔
      path = store.path.toString ∧ ∃ v, Holds content v ∧ ∀ members, v ≠ .obj members := by
  rcases hasText_or content with hnone | ⟨cs, hcs⟩
  · rw [load_of_not_utf8 h hnone]
    refine iff_of_false (by simp) ?_
    rintro ⟨-, v, ⟨cs, hcs, -⟩, -⟩
    exact hcs.ne_none hnone
  · simp only [load_of_hasText h hcs, holds_iff hcs]
    rcases parse_ofList store cs with ⟨members, hread, hparse⟩ | ⟨v, hread, hv, hparse⟩ |
      ⟨cause, offset, hread, hparse⟩ | ⟨hread, hparse⟩
    · simp [hread, hparse]
    · simp [hread, hparse, hv, eq_comm]
    · simp [hread, hparse]
    · simp [hread, hparse]

/-- A text that is no value is reported with what is wrong and where, unless an integer in it is too
long. -/
theorem load_file_eq_notJson_iff :
    (∃ problem, store.load files = .error (.session (.notJson path problem))) ↔
      path = store.path.toString ∧ (∃ cs, HasText content cs) ∧ (∀ v, ¬ Holds content v) ∧
        ¬ HoldsLongInteger content := by
  rcases hasText_or content with hnone | ⟨cs, hcs⟩
  · rw [load_of_not_utf8 h hnone]
    refine iff_of_false (by simp) ?_
    rintro ⟨-, ⟨cs, hcs⟩, -⟩
    exact hcs.ne_none hnone
  · have htext : ∃ cs, HasText content cs := ⟨cs, hcs⟩
    simp only [load_of_hasText h hcs, holds_iff hcs, holdsLongInteger_iff hcs, htext]
    rcases parse_ofList store cs with ⟨members, hread, hparse⟩ | ⟨v, hread, hv, hparse⟩ |
      ⟨cause, offset, hread, hparse⟩ | ⟨hread, hparse⟩
    · simp [hread, hparse]
    · simp [hread, hparse]
    · simp [hread, hparse, eq_comm]
    · simp [hread, hparse]

/-- Two things escape: bytes that are no text, and an integer that is too long. -/
theorem load_file_eq_fault_iff : store.load files = .error (.fault f) ↔
    f = .notUtf8 ∧ String.fromUTF8? content = none ∨
      f = .numeralTooLong ∧ HoldsLongInteger content := by
  rcases hasText_or content with hnone | ⟨cs, hcs⟩
  · have hlong : ¬ HoldsLongInteger content := fun ⟨cs, hcs, _⟩ => hcs.ne_none hnone
    simp [load_of_not_utf8 h hnone, hnone, hlong, eq_comm]
  · simp only [load_of_hasText h hcs, holdsLongInteger_iff hcs, hcs.ne_none]
    rcases parse_ofList store cs with ⟨members, hread, hparse⟩ | ⟨v, hread, hv, hparse⟩ |
      ⟨cause, offset, hread, hparse⟩ | ⟨hread, hparse⟩
    · simp [hread, hparse]
    · simp [hread, hparse]
    · simp [hread, hparse]
    · simp [hread, hparse, eq_comm]

end File

/-! ## Command lines -/

section Host
variable {host : Host} {settings : Settings} {stop : Stop}

/-- A definition is not run when loading the session stops. -/
theorem finish_invoke_of_stop
    (h : (CommandLine.storeOf host settings).load host.files = .error stop)
    (loaded : CommandLine.Loaded) (definition : CommandDefinition)
    (values : OrderedMap String String) :
    Ending.finish (CommandLine.invoke host settings loaded definition values) =
      ⟨(Ending.ofStop stop).effects, (Ending.ofStop stop).status⟩ := by
  have hrun : CommandLine.invoke host settings loaded definition values =
      .stop (Ending.ofStop stop) := by
    rw [CommandLine.invoke, Invocation.run, h]
    rfl
  rw [hrun]
  rfl

theorem finish_showSession_of_stop (h : store.load host.files = .error stop) :
    Ending.finish (CommandLine.showSession host store) =
      ⟨(Ending.ofStop stop).effects, (Ending.ofStop stop).status⟩ := by
  rw [CommandLine.showSession, h]
  rfl

end Host

/-- **What becomes of a session file**, for any bytes in it. An object of JSON is loaded as its
members, as texts; another value, and a text that is none, is reported as an error, by which a
command line ends with status 1. Bytes that are no text and an integer that is too long escape. -/
theorem load_file (h : files.find? store.path = .ok (some (place, .file content))) :
    (∀ session, store.load files = .ok session ↔
      ∃ members, Holds content (.obj members) ∧ session = Session.ofMembers members) ∧
    (∀ path, store.load files = .error (.session (.notAnObject path)) ↔
      path = store.path.toString ∧ ∃ v, Holds content v ∧ ∀ members, v ≠ .obj members) ∧
    (∀ path, (∃ problem, store.load files = .error (.session (.notJson path problem))) ↔
      path = store.path.toString ∧ (∃ cs, HasText content cs) ∧ (∀ v, ¬ Holds content v) ∧
        ¬ HoldsLongInteger content) ∧
    (∀ f, store.load files = .error (.fault f) ↔
      f = .notUtf8 ∧ String.fromUTF8? content = none ∨
        f = .numeralTooLong ∧ HoldsLongInteger content) ∧
    ∀ e, store.load files = .error (.session e) → ∀ host settings, host.files = files →
      CommandLine.storeOf host settings = store →
        Ending.finish (CommandLine.showSession host store) =
          ⟨[.err ("Error: " ++ e.message)], .ok 1⟩ ∧
        ∀ loaded definition values,
          Ending.finish (CommandLine.invoke host settings loaded definition values) =
            ⟨[.err ("Error: " ++ e.message)], .ok 1⟩ := by
  refine ⟨fun _ => load_file_eq_ok_iff h, fun _ => load_file_eq_notAnObject_iff h,
    fun _ => load_file_eq_notJson_iff h, fun _ => load_file_eq_fault_iff h, ?_⟩
  rintro e hload host settings rfl rfl
  exact ⟨finish_showSession_of_stop hload, finish_invoke_of_stop hload⟩

/-- A directory in which a session file lies. -/
def filesWith (content : ByteArray) : FileTree :=
  FileTree.put ⟨.empty, [], ["home"]⟩ ["s.json"] (.file content)

/-- The store of that file. -/
def nearby : SessionStore := ⟨.ofString "s.json"⟩

theorem find?_filesWith (content : ByteArray) :
    (filesWith content).find? nearby.path = .ok (some (["s.json"], .file content)) := rfl

/-- A file with one member is loaded, and its null as an empty text. -/
theorem load_file_null :
    nearby.load (filesWith "\x7b\"n\": null\r\n\x7d".toUTF8) = .ok (.ofList [("n", "")]) := by
  have hname : Json.StringText ['n'] [110] := .plain (by decide) (by decide) (by decide) .nil
  have hnull : Json.ValueText ['n', 'u', 'l', 'l'] .null := .word (by simp [Json.words])
  have hgap : Json.IsGapRow [' '] := List.forall_mem_singleton.2 rfl
  have hend : Json.IsGapRow ['\n'] := List.forall_mem_singleton.2 rfl
  have hmember := Json.MembersText.one (.mk Json.isGapRow_nil hname Json.isGapRow_nil) hgap hnull
    hend
  have hobject := Json.IsText.mk Json.isGapRow_nil (.members hmember) Json.isGapRow_nil
  have htext : HasText "\x7b\"n\": null\r\n\x7d".toUTF8 "\x7b\"n\": null\n\x7d".toList :=
    ⟨"\x7b\"n\": null\r\n\x7d", dif_pos (String.isValidUTF8 _), rfl⟩
  exact ((load_file (find?_filesWith _)).1 _).2 ⟨_, ⟨_, htext, hobject⟩, rfl⟩

/-- A byte that stands in no text is neither loaded nor reported. -/
theorem load_ne_reported_of_byte : ¬ ∀ (store : SessionStore) (files : FileTree) (place : Location)
    (content : ByteArray), files.find? store.path = .ok (some (place, .file content)) →
      (∃ session, store.load files = .ok session) ∨
        ∃ e, store.load files = .error (.session e) := by
  intro hreported
  have hload : nearby.load (filesWith ⟨#[0xff]⟩) = .error (.fault .notUtf8) :=
    load_of_not_utf8 (find?_filesWith _) rfl
  rcases hreported nearby _ _ _ (find?_filesWith ⟨#[0xff]⟩) with ⟨session, h⟩ | ⟨e, h⟩
  · rw [hload] at h
    cases h
  · rw [hload] at h
    cases h

end SessionStore

end CommandBook
