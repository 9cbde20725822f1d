import CommandBook.Proofs.Json.RoundTrip
import CommandBook.Session

/-!
# The text of a session file

Saved variables come back from the text that is written for them, whatever characters their names
and values hold. The text is made of visible ASCII characters and line feeds, so neither the bytes
in the file nor the line ends that a reader unifies change it.

## Main statements

* `parse_fileText` — the text of a session file holds what was saved
* `decode_fileText` — so do its bytes
-/

namespace CommandBook.Session

open Json

/-! ## Saved variables as JSON -/

theorem haveIntegral_texts : ∀ entries : List (String × String),
    haveIntegral (entries.map fun e => (e.1, .str e.2))
  | [] => rfl
  | e :: rest => by
    rw [List.map_cons, haveIntegral, isIntegral, Bool.true_and]
    exact haveIntegral_texts rest

theorem isIntegral_toJson (session : Session) : isIntegral session.toJson := by
  rw [toJson, isIntegral]
  exact haveIntegral_texts session.entries

theorem mergedMembers_texts : ∀ entries : List (String × String),
    mergedMembers (entries.map fun e => (e.1, .str e.2)) = entries.map fun e => (e.1, .str e.2)
  | [] => rfl
  | e :: rest => by
    rw [List.map_cons, mergedMembers, merged, mergedMembers_texts rest]

theorem merged_toJson (session : Session) : merged session.toJson = session.toJson := by
  rw [toJson, merged_obj_of_nodup, mergedMembers_texts]
  rw [List.map_map]
  exact session.nodup

/-- The members of saved variables save those variables. -/
theorem ofMembers_toJson (session : Session) :
    ofMembers (session.entries.map fun e => (e.1, .str e.2)) = session := by
  have htexts : ∀ e : String × String, (e.1, textOf (.ofJson (.str e.2))) = e := fun _ => rfl
  rw [ofMembers, List.map_map]
  simp only [Function.comp_def, htexts, List.map_id']
  exact OrderedMap.ofList_entries session

/-- **The text of a session file holds what was saved.** -/
theorem parse_fileText (store : SessionStore) (session : Session) :
    store.parse session.fileText = .ok session := by
  rw [SessionStore.parse, fileText, read_renderIndented (isIntegral_toJson session), merged_toJson]
  exact congrArg _ (ofMembers_toJson session)

/-! ## The characters of the text -/

/-- The characters of a session file. -/
def IsWritten (c : Char) : Prop := IsVisible c ∨ c = '\n'

theorem isWritten_of_mem_newLine {level : Nat} {c : Char} (h : c ∈ newLine level) :
    IsWritten c := by
  rcases List.mem_cons.1 h with rfl | h
  · exact Or.inr rfl
  · rw [List.eq_of_mem_replicate h]
    exact Or.inl ⟨by decide, by decide⟩

theorem isWritten_of_mem_renderString {s : String} {c : Char} (h : c ∈ renderString s) :
    IsWritten c := by
  rw [renderString, List.cons_append, List.mem_cons, List.mem_append, List.mem_singleton,
    List.mem_flatMap] at h
  rcases h with rfl | ⟨d, -, h⟩ | rfl
  · exact Or.inl ⟨by decide, by decide⟩
  · exact Or.inl (isVisible_of_mem_escape h)
  · exact Or.inl ⟨by decide, by decide⟩

/-- One variable, as a member of the object. -/
theorem isWritten_of_mem_member {level : Nat} {name value : String} {c : Char}
    (h : c ∈ newLine level ++ renderString name ++ ':' :: ' ' :: renderString value) :
    IsWritten c := by
  rcases List.mem_append.1 h with h | h
  · rcases List.mem_append.1 h with h | h
    · exact isWritten_of_mem_newLine h
    · exact isWritten_of_mem_renderString h
  · rcases List.mem_cons.1 h with rfl | h
    · exact Or.inl ⟨by decide, by decide⟩
    rcases List.mem_cons.1 h with rfl | h
    · exact Or.inl ⟨by decide, by decide⟩
    · exact isWritten_of_mem_renderString h

theorem isWritten_of_mem_members {level : Nat} {c : Char} : ∀ {entries : List (String × String)},
    c ∈ indentedMembers level (entries.map fun e => (e.1, .str e.2)) → IsWritten c
  | [], h => absurd h List.not_mem_nil
  | e :: rest, h => by
    rw [List.map_cons, indentedMembers, List.mem_append] at h
    rcases h with h | h
    · rcases List.mem_cons.1 h with rfl | h
      · exact Or.inl ⟨by decide, by decide⟩
      · exact isWritten_of_mem_member h
    · exact isWritten_of_mem_members h

theorem isWritten_of_mem_fileText {session : Session} {c : Char}
    (h : c ∈ session.fileText.toList) : IsWritten c := by
  have hbrace : ∀ d ∈ ['\x7b', '\x7d'], IsWritten d := by
    intro d hd
    rcases List.mem_cons.1 hd with rfl | hd
    · exact Or.inl ⟨by decide, by decide⟩
    · rw [List.mem_singleton.1 hd]
      exact Or.inl ⟨by decide, by decide⟩
  rw [fileText, renderIndented, String.toList_ofList, toJson] at h
  cases hentries : session.entries with
  | nil =>
    rw [hentries, List.map_nil, indentedChars] at h
    exact hbrace c h
  | cons e rest =>
    rw [hentries, List.map_cons, indentedChars, List.mem_append, List.mem_append,
      List.mem_append] at h
    rcases h with ((h | h) | h) | h
    · rcases List.mem_cons.1 h with rfl | h
      · exact Or.inl ⟨by decide, by decide⟩
      · exact isWritten_of_mem_member h
    · exact isWritten_of_mem_members h
    · exact isWritten_of_mem_newLine h
    · exact hbrace c (List.mem_cons_of_mem _ h)

/-- **The bytes of a session file hold its text.** -/
theorem decode_fileText (session : Session) :
    FileTree.decode session.fileText.toUTF8 = .ok session.fileText := by
  have hutf8 : String.fromUTF8? session.fileText.toUTF8 = some session.fileText :=
    dif_pos session.fileText.isValidUTF8
  have hreturn : '\r' ∉ session.fileText.toList := fun h => by
    rcases isWritten_of_mem_fileText h with h | h
    · exact absurd h.1 (by decide)
    · exact absurd h (by decide)
  rw [FileTree.decode, hutf8]
  simp only [Text.unifyLineEnds_eq_self hreturn, String.ofList_toList]

end CommandBook.Session
