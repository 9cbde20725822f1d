/-!
# Maps that keep the order of insertion

A key keeps the place where it first appeared; writing it again replaces its value only. The
operations come in two layers: on plain lists of entries, for values that hold such lists inside
them, and on `OrderedMap`, whose keys are known to be distinct.

## Main statements

* `lookup_insertEntry` — writing changes the value of one key
* `keys_insertEntry` — a new key goes to the end, a known one keeps its place
* `insertEntries_eq`, `OrderedMap.entries_union` — which entries keep their places
* `insertEntries_eq_append` — entries with new and distinct keys go to the end
* `OrderedMap.get?_insert`, `OrderedMap.get?_union` — the same through the map
* `OrderedMap.entries_ofList`, `OrderedMap.ofList_entries` — the map that entries write
* `OrderedMap.eq_of_keys_of_get?` — what makes two maps equal
-/

namespace CommandBook

/-! ## Lists of entries -/

/-- Writes a value: in place when the key is there already, at the end otherwise. -/
def insertEntry {α β : Type} [BEq α] (k : α) (v : β) : List (α × β) → List (α × β)
  | [] => [(k, v)]
  | (k', v') :: rest => if k' == k then (k', v) :: rest else (k', v') :: insertEntry k v rest

/-- Writes a row of entries in order. -/
def insertEntries {α β : Type} [BEq α] (base extra : List (α × β)) : List (α × β) :=
  extra.foldl (fun acc e => insertEntry e.1 e.2 acc) base

section Entries
variable {α β : Type} [BEq α] [LawfulBEq α]

theorem lookup_insertEntry (k j : α) (v : β) (es : List (α × β)) :
    (insertEntry k v es).lookup j = if j == k then some v else es.lookup j := by
  induction es with
  | nil => by_cases h : j == k <;> simp [insertEntry, List.lookup_cons, h]
  | cons e rest ih =>
    obtain ⟨k', v'⟩ := e
    rw [insertEntry]
    by_cases hk : k' == k
    · obtain rfl := eq_of_beq hk
      by_cases hj : j == k' <;> simp [List.lookup_cons, hj]
    · simp only [hk, Bool.false_eq_true, ↓reduceIte]
      by_cases hj : j == k'
      · obtain rfl := eq_of_beq hj
        simp [hk]
      · simp only [List.lookup_cons, hj, ih]

theorem lookup_of_not_mem {k : α} {es : List (α × β)} (h : k ∉ es.map Prod.fst) :
    es.lookup k = none := by
  rw [List.lookup_eq_none_iff]
  intro e he
  have hne : k ≠ e.1 := fun heq => h (heq ▸ List.mem_map_of_mem he)
  simpa using hne

theorem keys_insertEntry (k : α) (v : β) (es : List (α × β)) :
    (insertEntry k v es).map Prod.fst =
      if k ∈ es.map Prod.fst then es.map Prod.fst else es.map Prod.fst ++ [k] := by
  induction es with
  | nil => simp [insertEntry]
  | cons e rest ih =>
    obtain ⟨k', v'⟩ := e
    rw [insertEntry]
    by_cases hk : k' == k
    · obtain rfl := eq_of_beq hk
      simp
    · have hne : k ≠ k' := fun h => hk (by simp [h])
      simp only [hk, Bool.false_eq_true, ↓reduceIte, List.map_cons, ih, List.mem_cons, hne,
        false_or]
      split <;> simp

theorem nodup_keys_insertEntry {k : α} {v : β} {es : List (α × β)}
    (h : (es.map Prod.fst).Nodup) : ((insertEntry k v es).map Prod.fst).Nodup := by
  rw [keys_insertEntry]
  split
  · exact h
  · rename_i hk
    rw [List.nodup_append]
    refine ⟨h, by simp, ?_⟩
    intro a ha b hb
    simp only [List.mem_singleton] at hb
    rintro rfl
    exact hk (hb ▸ ha)

/-- Writing brings in no entry but the one that is written. -/
theorem eq_or_mem_of_mem_insertEntry {k : α} {v : β} {e : α × β} {es : List (α × β)}
    (h : e ∈ insertEntry k v es) : e = (k, v) ∨ e ∈ es := by
  induction es with
  | nil => exact Or.inl (List.mem_singleton.1 h)
  | cons e' rest ih =>
    obtain ⟨k', v'⟩ := e'
    rw [insertEntry] at h
    split at h
    · next hk =>
      obtain rfl := eq_of_beq hk
      exact (List.mem_cons.1 h).imp_right (List.mem_cons_of_mem _)
    · rcases List.mem_cons.1 h with rfl | h
      · exact Or.inr List.mem_cons_self
      · exact (ih h).imp_right (List.mem_cons_of_mem _)

/-- A new key goes to the end. -/
theorem insertEntry_of_not_mem {k : α} {v : β} {es : List (α × β)} (h : k ∉ es.map Prod.fst) :
    insertEntry k v es = es ++ [(k, v)] := by
  induction es with
  | nil => rfl
  | cons e rest ih =>
    obtain ⟨k', v'⟩ := e
    simp only [List.map_cons, List.mem_cons, not_or] at h
    rw [insertEntry, if_neg (by simpa using Ne.symm h.1), ih h.2, List.cons_append]

/-- Writing changes the entry of a key that is there, and else brings one in at the end. -/
theorem insertEntry_eq {k : α} {v : β} {es : List (α × β)} (h : (es.map Prod.fst).Nodup) :
    insertEntry k v es = es.map (fun e => (e.1, if e.1 == k then v else e.2)) ++
      if k ∈ es.map Prod.fst then [] else [(k, v)] := by
  induction es with
  | nil => simp [insertEntry]
  | cons e rest ih =>
    obtain ⟨k', v'⟩ := e
    rw [List.map_cons, List.nodup_cons] at h
    rw [insertEntry]
    by_cases hk : k' == k
    · -- the key is not among the others, which stay
      obtain rfl := eq_of_beq hk
      have hrest : rest.map (fun e => (e.1, if e.1 == k' then v else e.2)) = rest := by
        refine (List.map_congr_left fun e he => ?_).trans (List.map_id rest)
        have hne : e.1 ≠ k' := by
          rintro rfl
          exact h.1 (List.mem_map.2 ⟨e, he, rfl⟩)
        simp [hne]
      simp [hrest]
    · have hne : k ≠ k' := fun heq => hk (by simp [heq])
      rw [if_neg hk, ih h.2]
      simp only [List.map_cons, List.mem_cons, hk, hne, false_or, List.cons_append]
      rfl

/-- **A row of entries that is written over another one.** Known keys keep their places and get the
new values, new keys go to the end in order. -/
theorem insertEntries_eq {base extra : List (α × β)} (hbase : (base.map Prod.fst).Nodup)
    (hextra : (extra.map Prod.fst).Nodup) :
    insertEntries base extra = base.map (fun e => (e.1, (extra.lookup e.1).getD e.2)) ++
      extra.filter fun e => (base.lookup e.1).isNone := by
  induction extra generalizing base with
  | nil => simp [insertEntries]
  | cons e rest ih =>
    obtain ⟨k, v⟩ := e
    rw [List.map_cons, List.nodup_cons] at hextra
    obtain ⟨hnew, hrest⟩ := hextra
    have hnone : rest.lookup k = none := lookup_of_not_mem hnew
    -- the first entry concerns none of the others
    have hothers : rest.filter (fun e => ((insertEntry k v base).lookup e.1).isNone) =
        rest.filter fun e => (base.lookup e.1).isNone := by
      refine List.filter_congr fun e he => ?_
      have hne : e.1 ≠ k := by
        rintro rfl
        exact hnew (List.mem_map.2 ⟨e, he, rfl⟩)
      rw [lookup_insertEntry, if_neg (by simpa using hne)]
    have hvalues : base.map (fun e => (e.1, (rest.lookup e.1).getD
        (if e.1 == k then v else e.2))) =
          base.map fun e => (e.1, (((k, v) :: rest).lookup e.1).getD e.2) := by
      refine List.map_congr_left fun e _ => ?_
      rw [List.lookup_cons]
      by_cases hk : e.1 == k
      · obtain rfl := eq_of_beq hk
        simp [hnone]
      · simp [hk]
    have hstep : insertEntries base ((k, v) :: rest) = insertEntries (insertEntry k v base) rest :=
      rfl
    rw [hstep, ih (nodup_keys_insertEntry hbase) hrest, hothers, insertEntry_eq hbase,
      List.map_append, List.map_map]
    rw [List.filter_cons]
    simp only [Function.comp_def, hvalues]
    by_cases hk : k ∈ base.map Prod.fst
    · have hsome : (base.lookup k).isNone = false := by
        rw [Option.isNone_eq_false_iff, Option.isSome_iff_ne_none, ne_eq, List.lookup_eq_none_iff]
        obtain ⟨e, he, rfl⟩ := List.mem_map.1 hk
        exact fun h => absurd (h e he) (by simp)
      simp [hk, hsome]
    · simp [hk, hnone, lookup_of_not_mem hk]

/-- Entries with new and distinct keys go to the end as they are. -/
theorem insertEntries_eq_append {base extra : List (α × β)}
    (h : ((base ++ extra).map Prod.fst).Nodup) : insertEntries base extra = base ++ extra := by
  rw [List.map_append, List.nodup_append] at h
  obtain ⟨hbase, hextra, hapart⟩ := h
  have hkept : base.map (fun e => (e.1, (extra.lookup e.1).getD e.2)) = base := by
    refine (List.map_congr_left fun e he => ?_).trans (List.map_id base)
    have hnot : e.1 ∉ extra.map Prod.fst :=
      fun hmem => hapart _ (List.mem_map_of_mem he) _ hmem rfl
    rw [lookup_of_not_mem hnot]
    rfl
  have hnew : extra.filter (fun e => (base.lookup e.1).isNone) = extra := by
    refine List.filter_eq_self.2 fun e he => ?_
    have hnot : e.1 ∉ base.map Prod.fst :=
      fun hmem => hapart _ hmem _ (List.mem_map_of_mem he) rfl
    rw [lookup_of_not_mem hnot]
    rfl
  rw [insertEntries_eq hbase hextra, hkept, hnew]

omit [LawfulBEq α] in
/-- Writing goes along with a change of all values. -/
theorem map_insertEntry {γ : Type} (f : β → γ) (k : α) (v : β) (es : List (α × β)) :
    (insertEntry k v es).map (fun e => (e.1, f e.2)) =
      insertEntry k (f v) (es.map fun e => (e.1, f e.2)) := by
  induction es with
  | nil => rfl
  | cons e rest ih =>
    obtain ⟨k', v'⟩ := e
    rw [insertEntry, List.map_cons, insertEntry]
    split
    · rfl
    · rw [List.map_cons, ih]

end Entries

/-! ## Maps -/

/-- Entries with distinct keys, in the order in which the keys first appeared. -/
structure OrderedMap (α β : Type) where
  entries : List (α × β)
  nodup : (entries.map Prod.fst).Nodup

namespace OrderedMap
variable {α β γ : Type}

/-- The map without entries. -/
def empty : OrderedMap α β := ⟨[], by simp⟩

instance : Inhabited (OrderedMap α β) := ⟨empty⟩

/-- The keys in order. -/
def keys (m : OrderedMap α β) : List α := m.entries.map Prod.fst

def isEmpty (m : OrderedMap α β) : Bool := m.entries.isEmpty

/-- The same keys with other values. -/
def mapValues (f : β → γ) (m : OrderedMap α β) : OrderedMap α γ where
  entries := m.entries.map fun e => (e.1, f e.2)
  nodup := by
    have h := m.nodup
    rw [List.map_map]
    exact h

variable [BEq α] [LawfulBEq α]

/-- The value of a key. -/
def get? (m : OrderedMap α β) (k : α) : Option β := m.entries.lookup k

/-- Writes a value; a key that is there already keeps its place. -/
def insert (m : OrderedMap α β) (k : α) (v : β) : OrderedMap α β where
  entries := insertEntry k v m.entries
  nodup := nodup_keys_insertEntry m.nodup

/-- Writes the entries of a second map over a first one. -/
def union (m n : OrderedMap α β) : OrderedMap α β :=
  n.entries.foldl (fun acc e => acc.insert e.1 e.2) m

/-- The map that a row of entries writes, later values over earlier ones. -/
def ofList (es : List (α × β)) : OrderedMap α β :=
  es.foldl (fun acc e => acc.insert e.1 e.2) empty

omit [LawfulBEq α] in
@[simp] theorem get?_empty (k : α) : (empty : OrderedMap α β).get? k = none := rfl

/-- Every entry is found by its key. -/
theorem get?_eq_some_of_mem {m : OrderedMap α β} {k : α} {v : β} (h : (k, v) ∈ m.entries) :
    m.get? k = some v := by
  obtain ⟨before, after, hentries⟩ := List.append_of_mem h
  refine List.lookup_eq_some_iff.2 ⟨before, after, hentries, fun other hother => ?_⟩
  have hnodup := m.nodup
  rw [hentries, List.map_append, List.map_cons, List.nodup_append] at hnodup
  have hne : other.1 ≠ k := hnodup.2.2 _ (List.mem_map_of_mem hother) _ List.mem_cons_self
  simpa using Ne.symm hne

theorem get?_insert (m : OrderedMap α β) (k j : α) (v : β) :
    (m.insert k v).get? j = if j == k then some v else m.get? j :=
  lookup_insertEntry k j v m.entries

omit [LawfulBEq α] in
theorem get?_mapValues (f : β → γ) (m : OrderedMap α β) (k : α) :
    (m.mapValues f).get? k = (m.get? k).map f := by
  unfold get? mapValues
  simp only
  generalize m.entries = es
  induction es with
  | nil => rfl
  | cons e rest ih =>
    rw [List.map_cons, List.lookup_cons, List.lookup_cons, ih]
    split <;> rfl

theorem get?_foldl_insert (es : List (α × β)) (m : OrderedMap α β) (j : α)
    (h : (es.map Prod.fst).Nodup) :
    (es.foldl (fun acc e => acc.insert e.1 e.2) m).get? j = (es.lookup j).or (m.get? j) := by
  induction es generalizing m with
  | nil => rfl
  | cons e rest ih =>
    obtain ⟨k, v⟩ := e
    simp only [List.map_cons, List.nodup_cons] at h
    rw [List.foldl_cons, ih _ h.2, get?_insert]
    by_cases hj : j == k
    · obtain rfl := eq_of_beq hj
      simp [lookup_of_not_mem h.1]
    · simp [List.lookup_cons, hj]

theorem entries_foldl_insert (es : List (α × β)) (m : OrderedMap α β) :
    (es.foldl (fun acc e => acc.insert e.1 e.2) m).entries = insertEntries m.entries es := by
  induction es generalizing m with
  | nil => rfl
  | cons e rest ih => exact ih (m.insert e.1 e.2)

omit [BEq α] [LawfulBEq α] in
theorem ext {m n : OrderedMap α β} (h : m.entries = n.entries) : m = n := by
  cases m
  cases n
  simpa using h

/-- A map has no entries but those that write it. -/
theorem mem_of_mem_ofList {es : List (α × β)} {e : α × β} (h : e ∈ (ofList es).entries) :
    e ∈ es := by
  have hmem : ∀ base : List (α × β), e ∈ insertEntries base es → e ∈ base ∨ e ∈ es := by
    clear h
    induction es with
    | nil => exact fun _ h => Or.inl h
    | cons e' rest ih =>
      intro base h
      rcases ih (insertEntry e'.1 e'.2 base) h with h | h
      · rcases eq_or_mem_of_mem_insertEntry h with rfl | h
        · exact Or.inr List.mem_cons_self
        · exact Or.inl h
      · exact Or.inr (List.mem_cons_of_mem _ h)
  rw [ofList, entries_foldl_insert] at h
  exact (hmem [] h).resolve_left List.not_mem_nil

/-- Entries with distinct keys are those of the map that they write. -/
theorem entries_ofList {es : List (α × β)} (h : (es.map Prod.fst).Nodup) :
    (ofList es).entries = es := by
  rw [ofList, entries_foldl_insert]
  exact insertEntries_eq_append h

/-- Values may be changed before or after they are written. -/
theorem mapValues_ofList (f : β → γ) (es : List (α × β)) :
    (ofList es).mapValues f = ofList (es.map fun e => (e.1, f e.2)) := by
  have hwrite : ∀ m : OrderedMap α β, (es.foldl (fun acc e => acc.insert e.1 e.2) m).mapValues f =
      (es.map fun e => (e.1, f e.2)).foldl (fun acc e => acc.insert e.1 e.2) (m.mapValues f) := by
    induction es with
    | nil => exact fun _ => rfl
    | cons e rest ih =>
      intro m
      have hfirst : (m.insert e.1 e.2).mapValues f = (m.mapValues f).insert e.1 (f e.2) :=
        ext (map_insertEntry f e.1 e.2 m.entries)
      rw [List.foldl_cons, ih, hfirst]
      rfl
  exact hwrite empty

/-- The entries of a map write that map. -/
theorem ofList_entries (m : OrderedMap α β) : ofList m.entries = m :=
  ext (entries_ofList m.nodup)

theorem ofList_map_entries (f : β → γ) (m : OrderedMap α β) :
    ofList (m.entries.map fun e => (e.1, f e.2)) = m.mapValues f := by
  rw [← mapValues_ofList, ofList_entries]

/-- The second map wins where both have a key. -/
theorem get?_union (m n : OrderedMap α β) (j : α) :
    (m.union n).get? j = (n.get? j).or (m.get? j) :=
  get?_foldl_insert n.entries m j n.nodup

/-- The entries of the first map in their places, with the values of the second one where it has
them, and behind them the other entries of the second map. -/
theorem entries_union (m n : OrderedMap α β) :
    (m.union n).entries = m.entries.map (fun e => (e.1, (n.get? e.1).getD e.2)) ++
      n.entries.filter fun e => (m.get? e.1).isNone := by
  rw [union, entries_foldl_insert]
  exact insertEntries_eq m.nodup n.nodup

/-- The keys after writing depend on nothing but the keys before. -/
theorem keys_insert_congr {m n : OrderedMap α β} (h : m.keys = n.keys) (k : α) (v w : β) :
    (m.insert k v).keys = (n.insert k w).keys := by
  have hm : (m.insert k v).keys = if k ∈ m.keys then m.keys else m.keys ++ [k] :=
    keys_insertEntry k v m.entries
  have hn : (n.insert k w).keys = if k ∈ n.keys then n.keys else n.keys ++ [k] :=
    keys_insertEntry k w n.entries
  rw [hm, hn, h]

theorem keys_union_congr {m m' : OrderedMap α β} (h : m.keys = m'.keys) (n : OrderedMap α β) :
    (m.union n).keys = (m'.union n).keys := by
  unfold union
  generalize n.entries = es
  induction es generalizing m m' with
  | nil => exact h
  | cons e es ih => exact ih (keys_insert_congr h e.1 e.2 e.2)

/-- **Maps are equal** if they have the same keys in the same order, and the same values. -/
theorem eq_of_keys_of_get? {m n : OrderedMap α β} (hkeys : m.keys = n.keys)
    (h : ∀ k, m.get? k = n.get? k) : m = n := by
  obtain ⟨es, hes⟩ := m
  obtain ⟨es', hes'⟩ := n
  refine ext ?_
  simp only [keys, get?] at hkeys h ⊢
  induction es generalizing es' with
  | nil => simpa using hkeys.symm
  | cons e rest ih =>
    obtain ⟨⟨k', v'⟩, rest', rfl⟩ : ∃ e' rest', es' = e' :: rest' :=
      List.exists_cons_of_ne_nil (by rintro rfl; simp at hkeys)
    obtain ⟨k, v⟩ := e
    rw [List.map_cons, List.map_cons, List.cons.injEq] at hkeys
    obtain ⟨rfl, hrest⟩ : k = k' ∧ rest.map Prod.fst = rest'.map Prod.fst := hkeys
    rw [List.map_cons, List.nodup_cons] at hes hes'
    obtain rfl : v = v' := by simpa using h k
    refine congrArg _ (ih hes.2 rest' hes'.2 hrest fun j => ?_)
    -- the first key is not among the others
    by_cases hj : j = k
    · subst hj
      rw [lookup_of_not_mem hes.1, lookup_of_not_mem hes'.1]
    · have hj' := h j
      rwa [List.lookup_cons, List.lookup_cons, beq_false_of_ne hj] at hj'

end OrderedMap

end CommandBook
