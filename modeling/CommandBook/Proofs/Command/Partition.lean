import CommandBook.Proofs.Command.Tree
import Mathlib.Data.List.Induction
import Mathlib.Data.List.Perm.Basic

/-!
# The command tree as a partition

The tree of a document keeps all of its entries: each one is its parent itself, a subcommand of it,
or late, and none is two of these. An entry is late if another one in front of it has the same
parent and the same subcommand, or none either. What the tree has for a parent depends on the
entries of that parent alone, so a tree is read parent by parent: `CommandNode.ofRow` is the node of
a row of entries, and every law of nodes is an induction on the row from its end.

## Main statements

* `CommandNode.at?_ofRow`, `CommandNode.shadowed_ofRow`, `CommandNode.perm_ofRow` — a parent
* `CommandTree.get?_foldl_add`, `CommandTree.keys_foldl_add` — parent by parent
* `CommandTree.build_isPartition` — the tree of a document
-/

namespace CommandBook

/-! ## Late entries -/

theorem eraseDups_concat {α : Type} [BEq α] [LawfulBEq α] (as : List α) (a : α) :
    (as ++ [a]).eraseDups = if a ∈ as then as.eraseDups else as.eraseDups ++ [a] := by
  rw [List.eraseDups_append]
  by_cases h : a ∈ as
  · have hnone : [a].removeAll as = [] := by simp [List.removeAll, h]
    simp [hnone, h]
  · have hnew : [a].removeAll as = [a] := by simp [List.removeAll, h]
    simp [hnew, h, List.eraseDups_cons]

/-- The entries of a row, for one parent, in front of which stands one with the same subcommand, or
none either. -/
def lateEntries (row : List CommandEntry) : List CommandEntry :=
  (row.zipIdx.filter fun (e, i) =>
    (row.take i).any (·.name.subcommand == e.name.subcommand)).map Prod.fst

/-- Whether an entry is late depends on those in front of it. -/
theorem lateEntries_concat (row : List CommandEntry) (e : CommandEntry) :
    lateEntries (row ++ [e]) = lateEntries row ++
      if row.any (·.name.subcommand == e.name.subcommand) then [e] else [] := by
  have hfront : row.zipIdx.filter (fun (d, i) =>
        ((row ++ [e]).take i).any (·.name.subcommand == d.name.subcommand)) =
      row.zipIdx.filter fun (d, i) =>
        (row.take i).any (·.name.subcommand == d.name.subcommand) := by
    refine List.filter_congr fun ⟨d, i⟩ hmem => ?_
    have hi : i < row.length := by
      have hbound := List.snd_lt_of_mem_zipIdx hmem
      omega
    simp only [List.take_append_of_le_length (Nat.le_of_lt hi)]
  unfold lateEntries
  rw [List.zipIdx_append, List.filter_append, List.map_append, hfront]
  by_cases h : row.any (·.name.subcommand == e.name.subcommand) <;> simp [h]

/-! ## One parent -/

namespace CommandNode

variable {parent : String} {row : List CommandEntry}

/-- A parent with a row of entries. -/
def ofRow (parent : String) (row : List CommandEntry) : CommandNode :=
  row.foldl add { name := parent }

theorem ofRow_concat (parent : String) (row : List CommandEntry) (e : CommandEntry) :
    ofRow parent (row ++ [e]) = (ofRow parent row).add e := by
  simp [ofRow]

/-- The entries that a parent has, itself and its subcommands. -/
def placed (node : CommandNode) : List CommandEntry :=
  node.own.toList ++ node.subcommands.entries.map Prod.snd

theorem name_add (node : CommandNode) (e : CommandEntry) : (node.add e).name = node.name := by
  unfold add
  split
  · split <;> rfl
  · split <;> rfl

/-- An entry that comes too late is kept by its name. -/
theorem shadowed_add {node : CommandNode} (h : node.IsPaired) (e : CommandEntry) :
    (node.add e).shadowed = node.shadowed ++
      if (node.at? e.name.subcommand).isSome then [e.name.text] else [] := by
  rw [add, h.isNone_spec]
  cases hsub : e.name.subcommand with
  | none => cases hown : node.own <;> simp [at?, hown]
  | some sub => cases hget : node.subcommands.get? sub <;> simp [at?, hget]

theorem placed_add_of_isSome {node : CommandNode} {e : CommandEntry} (hpaired : node.IsPaired)
    (h : (node.at? e.name.subcommand).isSome) : (node.add e).placed = node.placed := by
  rw [add, hpaired.isNone_spec]
  cases hsub : e.name.subcommand with
  | none =>
    have hown : node.own.isNone = false := by simpa [at?, hsub] using h
    simp only [hown, Bool.false_eq_true, if_false]
    rfl
  | some sub =>
    have hget : (node.subcommands.get? sub).isSome = true := by simpa [at?, hsub] using h
    simp only [hget, if_true]
    rfl

/-- An entry whose place is free takes it. -/
theorem placed_add_of_isNone {node : CommandNode} {e : CommandEntry} (hpaired : node.IsPaired)
    (h : node.at? e.name.subcommand = none) : (node.add e).placed.Perm (node.placed ++ [e]) := by
  rw [add, hpaired.isNone_spec]
  cases hsub : e.name.subcommand with
  | none =>
    have hown : node.own = none := by simpa [at?, hsub] using h
    have hswap : ([e] ++ node.subcommands.entries.map Prod.snd).Perm
        (node.subcommands.entries.map Prod.snd ++ [e]) := List.perm_append_comm
    have hplaced : node.placed = node.subcommands.entries.map Prod.snd := by simp [placed, hown]
    rw [hplaced]
    simp only [hown, Option.isNone_none, if_true]
    exact hswap
  | some sub =>
    have hget : node.subcommands.entries.lookup sub = none := by
      simpa [at?, hsub, OrderedMap.get?] using h
    have hnew : sub ∉ node.subcommands.entries.map Prod.fst := by
      intro hmem
      obtain ⟨entry, hentry, rfl⟩ := List.mem_map.1 hmem
      have := List.lookup_eq_none_iff.1 hget entry hentry
      simp at this
    simp [placed, own, OrderedMap.get?, hget, OrderedMap.insert, insertEntry_of_not_mem hnew]

theorem isPaired_ofRow (parent : String) (row : List CommandEntry) :
    (ofRow parent row).IsPaired := by
  induction row using List.reverseRecOn with
  | nil => exact isPaired_new parent
  | append_singleton row e ih =>
    rw [ofRow_concat]
    exact isPaired_add ih e

theorem name_ofRow (parent : String) (row : List CommandEntry) :
    (ofRow parent row).name = parent := by
  induction row using List.reverseRecOn with
  | nil => rfl
  | append_singleton row e ih => rw [ofRow_concat, name_add, ih]

/-- **The first entry wins**, for the parent itself and for each subcommand. -/
theorem at?_ofRow (parent : String) (row : List CommandEntry) (sub : Option String) :
    (ofRow parent row).at? sub = row.find? (·.name.subcommand == sub) := by
  induction row using List.reverseRecOn with
  | nil => cases sub <;> rfl
  | append_singleton row e ih =>
    rw [ofRow_concat, at?_add (isPaired_ofRow parent row), ih, List.find?_append]
    by_cases h : e.name.subcommand = sub <;> simp [h]

theorem isSome_at?_ofRow (parent : String) (row : List CommandEntry) (sub : Option String) :
    ((ofRow parent row).at? sub).isSome = row.any (·.name.subcommand == sub) := by
  rw [at?_ofRow, List.isSome_find?]

/-- **The late entries are kept by name**, in order. -/
theorem shadowed_ofRow (parent : String) (row : List CommandEntry) :
    (ofRow parent row).shadowed = (lateEntries row).map (·.name.text) := by
  induction row using List.reverseRecOn with
  | nil => rfl
  | append_singleton row e ih =>
    rw [ofRow_concat, shadowed_add (isPaired_ofRow parent row), ih, isSome_at?_ofRow,
      lateEntries_concat, List.map_append]
    split <;> rfl

/-- **Every entry is placed once**: it has its place, or it is late. -/
theorem perm_ofRow (parent : String) (row : List CommandEntry) :
    ((ofRow parent row).placed ++ lateEntries row).Perm row := by
  induction row using List.reverseRecOn with
  | nil => exact .nil
  | append_singleton row e ih =>
    have hat := isSome_at?_ofRow parent row e.name.subcommand
    have hpaired := isPaired_ofRow parent row
    rw [ofRow_concat, lateEntries_concat]
    by_cases h : row.any (·.name.subcommand == e.name.subcommand)
    · rw [placed_add_of_isSome hpaired (hat.trans h), if_pos h, ← List.append_assoc]
      exact ih.append_right [e]
    · rw [if_neg h, List.append_nil]
      have hfree : (ofRow parent row).at? e.name.subcommand = none := by
        rwa [← Option.not_isSome_iff_eq_none, hat]
      -- the new entry goes behind the others, among those that have a place
      have hmoved : ((ofRow parent row).placed ++ [e] ++ lateEntries row).Perm
          ((ofRow parent row).placed ++ lateEntries row ++ [e]) := by
        rw [List.append_assoc, List.append_assoc]
        exact List.perm_append_comm.append_left _
      calc (((ofRow parent row).add e).placed ++ lateEntries row).Perm
            ((ofRow parent row).placed ++ [e] ++ lateEntries row) :=
              (placed_add_of_isNone hpaired hfree).append_right _
        List.Perm _ ((ofRow parent row).placed ++ lateEntries row ++ [e]) := hmoved
        List.Perm _ (row ++ [e]) := ih.append_right [e]

/-- A parent with an entry is a command itself or has a subcommand. -/
theorem isSome_own_or_of_ne_nil (h : row ≠ []) :
    (ofRow parent row).own.isSome ∨ (ofRow parent row).subcommands.entries ≠ [] := by
  obtain ⟨e, rest, rfl⟩ := List.exists_cons_of_ne_nil h
  have hat := isSome_at?_ofRow parent (e :: rest) e.name.subcommand
  rw [List.any_cons, beq_self_eq_true, Bool.true_or] at hat
  cases hsub : e.name.subcommand with
  | none =>
    rw [hsub] at hat
    exact Or.inl hat
  | some sub =>
    rw [hsub] at hat
    refine Or.inr fun hnil => ?_
    simp [at?, OrderedMap.get?, hnil] at hat

end CommandNode

/-! ## Parent by parent -/

namespace CommandTree

variable {commands : List (Leaf × Value)} {es : List CommandEntry}

/-- The entries of one parent. -/
def ofParent (parent : String) (es : List CommandEntry) : List CommandEntry :=
  es.filter (·.name.parent == parent)

theorem ofParent_concat (parent : String) (es : List CommandEntry) (e : CommandEntry) :
    ofParent parent (es ++ [e]) =
      ofParent parent es ++ if e.name.parent = parent then [e] else [] := by
  unfold ofParent
  by_cases h : e.name.parent = parent <;> simp [h]

theorem ofParent_ofParent (parent : String) (es : List CommandEntry) :
    ofParent parent (ofParent parent es) = ofParent parent es := by
  simp [ofParent]

/-- **What the tree has for a parent** depends on the entries of that parent alone. -/
theorem get?_foldl_add (es : List CommandEntry) (parent : String) :
    (es.foldl add .empty).get? parent =
      if ofParent parent es = [] then none
      else some (CommandNode.ofRow parent (ofParent parent es)) := by
  induction es using List.reverseRecOn with
  | nil => rfl
  | append_singleton es e ih =>
    rw [List.foldl_concat, add, OrderedMap.get?_insert, ofParent_concat]
    by_cases h : e.name.parent = parent
    · subst h
      rw [ih]
      by_cases hnil : ofParent e.name.parent es = []
      · simp [hnil, CommandNode.ofRow]
      · simp [hnil, CommandNode.ofRow_concat]
    · simp [h, Ne.symm h, ih]

/-- **The parents** stand in the order in which they first appear. -/
theorem keys_foldl_add (es : List CommandEntry) :
    (es.foldl add .empty).keys = (es.map (·.name.parent)).eraseDups := by
  induction es using List.reverseRecOn with
  | nil => rfl
  | append_singleton es e ih =>
    have hkeys : ((es.foldl add .empty).add e).keys =
        if e.name.parent ∈ (es.foldl add .empty).keys then (es.foldl add .empty).keys
        else (es.foldl add .empty).keys ++ [e.name.parent] := keys_insertEntry _ _ _
    rw [List.foldl_concat, hkeys, ih, List.map_append, List.map_singleton, eraseDups_concat]
    simp only [List.mem_eraseDups]

/-- Entries grouped by distinct names that cover their parents are the same entries. -/
theorem perm_flatMap_ofParent : ∀ {parents : List String}, parents.Nodup →
    ∀ {es : List CommandEntry}, (∀ e ∈ es, e.name.parent ∈ parents) →
      (parents.flatMap (ofParent · es)).Perm es
  | [], _, es, hcover => by
    have hnil : es = [] := List.eq_nil_iff_forall_not_mem.2 fun e he =>
      List.not_mem_nil (hcover e he)
    rw [hnil]
    exact .nil
  | parent :: parents, hnodup, es, hcover => by
    obtain ⟨hnew, hnodup⟩ := List.nodup_cons.1 hnodup
    -- the other names group what is left without the entries of the first one
    have hothers : ∀ other ∈ parents,
        ofParent other (es.filter fun e => !(e.name.parent == parent)) = ofParent other es := by
      intro other hother
      have hne : other ≠ parent := by
        rintro rfl
        exact hnew hother
      rw [ofParent, List.filter_filter]
      refine List.filter_congr fun e _ => ?_
      by_cases h : e.name.parent = other <;> simp [h, hne]
    have hrest : (parents.flatMap (ofParent · es)).Perm
        (es.filter fun e => !(e.name.parent == parent)) := by
      rw [← List.flatMap_congr hothers]
      refine perm_flatMap_ofParent hnodup fun e he => ?_
      obtain ⟨he, hparent⟩ := List.mem_filter.1 he
      exact (List.mem_cons.1 (hcover e he)).resolve_left (by simpa using hparent)
    rw [List.flatMap_cons]
    exact (hrest.append_left _).trans (List.filter_append_perm _ es)

/-! ## The tree of a document -/

/-- An entry of a document that is right. -/
def IsValid (c : Leaf × Value) : Prop := ∃ e, entry c.1 c.2 = .ok e

/-- An entry of a document and what it gives. -/
def Gives (c : Leaf × Value) (e : CommandEntry) : Prop := entry c.1 c.2 = .ok e

/-- Whether an entry of a document is right and has a parent. -/
def isOf (parent : String) (c : Leaf × Value) : Bool :=
  (entry c.1 c.2).toOption.any (·.name.parent == parent)

theorem entriesOf_of_gives (h : List.Forall₂ Gives commands es) :
    entriesOf commands = .ok es := by
  induction h with
  | nil => rfl
  | @cons c e commands es hc _ ih =>
    rw [entriesOf, List.mapM_cons, show entry c.1 c.2 = .ok e from hc]
    show ((entriesOf commands).bind fun es => .ok (e :: es)) = _
    rw [ih]
    rfl

theorem build_of_gives (h : List.Forall₂ Gives commands es) :
    build commands = .ok (es.foldl add .empty) :=
  build_eq_ok_iff.2 ⟨es, entriesOf_of_gives h, rfl⟩

theorem exists_gives (h : ∀ c ∈ commands, IsValid c) : ∃ es, List.Forall₂ Gives commands es := by
  induction commands with
  | nil => exact ⟨[], .nil⟩
  | cons c commands ih =>
    obtain ⟨⟨e, he⟩, hrest⟩ := List.forall_mem_cons.1 h
    obtain ⟨es, hes⟩ := ih hrest
    exact ⟨e :: es, .cons he hes⟩

/-- The entries of one parent give what they give among all. -/
theorem gives_filter_isOf (h : List.Forall₂ Gives commands es) (parent : String) :
    List.Forall₂ Gives (commands.filter (isOf parent)) (ofParent parent es) := by
  refine List.rel_filter (fun c e hc => ?_) h
  show isOf parent c = true ↔ (e.name.parent == parent) = true
  unfold isOf
  rw [show entry c.1 c.2 = .ok e from hc]
  rfl

/-- Where an entry is wrong there is a first one. -/
theorem exists_first_wrong (h : ∃ c ∈ commands, ¬IsValid c) :
    ∃ before key value after reason, commands = before ++ (key, value) :: after ∧
      (∀ c ∈ before, IsValid c) ∧ entry key value = .error reason := by
  induction commands with
  | nil =>
    obtain ⟨c, hc, -⟩ := h
    cases hc
  | cons c commands ih =>
    obtain ⟨key, value⟩ := c
    cases hentry : entry key value with
    | error reason =>
      exact ⟨[], key, value, commands, reason, rfl, fun c hc => absurd hc List.not_mem_nil, hentry⟩
    | ok e =>
      have hrest : ∃ c ∈ commands, ¬IsValid c := by
        obtain ⟨c, hc, hwrong⟩ := h
        rcases List.mem_cons.1 hc with rfl | hc
        · exact absurd ⟨e, hentry⟩ hwrong
        · exact ⟨c, hc, hwrong⟩
      obtain ⟨before, key', value', after, reason, rfl, hbefore, hwrong⟩ := ih hrest
      refine ⟨(key, value) :: before, key', value', after, reason, rfl, ?_, hwrong⟩
      exact List.forall_mem_cons.2 ⟨⟨e, hentry⟩, hbefore⟩

/-- **The first wrong entry decides**, whatever comes behind it. -/
theorem build_of_first_wrong {before after : List (Leaf × Value)} {key : Leaf} {value : Value}
    {reason : Rejection} (hbefore : ∀ c ∈ before, IsValid c)
    (hwrong : entry key value = .error reason) :
    build (before ++ (key, value) :: after) = .error reason := by
  obtain ⟨es, hes⟩ := exists_gives hbefore
  rw [build, addAll_eq, entriesOf_append, entriesOf_of_gives hes]
  show (((entriesOf ((key, value) :: after)).map (es ++ ·)).map _) = _
  rw [entriesOf, List.mapM_cons, hwrong]
  rfl

end CommandTree

/-- **What a parent is**, by its entries in order: it has the first one for itself and the first one
for each subcommand, and keeps the names of the late ones. -/
structure CommandNode.Represents (node : CommandNode) (parent : String)
    (row : List CommandEntry) : Prop where
  name : node.name = parent
  first : ∀ sub, node.at? sub = row.find? (·.name.subcommand == sub)
  shadowed : node.shadowed = (lateEntries row).map (·.name.text)
  inhabited : node.own.isSome ∨ node.subcommands.entries ≠ []
  /-- The name of the parent itself comes with a definition, and a definition with a name. -/
  paired : node.spec.isSome ↔ node.definition.isSome

theorem CommandNode.represents_ofRow {parent : String} {row : List CommandEntry} (h : row ≠ []) :
    (ofRow parent row).Represents parent row where
  name := name_ofRow parent row
  first := at?_ofRow parent row
  shadowed := shadowed_ofRow parent row
  inhabited := isSome_own_or_of_ne_nil h
  paired := isPaired_ofRow parent row

namespace CommandTree

variable {commands : List (Leaf × Value)} {es : List CommandEntry}

/-- **What a tree is**, by the commands of a document and the entries that they give. -/
structure IsPartition (commands : List (Leaf × Value)) (es : List CommandEntry)
    (tree : CommandTree) : Prop where
  /-- The parents, each once, in the order in which they first appear. -/
  parents : tree.keys = (es.map (·.name.parent)).eraseDups
  nodes : ∀ parent node, tree.get? parent = some node →
    node.Represents parent (ofParent parent es)
  /-- Each entry is placed once: as its parent itself, as a subcommand, or among the late ones. -/
  once : (tree.entries.flatMap fun (parent, node) =>
    node.placed ++ lateEntries (ofParent parent es)).Perm es
  /-- A parent is the same in the document of its own entries. -/
  alone : ∀ parent, ∃ tree', build (commands.filter (isOf parent)) = .ok tree' ∧
    tree'.get? parent = tree.get? parent

theorem eq_ofRow_of_get? {parent : String} {node : CommandNode}
    (h : (es.foldl add .empty).get? parent = some node) :
    ofParent parent es ≠ [] ∧ node = CommandNode.ofRow parent (ofParent parent es) := by
  rw [get?_foldl_add] at h
  split at h
  · cases h
  · next hne => exact ⟨hne, (Option.some.inj h).symm⟩

/-- **Each entry is placed once** in the whole tree. -/
theorem perm_foldl_add (es : List CommandEntry) :
    ((es.foldl add .empty).entries.flatMap fun (parent, node) =>
      node.placed ++ lateEntries (ofParent parent es)).Perm es := by
  have hnodes : ((es.foldl add .empty).entries.flatMap fun (parent, node) =>
        node.placed ++ lateEntries (ofParent parent es)).Perm
      ((es.foldl add .empty).entries.flatMap fun n => ofParent n.1 es) := by
    refine List.Perm.flatMap_left _ fun ⟨parent, node⟩ hmem => ?_
    obtain ⟨-, rfl⟩ := eq_ofRow_of_get? (OrderedMap.get?_eq_some_of_mem hmem)
    exact CommandNode.perm_ofRow parent (ofParent parent es)
  have hkeys : ((es.foldl add .empty).entries.flatMap fun n => ofParent n.1 es) =
      (es.foldl add .empty).keys.flatMap (ofParent · es) := by
    rw [OrderedMap.keys, List.flatMap_map]
  rw [hkeys] at hnodes
  refine hnodes.trans (perm_flatMap_ofParent (es.foldl add .empty).nodup fun e he => ?_)
  show e.name.parent ∈ (es.foldl add .empty).keys
  rw [keys_foldl_add, List.mem_eraseDups]
  exact List.mem_map_of_mem he

theorem isPartition_foldl_add (h : List.Forall₂ Gives commands es) :
    IsPartition commands es (es.foldl add .empty) where
  parents := keys_foldl_add es
  nodes parent node hnode := by
    obtain ⟨hne, rfl⟩ := eq_ofRow_of_get? hnode
    exact CommandNode.represents_ofRow hne
  once := perm_foldl_add es
  alone parent := by
    refine ⟨_, build_of_gives (gives_filter_isOf h parent), ?_⟩
    rw [get?_foldl_add, get?_foldl_add, ofParent_ofParent]

/-- **The tree of a document.** Where all entries are right there is a tree, and it is a partition
of them. Where one is wrong, the first wrong one is the reason why there is none. -/
theorem build_isPartition (commands : List (Leaf × Value)) :
    ((∀ c ∈ commands, IsValid c) → ∃ es tree, List.Forall₂ Gives commands es ∧
      build commands = .ok tree ∧ IsPartition commands es tree) ∧
    ((∃ c ∈ commands, ¬IsValid c) → ∃ before key value after reason,
      commands = before ++ (key, value) :: after ∧ (∀ c ∈ before, IsValid c) ∧
        entry key value = .error reason ∧ build commands = .error reason) := by
  constructor
  · intro hvalid
    obtain ⟨es, hes⟩ := exists_gives hvalid
    exact ⟨es, _, hes, build_of_gives hes, isPartition_foldl_add hes⟩
  · intro hwrong
    obtain ⟨before, key, value, after, reason, rfl, hbefore, hreason⟩ := exists_first_wrong hwrong
    exact ⟨before, key, value, after, reason, rfl, hbefore, hreason,
      build_of_first_wrong hbefore hreason⟩

/-- A parent with a subcommand and an entry that comes too late. -/
def getCommands : List (Leaf × Value) :=
  [(.str "get <id>", .map []), (.str "get list", .leaf .null), (.str "get [page]", .map [])]

/-- The same with another late entry, which is wrong, and one more wrong entry behind it. -/
def getCommandsWrong : List (Leaf × Value) :=
  getCommands ++ (.str "get <page>", .leaf (.int 5)) :: [(.str "put", .leaf (.int 6))]

theorem build_isPartition_get :
    (∀ c ∈ getCommands, IsValid c) ∧
    (∃ es tree, List.Forall₂ Gives getCommands es ∧ build getCommands = .ok tree ∧
      IsPartition getCommands es tree ∧
      (tree.get? "get").map (·.shadowed) = some ["get [page]"]) ∧
    (∃ c ∈ getCommandsWrong, ¬IsValid c) ∧
    (∃ before key value after, getCommandsWrong = before ++ (key, value) :: after ∧
      (∀ c ∈ before, IsValid c) ∧
      entry key value = .error (.config (.commandNotMapping "get <page>")) ∧
      build getCommandsWrong = .error (.config (.commandNotMapping "get <page>"))) := by
  have hvalid : ∀ c ∈ getCommands, IsValid c := by
    intro c hc
    have hok : (getCommands.all fun c => (entry c.1 c.2).isOk) = true := by decide +kernel
    have hentry := List.all_eq_true.1 hok c hc
    cases h : entry c.1 c.2 with
    | error reason =>
      rw [h] at hentry
      cases hentry
    | ok e => exact ⟨e, h⟩
  have hlate : ((build getCommands).toOption.bind (·.get? "get")).map (·.shadowed) =
      some ["get [page]"] := by decide +kernel
  have hreason : (match build getCommandsWrong with
      | .error reason => some reason
      | .ok _ => none) = some (.config (.commandNotMapping "get <page>")) := by decide +kernel
  have hwrong : ∃ c ∈ getCommandsWrong, ¬IsValid c := by
    refine ⟨(.str "put", .leaf (.int 6)), by simp [getCommandsWrong], ?_⟩
    rintro ⟨e, he⟩
    have hno : (entry (.str "put") (.leaf (.int 6))).isOk = false := by decide +kernel
    rw [he] at hno
    cases hno
  obtain ⟨es, tree, hes, htree, hpartition⟩ := (build_isPartition getCommands).1 hvalid
  obtain ⟨before, key, value, after, reason, hsplit, hbefore, hentry, hbuild⟩ :=
    (build_isPartition getCommandsWrong).2 hwrong
  rw [htree] at hlate
  rw [hbuild] at hreason
  obtain rfl := Option.some.inj hreason
  exact ⟨hvalid, ⟨es, tree, hes, htree, hpartition, hlate⟩, hwrong,
    before, key, value, after, hsplit, hbefore, hentry, hbuild⟩

end CommandTree

end CommandBook
