import CommandBook.Command.Tree

/-!
# What the command tree holds

The name of an entry gives it a place: a parent, and either the parent itself or one of its
subcommands. At each place the tree has the first entry of the document that has this place. So one
more entry makes no difference to any place but its own.

Whether the place of a parent itself is taken is told by its name alone, which is right as long as
the name comes with a definition. `CommandNode.IsPaired` says that it does.

## Main statements

* `CommandNode.isPaired_add` — name and definition of a parent come together
* `CommandTree.at?_foldl_add` — what the tree has at a place
* `CommandTree.build_eq_ok_iff` — when a document has a tree, and which
* `CommandTree.exists_build_of_isInsertion` — one more entry
-/

namespace CommandBook

/-- The entry of a parent itself, or that of a subcommand. -/
def CommandNode.at? (node : CommandNode) : Option String → Option CommandEntry
  | none => node.own
  | some sub => node.subcommands.get? sub

namespace CommandNode

/-- A parent has a name of its own exactly if it has a definition. -/
def IsPaired (node : CommandNode) : Prop := node.spec.isSome ↔ node.definition.isSome

theorem isPaired_new (parent : String) : IsPaired { name := parent } := Iff.rfl

/-- **Name and definition of a parent come together.** -/
theorem isPaired_add {node : CommandNode} (h : node.IsPaired) (e : CommandEntry) :
    (node.add e).IsPaired := by
  unfold add
  split
  · split
    · exact iff_of_true rfl rfl
    · exact h
  · split <;> exact h

/-- The name alone tells whether a parent is a command itself. -/
theorem IsPaired.isNone_spec {node : CommandNode} (h : node.IsPaired) :
    node.spec.isNone = node.own.isNone := by
  unfold IsPaired at h
  rw [own]
  cases hspec : node.spec with
  | none => rfl
  | some name =>
    obtain ⟨definition, hdefinition⟩ := Option.isSome_iff_exists.1 (h.1 (by rw [hspec]; rfl))
    rw [hdefinition]
    rfl

/-- An entry takes its place unless it is taken. -/
theorem at?_add {node : CommandNode} (h : node.IsPaired) (e : CommandEntry)
    (sub : Option String) : (node.add e).at? sub =
      if e.name.subcommand = sub then (node.at? sub).or (some e) else node.at? sub := by
  rw [add, h.isNone_spec]
  cases hplace : e.name.subcommand with
  | none =>
    cases sub with
    | none => cases hown : node.own <;> rw [own] at hown <;> simp [at?, own, hown]
    | some sub => cases node.own <;> simp [at?]
  | some place =>
    cases sub with
    | none => cases hget : node.subcommands.get? place <;> simp [at?, own, hget]
    | some sub =>
      by_cases heq : place = sub
      · subst heq
        cases hget : node.subcommands.get? place <;> simp [at?, hget, OrderedMap.get?_insert]
      · cases hget : node.subcommands.get? place <;>
          simp [at?, hget, OrderedMap.get?_insert, heq, Ne.symm heq]

end CommandNode

namespace CommandTree

variable {commands : List (Leaf × Value)} {tree : CommandTree} {parent : String}
  {sub : Option String} {e : CommandEntry}

/-- The entry at a place. -/
def at? (tree : CommandTree) (parent : String) (sub : Option String) : Option CommandEntry :=
  (tree.get? parent).bind (·.at? sub)

/-- Whether an entry has a place. -/
def isAt (parent : String) (sub : Option String) (e : CommandEntry) : Bool :=
  e.name.parent == parent && e.name.subcommand == sub

/-- Name and definition come together in all parents. -/
def IsPaired (tree : CommandTree) : Prop :=
  ∀ parent node, tree.get? parent = some node → node.IsPaired

theorem isPaired_getD (h : tree.IsPaired) (parent : String) :
    ((tree.get? parent).getD { name := parent }).IsPaired := by
  cases hget : tree.get? parent with
  | none => exact CommandNode.isPaired_new parent
  | some node => exact h parent node hget

theorem isPaired_add (h : tree.IsPaired) (e : CommandEntry) : (tree.add e).IsPaired := by
  intro parent node hnode
  rw [add, OrderedMap.get?_insert] at hnode
  split at hnode
  · cases hnode
    exact CommandNode.isPaired_add (isPaired_getD h e.name.parent) e
  · exact h parent node hnode

theorem at?_add (h : tree.IsPaired) (e : CommandEntry) (parent : String) (sub : Option String) :
    (tree.add e).at? parent sub =
      if isAt parent sub e then (tree.at? parent sub).or (some e) else tree.at? parent sub := by
  rw [at?, add, OrderedMap.get?_insert]
  by_cases hparent : e.name.parent = parent
  · subst hparent
    have hnode : (((tree.get? e.name.parent).getD { name := e.name.parent }).at? sub) =
        tree.at? e.name.parent sub := by
      rw [at?]
      cases tree.get? e.name.parent with
      | none => cases sub <;> rfl
      | some node => rfl
    simp [CommandNode.at?_add (isPaired_getD h e.name.parent), hnode, isAt]
  · simp [hparent, Ne.symm hparent, isAt, at?]

/-- **At each place is the first entry that has it.** -/
theorem at?_foldl_add (h : tree.IsPaired) (es : List CommandEntry) (parent : String)
    (sub : Option String) :
    (es.foldl add tree).at? parent sub = (tree.at? parent sub).or (es.find? (isAt parent sub)) := by
  induction es generalizing tree with
  | nil => simp
  | cons e es ih =>
    rw [List.foldl_cons, ih (isPaired_add h e), at?_add h, List.find?_cons]
    cases isAt parent sub e with
    | false => simp
    | true => simp

/-- The entries of a document; the first that is wrong decides. -/
def entriesOf (commands : List (Leaf × Value)) : Except Rejection (List CommandEntry) :=
  commands.mapM fun c => entry c.1 c.2

theorem addAll_eq (commands : List (Leaf × Value)) (start : CommandTree) :
    addAll start commands = (entriesOf commands).map (·.foldl add start) := by
  induction commands generalizing start with
  | nil => rfl
  | cons c rest ih =>
    obtain ⟨key, value⟩ := c
    rw [addAll, entriesOf, List.mapM_cons]
    cases entry key value with
    | error reason => rfl
    | ok e =>
      show addAll (start.add e) rest = ((entriesOf rest).bind fun es => .ok (e :: es)).map _
      rw [ih]
      cases entriesOf rest <;> rfl

/-- **The tree of a document** is made of its entries, if all of them are right. -/
theorem build_eq_ok_iff : build commands = .ok tree ↔
    ∃ es, entriesOf commands = .ok es ∧ tree = es.foldl add .empty := by
  rw [build, addAll_eq]
  cases entriesOf commands with
  | error reason => simp [Except.map]
  | ok es => simp [Except.map, eq_comm]

/-! ## One more entry -/

/-- The commands of a document with one more entry among them. -/
def IsInsertion (commands commands' : List (Leaf × Value)) (e : CommandEntry) : Prop :=
  ∃ before key value after, commands = before ++ after ∧
    commands' = before ++ (key, value) :: after ∧ entry key value = .ok e

theorem entriesOf_append (before after : List (Leaf × Value)) : entriesOf (before ++ after) =
    (entriesOf before).bind fun es => (entriesOf after).map (es ++ ·) := by
  rw [entriesOf, List.mapM_append]
  show ((entriesOf before).bind fun es => (entriesOf after).bind fun es' => .ok (es ++ es')) = _
  cases entriesOf before with
  | error reason => rfl
  | ok es => cases entriesOf after <;> rfl

theorem entriesOf_of_isInsertion {commands' : List (Leaf × Value)} {es : List CommandEntry}
    (h : entriesOf commands = .ok es) (hinsert : IsInsertion commands commands' e) :
    ∃ before after, es = before ++ after ∧ entriesOf commands' = .ok (before ++ e :: after) := by
  obtain ⟨before, key, value, after, rfl, rfl, hentry⟩ := hinsert
  have hcons : entriesOf ((key, value) :: after) = (entriesOf after).map (e :: ·) := by
    rw [entriesOf, List.mapM_cons, hentry]
    show ((entriesOf after).bind fun es => .ok (e :: es)) = _
    cases entriesOf after <;> rfl
  rw [entriesOf_append] at h
  rw [entriesOf_append, hcons]
  cases hbefore : entriesOf before with
  | error reason =>
    rw [hbefore] at h
    cases h
  | ok es₁ =>
    cases hafter : entriesOf after with
    | error reason =>
      rw [hbefore, hafter] at h
      cases h
    | ok es₂ =>
      rw [hbefore, hafter] at h
      cases h
      exact ⟨es₁, es₂, rfl, rfl⟩

/-- **One more entry** that is right leaves a document accepted, and the tree is the same at every
place but that of the entry. -/
theorem exists_build_of_isInsertion {commands' : List (Leaf × Value)}
    (h : build commands = .ok tree) (hinsert : IsInsertion commands commands' e) :
    ∃ tree', build commands' = .ok tree' ∧
      ∀ parent sub, isAt parent sub e = false → tree'.at? parent sub = tree.at? parent sub := by
  obtain ⟨es, hes, rfl⟩ := build_eq_ok_iff.1 h
  obtain ⟨before, after, rfl, hentries⟩ := entriesOf_of_isInsertion hes hinsert
  refine ⟨_, build_eq_ok_iff.2 ⟨_, hentries, rfl⟩, fun parent sub hplace => ?_⟩
  have hempty : IsPaired .empty := nofun
  rw [at?_foldl_add hempty, at?_foldl_add hempty, List.find?_append, List.find?_append,
    List.find?_cons, hplace]

end CommandTree

end CommandBook
