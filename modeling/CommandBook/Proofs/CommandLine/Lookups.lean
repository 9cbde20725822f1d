import CommandBook.CommandLine.Dispatch
import CommandBook.Proofs.Effect

/-!
# Looking up commands

A manual looks up the names of the commands, and then each command by its name. The document is
loaded for the first of these lookups and kept for the others, so that the effects of a manual are
those of loading the document once.

## Main definitions

* `CommandLine.Loaded.commands` — the commands of a document for a manual

## Main statements

* `CommandLine.lookUpAll_kept`, `CommandLine.lookUpAll_cons` — many names
* `CommandLine.lookUpCommands_eq` — the commands of a manual
* `CommandLine.shownCommands_kept`, `CommandLine.shownCommands_of_find` — the manual of the program
-/

namespace CommandBook.CommandLine

variable {named : Option String}

/-- The parents of a document as a manual shows them. -/
def Loaded.commands (l : Loaded) : List ManualEntry :=
  l.tree.entries.map fun n => ⟨n.1, n.2.about⟩

/-- What is kept is not loaded again. -/
theorem lookUpAll_kept (host : Host) (named : Option String) (loaded : Loaded) :
    ∀ names : List String, lookUpAll host named (some loaded) names =
      .ok (names.map loaded.tree.get?)
  | [] => rfl
  | name :: names => by
    rw [lookUpAll]
    show (lookUpAll host named (some loaded) names).bind _ = _
    rw [lookUpAll_kept host named loaded names]
    rfl

/-- **However many names are looked up**, the document is loaded once. -/
theorem lookUpAll_cons (host : Host) (named : Option String) (name : String)
    (names : List String) : lookUpAll host named none (name :: names) =
      (load host named).bind fun loaded => .ok ((name :: names).map loaded.tree.get?) := by
  rw [lookUpAll]
  refine congrArg (Step.bind (load host named)) (funext fun loaded => ?_)
  rw [lookUpAll_kept]
  rfl

/-- Each name of a document is found where it stands. -/
theorem filterMap_lookUps (l : Loaded) :
    ((l.tree.keys.zip (l.tree.keys.map l.tree.get?)).filterMap fun (name, node) =>
      node.map fun node => (⟨name, node.about⟩ : ManualEntry)) = l.commands := by
  have hzip : l.tree.keys.zip (l.tree.keys.map l.tree.get?) =
      l.tree.entries.map fun n => (n.1, l.tree.get? n.1) := by
    rw [OrderedMap.keys, List.map_map, List.zip_map']
    rfl
  rw [hzip, List.filterMap_map, Loaded.commands, ← List.filterMap_eq_map]
  refine List.filterMap_congr fun n hn => ?_
  simp only [Function.comp_apply, OrderedMap.get?_eq_some_of_mem hn]
  rfl

/-- **The commands of a manual, looked up one by one**, are those of the document. -/
theorem lookUpCommands_eq (host : Host) (named : Option String) (kept : Option Loaded) :
    lookUpCommands host named kept =
      (lookUp host named kept).bind fun loaded => .ok loaded.commands := by
  refine congrArg (Step.bind (lookUp host named kept)) (funext fun loaded => ?_)
  rw [lookUpAll_kept]
  exact congrArg Step.ok (filterMap_lookUps loaded)

theorem shownCommands_kept (host : Host) (loaded : Loaded) (named : Option String) :
    shownCommands host (some loaded) named = .ok loaded.commands :=
  lookUpCommands_eq host named (some loaded)

/-- The manual of the program shows the commands that are looked up, if there is a document. -/
theorem shownCommands_eq_lookUpCommands {host : Host} {place : Location}
    (h : findConfig host.files named = .ok (some place)) :
    shownCommands host none named = lookUpCommands host named none := by
  rw [shownCommands, h]
  rfl

theorem shownCommands_of_find {host : Host} {place : Location}
    (h : findConfig host.files named = .ok (some place)) :
    shownCommands host none named = (load host named).bind fun loaded => .ok loaded.commands :=
  (shownCommands_eq_lookUpCommands h).trans (lookUpCommands_eq host named none)

end CommandBook.CommandLine
