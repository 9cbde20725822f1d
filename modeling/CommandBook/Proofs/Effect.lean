import CommandBook.Effect
import CommandBook.Proofs.FileTree
import Mathlib.Data.List.Basic

/-!
# Effects of steps in a row

A step emits only effects of some kind if each of its parts does. Effects that are quiet change no
file, so files can be followed through a row of effects from one change to the next.

## Main statements

* `Step.Emits.bind` — the kinds of effects of two steps in a row
* `Effect.applyAll_of_quiet` — quiet effects leave the files as they are
* `Effect.withoutErr` — all effects but the lines on standard error
-/

namespace CommandBook

/-! ## Results in a row -/

theorem exists_of_bind_eq_ok {ε α β : Type} {x : Except ε α} {f : α → Except ε β} {b : β}
    (h : x >>= f = .ok b) : ∃ a, x = .ok a ∧ f a = .ok b := by
  cases x with
  | error e => cases h
  | ok a => exact ⟨a, rfl, h⟩

theorem exists_of_map_eq_ok {ε α β : Type} {x : Except ε α} {f : α → β} {b : β}
    (h : x.map f = .ok b) : ∃ a, x = .ok a ∧ f a = b := by
  cases x with
  | error e => cases h
  | ok a => exact ⟨a, rfl, Except.ok.inj h⟩

theorem mapError_eq_ok_iff {ε ε' α : Type} {f : ε → ε'} {x : Except ε α} {a : α} :
    x.mapError f = .ok a ↔ x = .ok a := by
  cases x <;> simp [Except.mapError]

theorem bind_eq_ok_iff {ε α β : Type} {x : Except ε α} {f : α → Except ε β} {b : β} :
    x >>= f = .ok b ↔ ∃ a, x = .ok a ∧ f a = .ok b := by
  refine ⟨exists_of_bind_eq_ok, ?_⟩
  rintro ⟨a, rfl, h⟩
  exact h

theorem bind_eq_error_iff {ε α β : Type} {x : Except ε α} {f : α → Except ε β} {e : ε} :
    x >>= f = .error e ↔ x = .error e ∨ ∃ a, x = .ok a ∧ f a = .error e := by
  cases x with
  | error e' => simp [Bind.bind, Except.bind]
  | ok a => simp [Bind.bind, Except.bind]

theorem mapError_eq_error_iff {ε ε' α : Type} {g : ε → ε'} {x : Except ε α} {e : ε'} :
    x.mapError g = .error e ↔ ∃ e', x = .error e' ∧ g e' = e := by
  cases x <;> simp [Except.mapError]

theorem eq_ok_of_toOption {ε α : Type} {r : Except ε α} {a : α} (h : r.toOption = some a) :
    r = .ok a := by
  cases r with
  | error e => cases h
  | ok b => exact congrArg Except.ok (Option.some.inj h)

/-! ## Steps in a row -/

namespace Step

variable {ε α β : Type} {P : Effect → Prop} {s : Step ε α} {f : α → Step ε β}

/-- All effects of a step are of some kind. -/
def Emits (P : Effect → Prop) (s : Step ε α) : Prop := ∀ e ∈ s.effects, P e

theorem emits_ok (a : α) : (Step.ok a : Step ε α).Emits P := fun _ he => absurd he List.not_mem_nil

theorem emits_ofExcept (r : Except ε α) : (ofExcept r).Emits P := fun _ he =>
  absurd he List.not_mem_nil

theorem emits_emit {e : Effect} (h : P e) : (emit e : Step ε Unit).Emits P := fun _ he => by
  rwa [List.mem_singleton.1 he]

/-- Two steps in a row. -/
theorem Emits.bind (hs : s.Emits P) (hf : ∀ a, s.result = .ok a → (f a).Emits P) :
    (s.bind f).Emits P := by
  intro e he
  cases hr : s.result with
  | error reason =>
    rw [effects_bind_error hr] at he
    exact hs e he
  | ok a =>
    rw [effects_bind_ok hr, List.mem_append] at he
    rcases he with he | he
    · exact hs e he
    · exact hf a hr e he

/-- What two steps in a row emit begins with what the first one does. -/
theorem exists_effects_bind (hf : ∀ a, s.result = .ok a → (f a).Emits P) :
    ∃ rest, (s.bind f).effects = s.effects ++ rest ∧ ∀ e ∈ rest, P e := by
  cases hr : s.result with
  | error reason =>
    refine ⟨[], ?_, fun _ he => absurd he List.not_mem_nil⟩
    rw [effects_bind_error hr, List.append_nil]
  | ok a => exact ⟨(f a).effects, effects_bind_ok hr, hf a hr⟩

/-- Where two steps in a row have a value, both have one. -/
theorem result_bind_eq_ok_iff {b : β} :
    (s.bind f).result = .ok b ↔ ∃ a, s.result = .ok a ∧ (f a).result = .ok b := by
  cases hr : s.result with
  | error reason => simp [result_bind_error hr]
  | ok a => simp [result_bind_ok hr]

/-- A step that has a value. -/
def Completes (s : Step ε α) : Prop := ∃ a, s.result = .ok a

theorem completes_ok (a : α) : (ok a : Step ε α).Completes := ⟨a, rfl⟩

theorem completes_unit_iff {s : Step ε Unit} : s.Completes ↔ s.result = .ok () :=
  ⟨fun ⟨(), h⟩ => h, fun h => ⟨(), h⟩⟩

theorem completes_bind_iff :
    (s.bind f).Completes ↔ s.Completes ∧ ∀ a, s.result = .ok a → (f a).Completes := by
  cases hr : s.result with
  | error reason => simp [Completes, result_bind_error hr, hr]
  | ok a => simp [Completes, result_bind_ok hr, hr]

/-- A value without effects is handed on. -/
theorem ok_bind (a : α) (f : α → Step ε β) : (ok a >>= f) = f a := rfl

theorem ofExcept_bind {r : Except ε α} {a : α} (h : (ofExcept r).result = .ok a)
    (f : α → Step ε β) : (ofExcept r >>= f) = f a := by
  rw [show r = .ok a from h]
  rfl

theorem ofExcept_ok_bind {δ : Type} (g : δ → ε) (a : α) (f : α → Step ε β) :
    (ofExcept ((Except.ok a).mapError g) >>= f) = f a := rfl

theorem ofExcept_error_bind {δ : Type} (g : δ → ε) (reason : δ) (f : α → Step ε β) :
    (ofExcept ((Except.error reason).mapError g) >>= f) = stop (g reason) := rfl

/-- Effects that come with a value stay in front of what is made of it. -/
theorem emitAll_bind_ok_bind (es : List Effect) (a : α) (f : α → Step ε β) :
    ((emitAll es : Step ε Unit).bind fun _ => .ok a).bind f = (emitAll es).bind fun _ => f a :=
  congrArg (fun before => Step.mk (before ++ (f a).effects) (f a).result) (List.append_nil es)

/-- A step and what is made of its value. -/
theorem bind_ok (s : Step ε α) (g : α → β) :
    (s.bind fun a => .ok (g a)) = ⟨s.effects, s.result.map g⟩ := by
  obtain ⟨effects, _ | a⟩ := s
  · rfl
  · exact congrArg (Step.mk · _) (List.append_nil effects)

end Step

/-! ## Quiet effects -/

namespace Effect

/-- An effect that changes no file. -/
def IsQuiet : Effect → Prop
  | .makeDirectory _ | .write _ _ | .remove _ => False
  | _ => True

theorem apply_of_quiet (files : FileTree) : ∀ {e : Effect}, e.IsQuiet → apply files e = files
  | .out _, _ => rfl
  | .verbatim _, _ => rfl
  | .err _, _ => rfl
  | .request _, _ => rfl
  | .command _, _ => rfl

/-- Quiet effects leave the files as they are. -/
theorem applyAll_of_quiet {files : FileTree} : ∀ {es : List Effect}, (∀ e ∈ es, e.IsQuiet) →
    applyAll files es = files
  | [], _ => rfl
  | e :: es, h => by
    rw [applyAll, List.foldl_cons, apply_of_quiet files (h e List.mem_cons_self)]
    exact applyAll_of_quiet fun d hd => h d (List.mem_cons_of_mem _ hd)

theorem applyAll_append (files : FileTree) (es es' : List Effect) :
    applyAll files (es ++ es') = applyAll (applyAll files es) es' := List.foldl_append

theorem applyAll_makeDirectory (files : FileTree) (made : List Location) :
    applyAll files (made.map .makeDirectory) = files.withDirectories made := by
  rw [applyAll, List.foldl_map]
  rfl

theorem requests_append (es es' : List Effect) :
    requests (es ++ es') = requests es ++ requests es' := List.filterMap_append

theorem commands_append (es es' : List Effect) :
    commands (es ++ es') = commands es ++ commands es' := List.filterMap_append

/-- A row of effects without the lines on standard error. -/
def withoutErr (es : List Effect) : List Effect :=
  es.filter fun
    | .err _ => false
    | _ => true

@[simp] theorem withoutErr_nil : withoutErr [] = [] := rfl

@[simp] theorem withoutErr_append (es es' : List Effect) :
    withoutErr (es ++ es') = withoutErr es ++ withoutErr es' := List.filter_append es es'

theorem withoutErr_of_forall {es : List Effect} (h : ∀ e ∈ es, ∃ text, e = .err text) :
    withoutErr es = [] := by
  rw [withoutErr, List.filter_eq_nil_iff]
  intro e he
  obtain ⟨text, rfl⟩ := h e he
  exact Bool.false_ne_true

theorem withoutErr_eq_self {es : List Effect} (h : ∀ text, .err text ∉ es) :
    withoutErr es = es := by
  rw [withoutErr, List.filter_eq_self]
  intro e he
  cases e with
  | err text => exact absurd he (h text)
  | _ => rfl

/-- What looks at effects of some kinds only does not miss the others. -/
theorem filterMap_filter_of_hidden {α : Type} {P : Effect → Bool} {f : Effect → Option α}
    (h : ∀ e, P e = false → f e = none) (es : List Effect) :
    (es.filter P).filterMap f = es.filterMap f := by
  rw [List.filterMap_filter]
  refine List.filterMap_congr fun e _ => ?_
  cases hP : P e with
  | true => rfl
  | false => exact (h e hP).symm

theorem filterMap_withoutErr {α : Type} {f : Effect → Option α} (h : ∀ text, f (.err text) = none)
    (es : List Effect) : (withoutErr es).filterMap f = es.filterMap f := by
  refine filterMap_filter_of_hidden (fun e he => ?_) es
  cases e with
  | err text => exact h text
  | _ => cases he

@[simp] theorem stdout_withoutErr (es : List Effect) : stdout (withoutErr es) = stdout es :=
  congrArg String.join (filterMap_withoutErr (fun _ => rfl) es)

@[simp] theorem requests_withoutErr (es : List Effect) :
    requests (withoutErr es) = requests es := filterMap_withoutErr (fun _ => rfl) es

@[simp] theorem commands_withoutErr (es : List Effect) :
    commands (withoutErr es) = commands es := filterMap_withoutErr (fun _ => rfl) es

@[simp] theorem applyAll_withoutErr (files : FileTree) (es : List Effect) :
    applyAll files (withoutErr es) = applyAll files es := by
  induction es generalizing files with
  | nil => rfl
  | cons e es ih => cases e <;> exact ih _

/-- From each shell command on, nothing changes what lies at a path. -/
def Spares (p : FilePath) (files : FileTree) (es : List Effect) : Prop :=
  ∀ before command after, es = before ++ .command command :: after →
    (applyAll files es).find? p = (applyAll files before).find? p

theorem spares_of_not_mem {p : FilePath} {files : FileTree} {es : List Effect}
    (h : ∀ command, .command command ∉ es) : Spares p files es :=
  fun before command _ hes =>
    absurd (hes ▸ List.mem_append_right before List.mem_cons_self) (h command)

end Effect

end CommandBook
