import CommandBook.Proofs.Effect

/-!
# Two steps side by side

Two steps are alike in the effects of some kinds if these effects are the same in both, and both
have values that belong together, or both stop for the same reason. Steps in a row are alike if each
part is, so two runs are compared part by part.

## Main statements

* `Step.Alike.bind` — two steps in a row
* `Effect.isOutgoing` — requests, shell commands and lines on standard error
-/

namespace CommandBook

namespace Step

variable {ε α β γ δ : Type} {P : Effect → Bool} {R : α → β → Prop} {Q : γ → δ → Prop}

/-- Two results: values that belong together, or one reason to stop. -/
inductive SameEnd (R : α → β → Prop) : Except ε α → Except ε β → Prop
  | ok {a : α} {b : β} (h : R a b) : SameEnd R (.ok a) (.ok b)
  | stop (reason : ε) : SameEnd R (.error reason) (.error reason)

/-- Two steps with the same effects of some kinds, and results that belong together. -/
structure Alike (P : Effect → Bool) (R : α → β → Prop) (s : Step ε α) (s' : Step ε β) : Prop where
  effects : s'.effects.filter P = s.effects.filter P
  result : SameEnd R s.result s'.result

theorem alike_ok {a : α} {b : β} (h : R a b) : Alike P R (ok a : Step ε α) (ok b) where
  effects := rfl
  result := .ok h

/-- Effects of other kinds make no difference. -/
theorem alike_emitAll {es es' : List Effect} (h : ∀ e ∈ es ++ es', P e = false) :
    Alike P Eq (emitAll es : Step ε Unit) (emitAll es') where
  effects := by
    have hnone : ∀ fs : List Effect, (∀ e ∈ fs, P e = false) → fs.filter P = [] := by
      intro fs hfs
      rw [List.filter_eq_nil_iff]
      intro e he
      simp [hfs e he]
    show es'.filter P = es.filter P
    rw [hnone es fun e he => h e (List.mem_append_left _ he),
      hnone es' fun e he => h e (List.mem_append_right _ he)]
  result := .ok rfl

theorem alike_emit {e e' : Effect} (h : P e = false) (h' : P e' = false) :
    Alike P Eq (emit e : Step ε Unit) (emit e') := by
  have hrow : ∀ d ∈ [e] ++ [e'], P d = false := by simp [h, h']
  exact alike_emitAll hrow

/-- **Two steps in a row.** -/
theorem Alike.bind {s : Step ε α} {s' : Step ε β} {f : α → Step ε γ} {f' : β → Step ε δ}
    (hs : Alike P R s s') (hf : ∀ a b, R a b → Alike P Q (f a) (f' b)) :
    Alike P Q (s.bind f) (s'.bind f') := by
  obtain ⟨effects, result⟩ := s
  obtain ⟨effects', result'⟩ := s'
  obtain ⟨heffects, hresult⟩ := hs
  cases hresult with
  | stop reason => exact ⟨heffects, .stop reason⟩
  | @ok a b h =>
    obtain ⟨hrest, hend⟩ := hf a b h
    refine ⟨?_, hend⟩
    show (effects' ++ (f' b).effects).filter P = (effects ++ (f a).effects).filter P
    rw [List.filter_append, List.filter_append, hrest]
    exact congrArg (· ++ _) heffects

/-- One step, and what is made of its value in two ways. -/
theorem alike_self_bind (s : Step ε α) {f : α → Step ε γ} {f' : α → Step ε δ}
    (h : ∀ a, Alike P Q (f a) (f' a)) : Alike P Q (s.bind f) (s.bind f') := by
  have hself : Alike P Eq s s := by
    refine ⟨rfl, ?_⟩
    cases s.result with
    | ok a => exact .ok rfl
    | error reason => exact .stop reason
  refine hself.bind fun a b hab => ?_
  subst hab
  exact h a

theorem SameEnd.eq {r r' : Except ε α} (h : SameEnd Eq r r') : r' = r := by
  cases h with
  | ok h => rw [h]
  | stop reason => rfl

end Step

namespace Effect

/-- What is sent or run, or reported on standard error. -/
def isOutgoing : Effect → Bool
  | .request _ | .command _ | .err _ => true
  | _ => false

variable {es es' : List Effect}

/-- Where the same leaves, what looks at nothing else sees the same. -/
theorem filterMap_of_outgoing {α : Type} {f : Effect → Option α}
    (hf : ∀ e, isOutgoing e = false → f e = none)
    (h : es'.filter isOutgoing = es.filter isOutgoing) : es'.filterMap f = es.filterMap f := by
  rw [← filterMap_filter_of_hidden hf es', h, filterMap_filter_of_hidden hf es]

theorem requests_of_outgoing (h : es'.filter isOutgoing = es.filter isOutgoing) :
    requests es' = requests es :=
  filterMap_of_outgoing (fun e he => by cases e <;> trivial) h

theorem commands_of_outgoing (h : es'.filter isOutgoing = es.filter isOutgoing) :
    commands es' = commands es :=
  filterMap_of_outgoing (fun e he => by cases e <;> trivial) h

theorem stderr_of_outgoing (h : es'.filter isOutgoing = es.filter isOutgoing) :
    stderr es' = stderr es :=
  congrArg String.join (filterMap_of_outgoing (fun e he => by cases e <;> trivial) h)

end Effect

end CommandBook
