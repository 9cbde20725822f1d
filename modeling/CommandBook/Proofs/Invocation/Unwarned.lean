import CommandBook.Proofs.Invocation.Verbose

/-!
# Invocations do not warn

An invocation writes many lines to standard error: reports of failures and, on demand, what it sends
and runs and what was answered. None of them reads like a warning. There is one exception, since a
request line begins with the method, which is free text of the document; but then the request comes
right behind it.

## Main definitions

* `Effect.IsWarning` — texts that read like a warning
* `Effect.Unwarned` — rows of effects without one, request lines apart

## Main statements

* `Invocation.unwarned_run` — the whole invocation
-/

namespace CommandBook

open Invocation (requestLine)

namespace Effect

/-- A text that reads like a warning. -/
def IsWarning (text : String) : Prop := "WARNING: ".toList <+: text.toList

/-- An effect that is no warning. -/
def WarnsNot : Effect → Prop
  | .err text => ¬IsWarning text
  | _ => True

theorem warnsNot_err {text : String} (h : text.toList.head? ≠ some 'W') : (err text).WarnsNot := by
  rintro ⟨rest, htext⟩
  rw [← htext] at h
  exact h rfl

/-- What begins like something else is no warning. -/
theorem warnsNot_append {start : String} {c : Char} (hstart : start.toList.head? = some c)
    (hc : c ≠ 'W') (text : String) : (err (start ++ text)).WarnsNot := by
  refine warnsNot_err ?_
  rw [String.toList_append, List.head?_append, hstart]
  simpa using hc

/-- A row of effects without warnings. The line in front of a request counts for none, whatever it
reads like. -/
inductive Unwarned : List Effect → Prop
  | nil : Unwarned []
  | cons {e : Effect} {es : List Effect} : e.WarnsNot → Unwarned es → Unwarned (e :: es)
  | request {r : Request} {es : List Effect} :
      Unwarned es → Unwarned (.err (requestLine r) :: .request r :: es)

theorem Unwarned.append {es es' : List Effect} (h : Unwarned es) (h' : Unwarned es') :
    Unwarned (es ++ es') := by
  induction h with
  | nil => exact h'
  | cons he _ ih => exact .cons he ih
  | request _ ih => exact .request ih

theorem unwarned_of_forall : ∀ {es : List Effect}, (∀ e ∈ es, e.WarnsNot) → Unwarned es
  | [], _ => .nil
  | e :: _, h =>
    .cons (h e List.mem_cons_self) (unwarned_of_forall fun d hd => h d (List.mem_cons_of_mem _ hd))

end Effect

open Effect (WarnsNot Unwarned unwarned_of_forall warnsNot_append)

namespace Step

variable {ε α β : Type} {s : Step ε α} {f : α → Step ε β}

theorem unwarned_bind (hs : Unwarned s.effects)
    (hf : ∀ a, s.result = .ok a → Unwarned (f a).effects) : Unwarned (s.bind f).effects := by
  cases hr : s.result with
  | error reason =>
    rw [effects_bind_error hr]
    exact hs
  | ok a =>
    rw [effects_bind_ok hr]
    exact hs.append (hf a hr)

end Step

namespace Invocation

variable {definition : CommandDefinition} {endpoint : String} {scope : Scope} {config : RunConfig}
  {around : Surroundings} {verbose : Bool} {request : Request} {reply : Reply}

/-! ## The lines of an invocation -/

theorem warnsNot_report (report : String) : (Effect.err s!"ERROR: {report}").WarnsNot :=
  warnsNot_append rfl (by decide) report

theorem warnsNot_commandLine (command : String) : (Effect.err s!"EXEC: {command}").WarnsNot :=
  warnsNot_append rfl (by decide) command

theorem warnsNot_statusLine {line : String} (h : statusLine reply = .ok line) :
    (Effect.err line).WarnsNot := by
  unfold statusLine at h
  split at h
  · cases h
    simp only [String.append_assoc]
    exact warnsNot_append rfl (by decide) _
  · cases h
  · cases h

/-! ## The stages -/

theorem unwarned_send : Unwarned (send request around verbose).effects := by
  have hheard : ((Step.ofExcept (Stop.ofFault (around.exchange.reply request.timeout))).bind
      (hear verbose)).Emits WarnsNot :=
    (Step.emits_ofExcept _).bind fun reply _ =>
      emits_hear verbose fun line hline => warnsNot_statusLine hline
  rw [send_eq]
  cases verbose with
  | false => exact .cons trivial (unwarned_of_forall hheard)
  | true => exact .request (unwarned_of_forall hheard)

theorem unwarned_firstStage :
    Unwarned (firstStage definition scope config around verbose).effects := by
  cases hendpoint : given? definition.endpoint with
  | none =>
    rw [firstStage, hendpoint]
    cases given? definition.response with
    | none => exact .nil
    | some template => exact .cons trivial .nil
  | some endpoint =>
    rw [firstStage_of_endpoint hendpoint]
    have hasked : Unwarned (ask definition endpoint scope config around verbose).effects := by
      refine Step.unwarned_bind .nil fun prepared _ => ?_
      cases prepared with
      | error e => exact .nil
      | ok request => exact unwarned_send
    exact Step.unwarned_bind hasked fun outcome _ => unwarned_of_forall
      (emits_conclude_of (fun _ => trivial) warnsNot_report (fun _ => trivial) (fun _ _ => trivial)
        definition scope around outcome)

theorem unwarned_shellStage : Unwarned (shellStage definition scope around verbose).effects :=
  unwarned_of_forall (emits_shellStage (fun _ => trivial) warnsNot_commandLine warnsNot_report
    (fun _ => trivial) fun _ _ => trivial)

/-- **An invocation does not warn.** -/
theorem unwarned_run (definition : CommandDefinition) (arguments : OrderedMap String String)
    (config : RunConfig) (around : Surroundings) (verbose : Bool) :
    Unwarned (run definition arguments config around verbose).effects := by
  cases hload : around.store.load around.files with
  | error reason =>
    rw [run_of_load_error hload]
    exact .nil
  | ok session =>
    rw [run_of_load definition arguments config verbose hload]
    refine Step.unwarned_bind unwarned_firstStage fun outcome _ => ?_
    exact Step.unwarned_bind unwarned_shellStage fun ran _ => .nil

end Invocation

end CommandBook
