import CommandBook.Proofs.Invocation.Containment
import CommandBook.Proofs.Invocation.History

/-!
# The order of what an invocation does

Lines on standard error apart, an invocation makes at most one request; then, if that succeeded, it
shows a line and saves once what it captured; then it runs one shell command. Each of the four parts
is there exactly under its own condition, whatever became of the others: a request that fails costs
the line and the saving, not the shell command, which then sees the scope as it was.

`Asks`, `Shows`, `Saves` and `Executes` say what each part is. What stops an invocation cuts the row
short: where an answer cannot be shown or captured, nothing that would follow is there.

## Main statements

* `isOrdered_firstStage` — the parts before the shell command
* `executes_shellStage` — the shell command
* `withoutErr_run` — the whole invocation
-/

namespace CommandBook.Invocation

variable {definition : CommandDefinition} {endpoint : String} {scope : Scope} {config : RunConfig}
  {around : Surroundings} {verbose : Bool} {request : Request} {reply : Reply}

/-! ## The parts -/

/-- An invocation whose request is answered with success; on demand the answer's time is told. -/
structure Succeeds (definition : CommandDefinition) (scope : Scope) (config : RunConfig)
    (around : Surroundings) (verbose : Bool) (reply : Reply) : Prop where
  replied : IsReplied definition scope config around reply
  ok : reply.ok
  timed : verbose → ∃ line, statusLine reply = .ok line

/-- A body that parses once placeholders are replaced; null counts as one. -/
def Parses (scope : Scope) (body : Value) : Prop := ∃ json, payload scope body = .ok (.ok json)

/-- One request, where there is an endpoint and the body parses. -/
structure Asks (definition : CommandDefinition) (scope : Scope) (config : RunConfig)
    (es : List Effect) : Prop where
  once : ∀ endpoint, given? definition.endpoint = some endpoint → Parses scope definition.body →
    ∃ request, prepare definition endpoint scope config = .ok (.ok request) ∧
      es = [.request request]
  otherwise : given? definition.endpoint = none ∨ ¬Parses scope definition.body → es = []

/-- One line, where there is something to show: the response resolved in the scope, filled from the
answer before if there is an endpoint. What is captured is not in the scope yet. -/
structure Shows (definition : CommandDefinition) (scope : Scope) (config : RunConfig)
    (around : Surroundings) (verbose : Bool) (es : List Effect) : Prop where
  unasked : given? definition.endpoint = none →
    es = ((given? definition.response).map fun template =>
      .out (Template.resolve scope template)).toList
  answered : ∀ reply template text, Succeeds definition scope config around verbose reply →
    given? definition.response = some template → Response.display template reply.body = .ok text →
      es = [.out (Template.resolve scope text)]
  otherwise : (given? definition.endpoint).isSome →
    (¬∃ reply template text, Succeeds definition scope config around verbose reply ∧
      given? definition.response = some template ∧
      Response.display template reply.body = .ok text) → es = []

/-- One write of the session file, where something is captured and saving goes well. Directories on
the way to it may be made before. -/
structure Saves (definition : CommandDefinition) (scope : Scope) (config : RunConfig)
    (around : Surroundings) (verbose : Bool) (es : List Effect) : Prop where
  once : ∀ reply final, Reaches definition scope config around verbose reply final →
    (around.store.saveScope around.files final).result = .ok () →
      ∃ (made : List Location) (place : Location), es = made.map .makeDirectory ++
        [.write place (Session.ofScope final).fileText.toUTF8]
  stopped : ∀ reply final reason, Reaches definition scope config around verbose reply final →
    (around.store.saveScope around.files final).result = .error reason →
      ∃ made : List Location, es = made.map .makeDirectory
  otherwise : (¬∃ reply final, Reaches definition scope config around verbose reply final) → es = []

/-- What a shell command leaves: the files that it wrote and, if it went well, what it printed. -/
def told : Except Fault ShellOutcome → List Effect
  | .error _ => []
  | .ok outcome =>
    outcome.written.map (fun w => .write w.1 w.2) ++
      if outcome.failure?.isNone then [.out (Text.trim outcome.stdout)] else []

/-- One shell command, where there is one and nothing stopped the invocation before. Its text sees
what was captured exactly where the request succeeded. -/
structure Executes (definition : CommandDefinition) (scope : Scope) (config : RunConfig)
    (around : Surroundings) (verbose : Bool) (es : List Effect) : Prop where
  once : ∀ sent final template,
    (firstStage definition scope config around verbose).result = .ok (sent, final) →
      given? definition.execute = some template →
        es = .command (Template.resolve final template) ::
          told (around.shell (Effect.applyAll around.files
            (firstStage definition scope config around verbose).effects)
              (Template.resolve final template))
  extended : ∀ sent final reply,
    (firstStage definition scope config around verbose).result = .ok (sent, final) →
      Succeeds definition scope config around verbose reply →
        captureAll reply.body definition.set.entries scope = .ok final
  unextended : ∀ sent final,
    (firstStage definition scope config around verbose).result = .ok (sent, final) →
      (¬∃ reply, Succeeds definition scope config around verbose reply) → final = scope
  otherwise : given? definition.execute = none ∨
    ¬(firstStage definition scope config around verbose).Completes → es = []

/-! ## The request -/

theorem parses_iff : Parses scope definition.body ↔
    ∃ request, prepare definition endpoint scope config = .ok (.ok request) := by
  unfold Parses
  rw [prepare]
  cases payload scope definition.body with
  | error reason =>
    constructor <;>
      · rintro ⟨_, h⟩
        cases h
  | ok prepared =>
    cases prepared with
    | error e =>
      constructor <;>
        · rintro ⟨_, h⟩
          cases h
    | ok json => exact ⟨fun _ => ⟨_, rfl⟩, fun _ => ⟨_, rfl⟩⟩

theorem succeeds_iff (hendpoint : given? definition.endpoint = some endpoint) :
    Succeeds definition scope config around verbose reply ↔
      (ask definition endpoint scope config around verbose).result = .ok (.ok reply) := by
  constructor
  · rintro ⟨⟨endpoint', request, hendpoint', hprepare, hreply⟩, hok, htimed⟩
    obtain rfl : endpoint = endpoint' := Option.some.inj (hendpoint.symm.trans hendpoint')
    exact ask_eq_ok_iff.2 ⟨request, hprepare, send_eq_ok_iff.2 ⟨hreply, hok, htimed⟩⟩
  · intro hask
    obtain ⟨request, hprepare, hsend⟩ := ask_eq_ok_iff.1 hask
    obtain ⟨hreply, hok, htimed⟩ := send_eq_ok_iff.1 hsend
    exact ⟨⟨endpoint, request, hendpoint, hprepare, hreply⟩, hok, htimed⟩

theorem Succeeds.unique {reply' : Reply}
    (h : Succeeds definition scope config around verbose reply)
    (h' : Succeeds definition scope config around verbose reply') : reply = reply' := by
  obtain ⟨endpoint, -, hendpoint, -⟩ := h.replied
  have hresult := ((succeeds_iff hendpoint).1 h).symm.trans ((succeeds_iff hendpoint).1 h')
  simpa using hresult

theorem not_succeeds_of_endpoint_eq_none (h : given? definition.endpoint = none) :
    ¬∃ reply, Succeeds definition scope config around verbose reply := by
  rintro ⟨reply, ⟨endpoint, request, hendpoint, -⟩, -⟩
  rw [h] at hendpoint
  cases hendpoint

theorem withoutErr_send (request : Request) (around : Surroundings) (verbose : Bool) :
    Effect.withoutErr (send request around verbose).effects = [.request request] := by
  obtain ⟨before, after, herrs, heffects⟩ := effects_send request around verbose
  rw [heffects, ← List.singleton_append, Effect.withoutErr_append, Effect.withoutErr_append,
    Effect.withoutErr_of_forall fun e he => herrs e (List.mem_append_left _ he),
    Effect.withoutErr_of_forall fun e he => herrs e (List.mem_append_right _ he)]
  rfl

theorem asks_ask (hendpoint : given? definition.endpoint = some endpoint) (around : Surroundings)
    (verbose : Bool) :
    Asks definition scope config
      (Effect.withoutErr (ask definition endpoint scope config around verbose).effects) := by
  constructor
  case once =>
    intro endpoint' hendpoint' hparses
    obtain rfl : endpoint = endpoint' := Option.some.inj (hendpoint.symm.trans hendpoint')
    obtain ⟨request, hprepare⟩ :
        ∃ request, prepare definition endpoint scope config = .ok (.ok request) :=
      parses_iff.1 hparses
    refine ⟨request, hprepare, ?_⟩
    rw [ask, hprepare]
    exact withoutErr_send request around verbose
  case otherwise =>
    rintro (hnone | hparses)
    · rw [hendpoint] at hnone
      cases hnone
    · rw [ask]
      cases hprepare : prepare definition endpoint scope config with
      | error reason => rfl
      | ok prepared =>
        cases prepared with
        | error e => rfl
        | ok request => exact absurd (parses_iff.2 ⟨request, hprepare⟩) hparses

/-! ## What follows on the request -/

theorem shows_of_answer (hendpoint : given? definition.endpoint = some endpoint)
    (hsucceeds : Succeeds definition scope config around verbose reply) :
    Shows definition scope config around verbose
      (showResponse definition reply.body scope).effects := by
  constructor
  case unasked =>
    intro hnone
    rw [hendpoint] at hnone
    cases hnone
  case answered =>
    intro reply' template text hsucceeds' hresponse hdisplay
    obtain rfl := hsucceeds.unique hsucceeds'
    rw [showResponse, hresponse]
    simp only [hdisplay]
    rfl
  case otherwise =>
    intro _ hnothing
    unfold showResponse
    split
    · rfl
    · next template hresponse =>
      cases hdisplay : Response.display template reply.body with
      | error f => rfl
      | ok text => exact absurd ⟨reply, template, text, hsucceeds, hresponse, hdisplay⟩ hnothing

/-- Nothing is shown of a request that did not succeed. -/
theorem shows_nil (hendpoint : given? definition.endpoint = some endpoint)
    (h : ¬∃ reply, Succeeds definition scope config around verbose reply) :
    Shows definition scope config around verbose [] := by
  constructor
  case unasked =>
    intro hnone
    rw [hendpoint] at hnone
    cases hnone
  case answered => exact fun reply _ _ hsucceeds => absurd ⟨reply, hsucceeds⟩ h
  case otherwise => exact fun _ _ => rfl

/-- Without an endpoint the response is shown as it stands. -/
theorem shows_of_endpoint_eq_none (hendpoint : given? definition.endpoint = none) :
    Shows definition scope config around verbose
      ((given? definition.response).map fun template =>
        .out (Template.resolve scope template)).toList := by
  constructor
  case unasked => exact fun _ => rfl
  case answered =>
    exact fun reply _ _ hsucceeds =>
      absurd ⟨reply, hsucceeds⟩ (not_succeeds_of_endpoint_eq_none hendpoint)
  case otherwise =>
    intro hsome
    rw [hendpoint] at hsome
    cases hsome

/-! ## What is saved -/

theorem Reaches.succeeds {final : Scope}
    (h : Reaches definition scope config around verbose reply final) :
    Succeeds definition scope config around verbose reply :=
  ⟨h.asked, h.succeeded, h.timed⟩

/-- An invocation comes to saving with one answer and one scope. -/
theorem Reaches.unique {reply' : Reply} {final final' : Scope}
    (h : Reaches definition scope config around verbose reply final)
    (h' : Reaches definition scope config around verbose reply' final') : final = final' := by
  obtain rfl := h.succeeds.unique h'.succeeds
  exact Except.ok.inj (h.captured.symm.trans h'.captured)

theorem saves_nil (h : ¬∃ reply final, Reaches definition scope config around verbose reply final) :
    Saves definition scope config around verbose [] where
  once := fun reply final hreaches => absurd ⟨reply, final, hreaches⟩ h
  stopped := fun reply final _ hreaches => absurd ⟨reply, final, hreaches⟩ h
  otherwise := fun _ => rfl

/-- Saving makes directories, and then it writes, unless it stops. -/
theorem effects_saveScope (store : SessionStore) (files : FileTree) (scope : Scope) :
    ∃ made : List Location,
      ((store.saveScope files scope).result = .ok () ∧ ∃ place,
        (store.saveScope files scope).effects = made.map .makeDirectory ++
          [.write place (Session.ofScope scope).fileText.toUTF8]) ∨
      ((store.saveScope files scope).result ≠ .ok () ∧
        (store.saveScope files scope).effects = made.map .makeDirectory) := by
  rcases SessionStore.saveScope_cases store files scope with ⟨-, hsave⟩ | ⟨-, hsave⟩
  · rw [hsave]
    exact ⟨[], Or.inr ⟨nofun, rfl⟩⟩
  · rw [hsave]
    rcases SessionStore.save_cases store files (Session.ofScope scope) with
      ⟨made, f, -, hsave⟩ | ⟨made, f, -, -, hsave⟩ | ⟨made, place, -, -, hsave⟩
    · rw [hsave]
      exact ⟨made, Or.inr ⟨nofun, rfl⟩⟩
    · rw [hsave]
      exact ⟨made, Or.inr ⟨nofun, rfl⟩⟩
    · rw [hsave]
      exact ⟨made, Or.inl ⟨rfl, place, rfl⟩⟩

theorem saves_of_reaches {final : Scope}
    (h : Reaches definition scope config around verbose reply final) :
    Saves definition scope config around verbose
      (around.store.saveScope around.files final).effects := by
  obtain ⟨made, ⟨hsaved, place, heffects⟩ | ⟨hstopped, heffects⟩⟩ :=
    effects_saveScope around.store around.files final
  all_goals constructor
  case inl.once =>
    intro reply' final' h' _
    obtain rfl := h.unique h'
    exact ⟨made, place, heffects⟩
  case inl.stopped =>
    intro reply' final' reason h' hreason
    obtain rfl := h.unique h'
    rw [hsaved] at hreason
    cases hreason
  case inr.once =>
    intro reply' final' h' hsaved
    obtain rfl := h.unique h'
    exact absurd hsaved hstopped
  case inr.stopped => exact fun _ _ _ _ _ => ⟨made, heffects⟩
  all_goals exact fun hnot => absurd ⟨reply, final, h⟩ hnot

theorem saves_captureAndSave (hsucceeds : Succeeds definition scope config around verbose reply)
    (hshow : (showResponse definition reply.body scope).result = .ok ()) :
    Saves definition scope config around verbose
      (captureAndSave definition reply.body scope around).effects := by
  cases hset : definition.set.isEmpty with
  | true =>
    rw [captureAndSave_eq, hset]
    refine saves_nil fun ⟨reply', final, hreaches⟩ => ?_
    rw [hreaches.captures] at hset
    cases hset
  | false =>
    cases hcaptured : captureAll reply.body definition.set.entries scope with
    | error f =>
      rw [captureAndSave_eq, hset, hcaptured]
      refine saves_nil fun ⟨reply', final, hreaches⟩ => ?_
      rw [hsucceeds.unique hreaches.succeeds, hreaches.captured] at hcaptured
      cases hcaptured
    | ok final =>
      have hreaches : Reaches definition scope config around verbose reply final :=
        ⟨hsucceeds.replied, hsucceeds.ok, hsucceeds.timed, showResponse_eq_ok_iff.1 hshow, hset,
          hcaptured⟩
      rw [captureAndSave_of_reaches hreaches, Step.bind_ok]
      exact saves_of_reaches hreaches

/-! ## The stages in order -/

/-- A row of effects up to the shell command: the request, the line, the saving. -/
def IsOrdered (definition : CommandDefinition) (scope : Scope) (config : RunConfig)
    (around : Surroundings) (verbose : Bool) (es : List Effect) : Prop :=
  ∃ asked shown saved, es = asked ++ shown ++ saved ∧
    Asks definition scope config asked ∧
    Shows definition scope config around verbose shown ∧
    Saves definition scope config around verbose saved

theorem saves_nil_of_not_succeeds
    (h : ¬∃ reply, Succeeds definition scope config around verbose reply) :
    Saves definition scope config around verbose [] :=
  saves_nil fun ⟨reply, _, hreaches⟩ => h ⟨reply, hreaches.succeeds⟩

/-- A request that did not succeed is all there is. -/
theorem isOrdered_ask (hendpoint : given? definition.endpoint = some endpoint)
    (h : ¬∃ reply, Succeeds definition scope config around verbose reply) :
    IsOrdered definition scope config around verbose
      (Effect.withoutErr (ask definition endpoint scope config around verbose).effects) :=
  ⟨_, [], [], by simp, asks_ask hendpoint around verbose, shows_nil hendpoint h,
    saves_nil_of_not_succeeds h⟩

/-- On an answer, what is shown of it comes first, and what is captured is saved after it. -/
theorem isOrdered_conclude (hendpoint : given? definition.endpoint = some endpoint)
    (hsucceeds : Succeeds definition scope config around verbose reply) :
    IsOrdered definition scope config around verbose (Effect.withoutErr
      ((ask definition endpoint scope config around verbose).effects ++
        (conclude definition scope around (.ok reply)).effects)) := by
  have hshown : Effect.withoutErr (showResponse definition reply.body scope).effects =
      (showResponse definition reply.body scope).effects := by
    refine Effect.withoutErr_eq_self fun text htext => ?_
    have hout : (showResponse definition reply.body scope).Emits fun e => e ≠ .err text :=
      emits_showResponse (fun _ => nofun) _
    exact hout _ htext rfl
  have hsaved : Effect.withoutErr (captureAndSave definition reply.body scope around).effects =
      (captureAndSave definition reply.body scope around).effects := by
    refine Effect.withoutErr_eq_self fun text htext => ?_
    have hfiles : (captureAndSave definition reply.body scope around).Emits
        fun e => e ≠ .err text := emits_captureAndSave (fun _ => nofun) (fun _ _ => nofun) _
    exact hfiles _ htext rfl
  have hcapture : ((captureAndSave definition reply.body scope around).bind fun final =>
      (.ok (true, final) : Step Stop (Bool × Scope))).effects =
        (captureAndSave definition reply.body scope around).effects := by rw [Step.bind_ok]
  rw [conclude, Effect.withoutErr_append]
  cases hshow : (showResponse definition reply.body scope).result with
  | error reason =>
    -- the answer could not be shown, so saving is not reached
    refine ⟨_, _, [], ?_, asks_ask hendpoint around verbose, shows_of_answer hendpoint hsucceeds,
      saves_nil ?_⟩
    · rw [Step.effects_bind_error hshow, hshown, List.append_nil]
    · rintro ⟨reply', final, hreaches⟩
      obtain rfl := hsucceeds.unique hreaches.succeeds
      rw [showResponse_eq_ok_iff.2 hreaches.shown] at hshow
      cases hshow
  | ok _ =>
    refine ⟨_, _, _, ?_, asks_ask hendpoint around verbose, shows_of_answer hendpoint hsucceeds,
      saves_captureAndSave hsucceeds hshow⟩
    rw [Step.effects_bind_ok hshow, hcapture, Effect.withoutErr_append, hshown, hsaved,
      List.append_assoc]

/-- **Before the shell command**: the request, the line, the saving. -/
theorem isOrdered_firstStage (definition : CommandDefinition) (scope : Scope)
    (config : RunConfig) (around : Surroundings) (verbose : Bool) :
    IsOrdered definition scope config around verbose
      (Effect.withoutErr (firstStage definition scope config around verbose).effects) := by
  cases hendpoint : given? definition.endpoint with
  | none =>
    refine ⟨[], _, [], ?_, ⟨fun _ h => ?_, fun _ => rfl⟩, shows_of_endpoint_eq_none hendpoint,
      saves_nil_of_not_succeeds (not_succeeds_of_endpoint_eq_none hendpoint)⟩
    · rw [firstStage, hendpoint]
      cases given? definition.response <;> rfl
    · rw [hendpoint] at h
      cases h
  | some endpoint =>
    have hfailed : (∀ reply,
        (ask definition endpoint scope config around verbose).result ≠ .ok (.ok reply)) →
          IsOrdered definition scope config around verbose
            (Effect.withoutErr (ask definition endpoint scope config around verbose).effects) := by
      intro h
      refine isOrdered_ask hendpoint ?_
      rintro ⟨reply, hsucceeds⟩
      exact h reply ((succeeds_iff hendpoint).1 hsucceeds)
    rw [firstStage_of_endpoint hendpoint]
    cases hask : (ask definition endpoint scope config around verbose).result with
    | error reason =>
      rw [Step.effects_bind_error hask]
      refine hfailed fun _ h => ?_
      cases hask.symm.trans h
    | ok outcome =>
      rw [Step.effects_bind_ok hask]
      cases outcome with
      | error e =>
        -- the report of a failed request goes to standard error
        have hreport :
            Effect.withoutErr (conclude definition scope around (.error e)).effects = [] := rfl
        rw [Effect.withoutErr_append, hreport, List.append_nil]
        refine hfailed fun _ h => ?_
        cases hask.symm.trans h
      | ok reply => exact isOrdered_conclude hendpoint ((succeeds_iff hendpoint).2 hask)

/-! ## The shell command -/

theorem withoutErr_trace (verbose : Bool) (text : String) :
    Effect.withoutErr (trace verbose text).effects = [] := by
  unfold trace
  split <;> rfl

theorem withoutErr_tell (r : Except Fault ShellOutcome) :
    Effect.withoutErr ((Step.ofExcept (Stop.ofFault r)).bind tell).effects = told r := by
  cases r with
  | error f => rfl
  | ok outcome =>
    have hwritten : Effect.withoutErr
        (Step.emitAll (outcome.written.map fun w => .write w.1 w.2) : Step Stop Unit).effects =
          outcome.written.map fun w => .write w.1 w.2 :=
      Effect.withoutErr_eq_self fun text htext => by simp [Step.emitAll] at htext
    show Effect.withoutErr (tell outcome).effects = _
    rw [tell, told]
    cases hfailure : outcome.failure? with
    | some report =>
      show Effect.withoutErr (_ ++ ([.err _] ++ [])) = _
      rw [Effect.withoutErr_append, hwritten]
      rfl
    | none =>
      show Effect.withoutErr (_ ++ ([.out _] ++ [])) = _
      rw [Effect.withoutErr_append, hwritten]
      rfl

/-- The shell stage makes its command, and then tells what came of it. -/
theorem withoutErr_shellStage {template : String} (h : given? definition.execute = some template) :
    Effect.withoutErr (shellStage definition scope around verbose).effects =
      .command (Template.resolve scope template) ::
        told (around.shell around.files (Template.resolve scope template)) := by
  rw [shellStage_of_execute h, Step.effects_bind_ok (trace_result _ _), Effect.withoutErr_append,
    withoutErr_trace, List.nil_append]
  show Effect.withoutErr ([.command _] ++ _) = _
  rw [Effect.withoutErr_append, withoutErr_tell]
  rfl

/-- The scope after an answer has what was captured. -/
theorem captureAll_of_firstStage {sent : Bool} {final : Scope}
    (h : (firstStage definition scope config around verbose).result = .ok (sent, final))
    (hsucceeds : Succeeds definition scope config around verbose reply) :
    captureAll reply.body definition.set.entries scope = .ok final := by
  obtain ⟨endpoint, -, hendpoint, -⟩ := hsucceeds.replied
  rw [firstStage_of_endpoint hendpoint, Step.result_bind_ok ((succeeds_iff hendpoint).1 hsucceeds),
    conclude, Step.result_bind_eq_ok_iff] at h
  obtain ⟨_, -, h⟩ := h
  obtain ⟨final', hcapture, h⟩ := Step.result_bind_eq_ok_iff.1 h
  cases h
  rw [captureAndSave_eq] at hcapture
  split at hcapture
  · next hset =>
    cases hcapture
    rw [OrderedMap.isEmpty, List.isEmpty_iff] at hset
    rw [hset]
    rfl
  · obtain ⟨saved, hsaved, hcapture⟩ := Step.result_bind_eq_ok_iff.1 hcapture
    obtain ⟨_, -, hcapture⟩ := Step.result_bind_eq_ok_iff.1 hcapture
    cases hcapture
    exact ofFault_eq_ok_iff.1 hsaved

/-- The scope after a request that did not succeed, or without one, is as it was. -/
theorem scope_of_firstStage {sent : Bool} {final : Scope}
    (h : (firstStage definition scope config around verbose).result = .ok (sent, final))
    (hnot : ¬∃ reply, Succeeds definition scope config around verbose reply) : final = scope := by
  cases hendpoint : given? definition.endpoint with
  | none =>
    rw [firstStage, hendpoint] at h
    cases hresponse : given? definition.response <;> rw [hresponse] at h <;> cases h <;> rfl
  | some endpoint =>
    rw [firstStage_of_endpoint hendpoint, Step.result_bind_eq_ok_iff] at h
    obtain ⟨outcome, hask, h⟩ := h
    cases outcome with
    | error e =>
      cases h
      rfl
    | ok reply => exact absurd ⟨reply, (succeeds_iff hendpoint).2 hask⟩ hnot

/-- Where the first stage stops, no shell command is made. -/
theorem executes_nil {reason : Stop}
    (h : (firstStage definition scope config around verbose).result = .error reason) :
    Executes definition scope config around verbose [] where
  once := fun _ _ _ h' => nomatch h.symm.trans h'
  extended := fun _ _ _ h' => nomatch h.symm.trans h'
  unextended := fun _ _ h' => nomatch h.symm.trans h'
  otherwise := fun _ => rfl

theorem executes_shellStage {sent : Bool} {final : Scope}
    (h : (firstStage definition scope config around verbose).result = .ok (sent, final)) :
    Executes definition scope config around verbose
      (Effect.withoutErr (shellStage definition final { around with
        files := Effect.applyAll around.files
          (firstStage definition scope config around verbose).effects } verbose).effects) := by
  constructor
  case once =>
    intro sent' final' template h' hexecute
    cases h.symm.trans h'
    exact withoutErr_shellStage hexecute
  case extended => exact fun _ _ _ h' hsucceeds => captureAll_of_firstStage h' hsucceeds
  case unextended => exact fun _ _ h' hnot => scope_of_firstStage h' hnot
  case otherwise =>
    rintro (hexecute | hstopped)
    · rw [shellStage, hexecute]
      rfl
    · exact absurd ⟨_, h⟩ hstopped

/-- **The order of what an invocation does** that finds a session. Lines on standard error apart it
is a request, a line, a saving and a shell command, in this order, and each of them is there exactly
under its condition. The scope of all four has arguments over the session over the variables of the
document; only the shell command sees captured values over it. -/
theorem withoutErr_run {arguments : OrderedMap String String} {session : Session}
    (hload : around.store.load around.files = .ok session) :
    (∃ asked shown saved executed,
      Effect.withoutErr (run definition arguments config around verbose).effects =
        asked ++ shown ++ saved ++ executed ∧
      Asks definition (scopeOf config session arguments) config asked ∧
      Shows definition (scopeOf config session arguments) config around verbose shown ∧
      Saves definition (scopeOf config session arguments) config around verbose saved ∧
      Executes definition (scopeOf config session arguments) config around verbose executed) ∧
    ∀ name, (scopeOf config session arguments).get? name =
      (((arguments.get? name).or (session.get? name)).map .str).or (config.defaults.get? name) := by
  refine ⟨?_, get?_scopeOf config session arguments⟩
  obtain ⟨asked, shown, saved, heffects, hasks, hshows, hsaves⟩ :=
    isOrdered_firstStage definition (scopeOf config session arguments) config around verbose
  rw [run_of_load definition arguments config verbose hload]
  cases hfirst : (firstStage definition (scopeOf config session arguments) config around
      verbose).result with
  | error reason =>
    refine ⟨asked, shown, saved, [], ?_, hasks, hshows, hsaves, executes_nil hfirst⟩
    rw [Step.effects_bind_error hfirst, heffects, List.append_nil]
  | ok outcome =>
    refine ⟨asked, shown, saved, _, ?_, hasks, hshows, hsaves, executes_shellStage hfirst⟩
    rw [Step.effects_bind_ok hfirst, Effect.withoutErr_append, heffects]
    exact congrArg _ (congrArg (fun s : Step Stop Nat => Effect.withoutErr s.effects)
      (Step.bind_ok _ _))

/-- A command with all four parts. -/
def greet : CommandDefinition :=
  { login with response := some "was [$token]", execute := some "printf $token" }

/-- All four parts in a row: the line does not see what is captured, the shell command does. -/
theorem withoutErr_run_greet :
    let around := answering ⟨.empty, [], []⟩ (.absolute ["session.json"])
    around.store.load around.files = .ok .empty ∧
      ∃ (request : Request) (made : List Location) (place : Location),
        Effect.withoutErr (run greet .empty {} around false).effects =
          [.request request] ++ [.out "was []"] ++
            (made.map .makeDirectory ++ [.write place
              (Session.ofScope (.ofList [("token", .str "abc")])).fileText.toUTF8]) ++
            [.command "printf abc"] := by
  have hload : (answering ⟨.empty, [], []⟩ (.absolute ["session.json"])).store.load
      (answering ⟨.empty, [], []⟩ (.absolute ["session.json"])).files = .ok .empty := rfl
  refine ⟨hload, ?_⟩
  obtain ⟨⟨asked, shown, saved, executed, heffects, hasks, hshows, hsaves, hexecutes⟩, -⟩ :=
    @withoutErr_run greet {} (answering ⟨.empty, [], []⟩ (.absolute ["session.json"])) false .empty
      .empty hload
  obtain ⟨request, -, hasked⟩ := hasks.once _ rfl ⟨_, rfl⟩
  obtain ⟨reply, hsucceeds, hbody⟩ : ∃ reply, Succeeds greet (scopeOf {} .empty .empty) {}
      (answering ⟨.empty, [], []⟩ (.absolute ["session.json"])) false reply ∧
        reply.body = .str "" :=
    ⟨_, ⟨⟨_, _, rfl, rfl, rfl⟩, rfl, nofun⟩, rfl⟩
  have hdisplay : Response.display "was [$token]" reply.body = .ok "was [$token]" := by
    rw [hbody]
    rfl
  have hreaches : Reaches greet (scopeOf {} .empty .empty) {}
      (answering ⟨.empty, [], []⟩ (.absolute ["session.json"])) false reply
        (.ofList [("token", .str "abc")]) := by
    refine ⟨hsucceeds.replied, hsucceeds.ok, hsucceeds.timed, ?_, rfl, ?_⟩
    · rintro template ⟨⟩
      exact ⟨_, hdisplay⟩
    · rw [hbody]
      rfl
  have hresolve : Template.resolve (scopeOf {} .empty .empty) "was [$token]" = "was []" := by
    decide +kernel
  have hshown := hshows.answered reply _ _ hsucceeds rfl hdisplay
  obtain ⟨made, place, hsaved⟩ := hsaves.once reply _ hreaches rfl
  have hexecuted : executed = [.command "printf abc"] :=
    hexecutes.once true (.ofList [("token", .str "abc")]) "printf $token" rfl rfl
  exact ⟨request, made, place, by rw [heffects, hasked, hshown, hresolve, hsaved, hexecuted]⟩

/-- Where the directory of the session file cannot be made, nothing is saved although a request
succeeded and there is something to capture, and the shell command is not made either. -/
theorem withoutErr_run_login_blocked :
    let around := answering SessionStore.blocked SessionStore.blockedPath
    let definition := { login with execute := some "printf done" }
    around.store.load around.files = .ok .empty ∧
      (∃ reply, Succeeds definition (scopeOf {} .empty .empty) {} around false reply) ∧
      definition.set.isEmpty = false ∧ ∃ request,
        Effect.withoutErr (run definition .empty {} around false).effects = [.request request] :=
  ⟨rfl, ⟨_, ⟨_, _, rfl, rfl, rfl⟩, rfl, nofun⟩, rfl, _, rfl⟩

end CommandBook.Invocation
