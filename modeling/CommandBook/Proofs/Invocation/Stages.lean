import CommandBook.Invocation
import CommandBook.Proofs.Session.Store

/-!
# The stages of an invocation

What each stage emits and when it has a value. The one place where files change before the shell
command is the saving of captured values, which is the last thing that the request stage does:
`Reaches` says when an invocation gets there, and with which scope. All that comes before is quiet.

## Main statements

* `firstStage_of_reaches` — the stage up to and with saving
* `isQuiet_firstStage` — the stage of an invocation that does not get there
* `run_of_load_error`, `find?_run` — the whole invocation
-/

namespace CommandBook.Invocation

variable {definition : CommandDefinition} {endpoint : String} {scope : Scope} {config : RunConfig}
  {around : Surroundings} {verbose : Bool} {request : Request} {reply : Reply}

theorem ofFault_eq_ok_iff {α : Type} {r : Except Fault α} {a : α} :
    Stop.ofFault r = .ok a ↔ r = .ok a := by
  cases r <;> simp

/-! ## Sending -/

theorem emits_trace {P : Effect → Prop} {text : String} (h : P (.err text)) :
    (trace verbose text).Emits P := by
  unfold trace
  split
  · exact Step.emits_emit h
  · exact Step.emits_ok ()

/-- What is said about an answer, on demand. -/
def traceStatus (verbose : Bool) (reply : Reply) : Step Stop Unit :=
  if verbose then (Step.ofExcept (statusLine reply)).bind fun line => .emit (.err line) else .ok ()

/-- What an answer comes to. -/
def judge (reply : Reply) : Except RequestError Reply :=
  if reply.ok then .ok reply
  else .error {
    message := s!"Request failed with status {reply.status}"
    body := some reply.body }

/-- What is made of a reply: an answer is judged, a failure of the transport is passed on. -/
def hear (verbose : Bool) (reply : Reply) : Step Stop (Except RequestError Reply) :=
  match reply.error with
  | some e => .ok (.error { message := e })
  | none => (traceStatus verbose reply).bind fun _ => .ok (judge reply)

theorem send_eq : send request around verbose =
    (trace verbose s!"{request.method} {request.url}").bind fun _ =>
      (Step.emit (.request request)).bind fun _ =>
        (Step.ofExcept (Stop.ofFault (around.exchange.reply request.timeout))).bind
          (hear verbose) := by
  rw [send]
  refine congrArg (Step.bind _) (funext fun _ => congrArg (Step.bind _) (funext fun _ =>
    congrArg (Step.bind _) (funext fun reply => ?_)))
  unfold hear
  cases reply.error with
  | some e => rfl
  | none =>
    unfold traceStatus judge
    cases verbose with
    | false => cases reply.ok <;> rfl
    | true => cases statusLine reply <;> cases reply.ok <;> rfl

theorem trace_result (verbose : Bool) (text : String) : (trace verbose text).result = .ok () := by
  unfold trace
  split <;> rfl

theorem emits_hear {P : Effect → Prop} (verbose : Bool)
    (h : ∀ line, statusLine reply = .ok line → P (.err line)) : (hear verbose reply).Emits P := by
  have htrace : (traceStatus verbose reply).Emits P := by
    unfold traceStatus
    split
    · exact (Step.emits_ofExcept _).bind fun line hline => Step.emits_emit (h line hline)
    · exact Step.emits_ok ()
  unfold hear
  split
  · exact Step.emits_ok _
  · exact htrace.bind fun _ _ => Step.emits_ok _

theorem traceStatus_eq_ok_iff : (traceStatus verbose reply).result = .ok () ↔
    (verbose → ∃ line, statusLine reply = .ok line) := by
  unfold traceStatus
  cases verbose with
  | false => simp [Step.ok]
  | true =>
    rw [if_pos rfl, Step.result_bind_eq_ok_iff]
    simp [Step.ofExcept, Step.emit]

theorem hear_eq_ok_iff {reply' : Reply} : (hear verbose reply).result = .ok (.ok reply') ↔
    reply' = reply ∧ reply.ok ∧ (verbose → ∃ line, statusLine reply = .ok line) := by
  unfold hear judge
  cases herror : reply.error with
  | some e => simp [Step.ok, Reply.ok, herror]
  | none =>
    simp only [Step.result_bind_eq_ok_iff, Step.ok, ← traceStatus_eq_ok_iff]
    split
    · next h =>
      simp only [Except.ok.injEq, h, true_and]
      exact ⟨fun ⟨_, htrace, hreply⟩ => ⟨hreply.symm, htrace⟩,
        fun ⟨hreply, htrace⟩ => ⟨(), htrace, hreply.symm⟩⟩
    · next h => simp [h]

/-- Sending emits one request, and lines on standard error around it. -/
theorem effects_send (request : Request) (around : Surroundings) (verbose : Bool) :
    ∃ before after, (∀ e ∈ before ++ after, ∃ text, e = .err text) ∧
      (send request around verbose).effects = before ++ .request request :: after := by
  have hbefore : (trace verbose s!"{request.method} {request.url}").Emits
      fun e => ∃ text, e = .err text := emits_trace ⟨_, rfl⟩
  have hafter : ((Step.ofExcept (Stop.ofFault (around.exchange.reply request.timeout))).bind
      (hear verbose)).Emits fun e => ∃ text, e = .err text :=
    (Step.emits_ofExcept _).bind fun reply _ => emits_hear verbose fun text _ => ⟨text, rfl⟩
  refine ⟨(trace verbose s!"{request.method} {request.url}").effects,
    ((Step.ofExcept (Stop.ofFault (around.exchange.reply request.timeout))).bind
      (hear verbose)).effects, fun e he => ?_, ?_⟩
  · exact (List.mem_append.1 he).elim (hbefore e) (hafter e)
  · rw [send_eq, Step.effects_bind_ok (trace_result _ _)]
    rfl

/-- When sending has a successful reply. -/
theorem send_eq_ok_iff : (send request around verbose).result = .ok (.ok reply) ↔
    around.exchange.reply request.timeout = .ok reply ∧ reply.ok ∧
      (verbose → ∃ line, statusLine reply = .ok line) := by
  rw [send_eq, Step.result_bind_ok (trace_result _ _), Step.result_bind_ok (a := ()) rfl,
    Step.result_bind_eq_ok_iff]
  simp only [hear_eq_ok_iff, Step.ofExcept, ofFault_eq_ok_iff]
  constructor
  · rintro ⟨_, hreply, rfl, hok⟩
    exact ⟨hreply, hok⟩
  · rintro ⟨hreply, hok⟩
    exact ⟨reply, hreply, rfl, hok⟩

/-! ## The request stage -/

/-- Prepares the request and sends it. -/
def ask (definition : CommandDefinition) (endpoint : String) (scope : Scope) (config : RunConfig)
    (around : Surroundings) (verbose : Bool) : Step Stop (Except RequestError Reply) :=
  (Step.ofExcept (prepare definition endpoint scope config)).bind fun
    | .error e => .ok (.error e)
    | .ok request => send request around verbose

/-- What follows on the outcome of a request. -/
def conclude (definition : CommandDefinition) (scope : Scope) (around : Surroundings) :
    Except RequestError Reply → Step Stop (Bool × Scope)
  | .error e => (Step.emit (.err s!"ERROR: {e.report}")).bind fun _ => .ok (false, scope)
  | .ok reply =>
    (showResponse definition reply.body scope).bind fun _ =>
      (captureAndSave definition reply.body scope around).bind fun final => .ok (true, final)

theorem requestStage_eq : requestStage definition endpoint scope config around verbose =
    (ask definition endpoint scope config around verbose).bind
      (conclude definition scope around) := by
  rw [requestStage, ask]
  cases prepare definition endpoint scope config with
  | error reason => rfl
  | ok prepared =>
    cases prepared with
    | error e => rfl
    | ok request =>
      show (send request around verbose).bind _ = (send request around verbose).bind _
      refine congrArg (Step.bind _) (funext fun outcome => ?_)
      cases outcome <;> rfl

theorem firstStage_of_endpoint (h : given? definition.endpoint = some endpoint) :
    firstStage definition scope config around verbose =
      (ask definition endpoint scope config around verbose).bind
        (conclude definition scope around) := by
  rw [firstStage, h]
  exact requestStage_eq

theorem ask_eq_ok_iff : (ask definition endpoint scope config around verbose).result =
      .ok (.ok reply) ↔
    ∃ request, prepare definition endpoint scope config = .ok (.ok request) ∧
      (send request around verbose).result = .ok (.ok reply) := by
  rw [ask, Step.result_bind_eq_ok_iff]
  constructor
  · rintro ⟨prepared, hprepare, hsend⟩
    cases prepared with
    | error e => cases hsend
    | ok request => exact ⟨request, hprepare, hsend⟩
  · rintro ⟨request, hprepare, hsend⟩
    exact ⟨.ok request, hprepare, hsend⟩

theorem emits_send {P : Effect → Prop} (hrequest : P (.request request))
    (herr : ∀ text, P (.err text)) : (send request around verbose).Emits P := by
  obtain ⟨before, after, herrs, heffects⟩ := effects_send request around verbose
  intro e he
  rw [heffects, List.mem_append, List.mem_cons] at he
  rcases he with he | rfl | he
  · obtain ⟨text, rfl⟩ := herrs e (List.mem_append_left _ he)
    exact herr text
  · exact hrequest
  · obtain ⟨text, rfl⟩ := herrs e (List.mem_append_right _ he)
    exact herr text

theorem emits_ask {P : Effect → Prop}
    (hrequest : ∀ r, prepare definition endpoint scope config = .ok (.ok r) → P (.request r))
    (herr : ∀ text, P (.err text)) :
    (ask definition endpoint scope config around verbose).Emits P := by
  refine (Step.emits_ofExcept _).bind fun prepared hprepared => ?_
  cases prepared with
  | error e => exact Step.emits_ok _
  | ok request => exact emits_send (hrequest request hprepared) herr

theorem emits_showResponse {P : Effect → Prop} (h : ∀ text, P (.out text)) (body : Json) :
    (showResponse definition body scope).Emits P := by
  unfold showResponse
  split
  · exact Step.emits_ok ()
  · exact (Step.emits_ofExcept _).bind fun text _ => Step.emits_emit (h _)

theorem showResponse_eq_ok_iff {body : Json} :
    (showResponse definition body scope).result = .ok () ↔
      ∀ template, given? definition.response = some template →
        ∃ text, Response.display template body = .ok text := by
  unfold showResponse
  cases hgiven : given? definition.response with
  | none => simp [Step.ok]
  | some template =>
    show (Step.bind _ _).result = _ ↔ _
    rw [Step.result_bind_eq_ok_iff]
    cases hdisplay : Response.display template body with
    | error f => simp [Step.ofExcept, hdisplay]
    | ok text => simp [Step.ofExcept, Step.emit, hdisplay]

theorem captureAndSave_eq (body : Json) :
    captureAndSave definition body scope around =
      if definition.set.isEmpty then .ok scope
      else (Step.ofExcept (Stop.ofFault (captureAll body definition.set.entries scope))).bind
        fun final => (around.store.saveScope around.files final).bind fun _ => .ok final := rfl

theorem emits_captureAndSave {P : Effect → Prop} (hmake : ∀ l, P (.makeDirectory l))
    (hwrite : ∀ l content, P (.write l content)) (body : Json) :
    (captureAndSave definition body scope around).Emits P := by
  rw [captureAndSave_eq]
  split
  · exact Step.emits_ok _
  · refine (Step.emits_ofExcept _).bind fun final _ => ?_
    exact (SessionStore.emits_saveScope hmake hwrite final).bind fun _ _ => Step.emits_ok _

section Emits
variable {P : Effect → Prop} (hout : ∀ text, P (.out text))
include hout

/-- What follows on the outcome of a request writes lines and files, and nothing else. The lines on
standard error are reports. -/
theorem emits_conclude_of (hreport : ∀ report : String, P (.err s!"ERROR: {report}"))
    (hmake : ∀ l, P (.makeDirectory l)) (hwrite : ∀ l content, P (.write l content))
    (definition : CommandDefinition) (scope : Scope) (around : Surroundings) :
    ∀ outcome : Except RequestError Reply, (conclude definition scope around outcome).Emits P
  | .error _ => (Step.emits_emit (hreport _)).bind fun _ _ => Step.emits_ok _
  | .ok reply => by
    refine (emits_showResponse hout reply.body).bind fun _ _ => ?_
    exact (emits_captureAndSave hmake hwrite reply.body).bind fun _ _ => Step.emits_ok _

/-- Before the shell command there is none, and no request but the one that was prepared. -/
theorem emits_firstStage (herr : ∀ text, P (.err text)) (hmake : ∀ l, P (.makeDirectory l))
    (hwrite : ∀ l content, P (.write l content)) (hrequest : ∀ endpoint r,
      prepare definition endpoint scope config = .ok (.ok r) → P (.request r)) :
    (firstStage definition scope config around verbose).Emits P := by
  unfold firstStage
  split
  · rw [requestStage_eq]
    refine (emits_ask (hrequest _) herr).bind fun outcome _ => ?_
    exact emits_conclude_of hout (fun _ => herr _) hmake hwrite definition scope around outcome
  · cases given? definition.response with
    | none => exact Step.emits_ok _
    | some template => exact (Step.emits_emit (hout _)).bind fun _ _ => Step.emits_ok _

end Emits

/-- **When an invocation saves, and what**: it has an endpoint and something to capture, the request
was made and answered with a status that means success, and what is shown and captured of the answer
could be told. -/
structure Reaches (definition : CommandDefinition) (scope : Scope) (config : RunConfig)
    (around : Surroundings) (verbose : Bool) (reply : Reply) (final : Scope) : Prop where
  asked : ∃ endpoint request, given? definition.endpoint = some endpoint ∧
    prepare definition endpoint scope config = .ok (.ok request) ∧
    around.exchange.reply request.timeout = .ok reply
  succeeded : reply.ok
  /-- The line about the time of the answer is written on demand only. -/
  timed : verbose → ∃ line, statusLine reply = .ok line
  shown : ∀ template, given? definition.response = some template →
    ∃ text, Response.display template reply.body = .ok text
  captures : definition.set.isEmpty = false
  captured : captureAll reply.body definition.set.entries scope = .ok final

/-- The same by the results of the parts of the stage. -/
theorem reaches_iff {final : Scope} :
    Reaches definition scope config around verbose reply final ↔
      (∃ endpoint, given? definition.endpoint = some endpoint ∧
        (ask definition endpoint scope config around verbose).result = .ok (.ok reply)) ∧
      (showResponse definition reply.body scope).result = .ok () ∧
      definition.set.isEmpty = false ∧
      captureAll reply.body definition.set.entries scope = .ok final := by
  constructor
  · rintro ⟨⟨endpoint, request, hendpoint, hprepare, hreply⟩, hok, htimed, hshown, hset, hcaptured⟩
    have hsend := send_eq_ok_iff.2 ⟨hreply, hok, htimed⟩
    exact ⟨⟨endpoint, hendpoint, ask_eq_ok_iff.2 ⟨request, hprepare, hsend⟩⟩,
      showResponse_eq_ok_iff.2 hshown, hset, hcaptured⟩
  · rintro ⟨⟨endpoint, hendpoint, hask⟩, hshow, hset, hcaptured⟩
    obtain ⟨request, hprepare, hsend⟩ := ask_eq_ok_iff.1 hask
    obtain ⟨hreply, hok, htimed⟩ := send_eq_ok_iff.1 hsend
    exact ⟨⟨endpoint, request, hendpoint, hprepare, hreply⟩, hok, htimed,
      showResponse_eq_ok_iff.1 hshow, hset, hcaptured⟩

/-- The answer and the scope with which an invocation comes to saving, if it does. -/
def reached? (definition : CommandDefinition) (scope : Scope) (config : RunConfig)
    (around : Surroundings) (verbose : Bool) : Option (Reply × Scope) :=
  match given? definition.endpoint with
  | none => none
  | some endpoint =>
    match (ask definition endpoint scope config around verbose).result with
    | .ok (.ok reply) =>
      match (showResponse definition reply.body scope).result with
      | .ok () =>
        if definition.set.isEmpty then none
        else (captureAll reply.body definition.set.entries scope).toOption.map (reply, ·)
      | .error _ => none
    | _ => none

theorem reached?_eq_some_iff {final : Scope} :
    reached? definition scope config around verbose = some (reply, final) ↔
      Reaches definition scope config around verbose reply final := by
  rw [reaches_iff, reached?]
  constructor
  · intro h
    split at h
    · cases h
    next endpoint hendpoint =>
    split at h
    · next reply' hask =>
      split at h
      · next hshow =>
        split at h
        · cases h
        next hset =>
        cases hcaptured : captureAll reply'.body definition.set.entries scope with
        | error f => rw [hcaptured] at h; cases h
        | ok final' =>
          rw [hcaptured] at h
          cases h
          exact ⟨⟨endpoint, hendpoint, hask⟩, hshow, by simpa using hset, hcaptured⟩
      · cases h
    · cases h
  · rintro ⟨⟨endpoint, hendpoint, hask⟩, hshow, hset, hcaptured⟩
    simp only [hendpoint, hask, hshow, hset, hcaptured]
    rfl

theorem captureAndSave_of_reaches {final : Scope}
    (h : Reaches definition scope config around verbose reply final) :
    captureAndSave definition reply.body scope around =
      (around.store.saveScope around.files final).bind fun _ => .ok final := by
  rw [captureAndSave_eq, h.captures, if_neg Bool.false_ne_true, h.captured]
  rfl

/-- **The stage up to and with saving**: all that comes before is quiet. -/
theorem firstStage_of_reaches {final : Scope}
    (h : Reaches definition scope config around verbose reply final) :
    ∃ before, (∀ e ∈ before, e.IsQuiet) ∧
      firstStage definition scope config around verbose =
        ⟨before ++ (around.store.saveScope around.files final).effects,
          (around.store.saveScope around.files final).result.map fun _ => (true, final)⟩ := by
  obtain ⟨⟨endpoint, hendpoint, hask⟩, hshow, -, -⟩ := reaches_iff.1 h
  have hconclude : conclude definition scope around (.ok reply) =
      ⟨(showResponse definition reply.body scope).effects ++
          (around.store.saveScope around.files final).effects,
        (around.store.saveScope around.files final).result.map fun _ => (true, final)⟩ := by
    rw [conclude, Step.bind, hshow, captureAndSave_of_reaches h, Step.bind_ok, Step.bind_ok]
    cases (around.store.saveScope around.files final).result <;> rfl
  -- what is emitted up to saving: the request with what is said about it, and the answer shown
  refine ⟨(ask definition endpoint scope config around verbose).effects ++
    (showResponse definition reply.body scope).effects, fun e he => ?_, ?_⟩
  · rcases List.mem_append.1 he with he | he
    · exact emits_ask (fun _ _ => trivial) (fun _ => trivial) e he
    · exact emits_showResponse (fun _ => trivial) _ e he
  · rw [firstStage_of_endpoint hendpoint, Step.bind, hask]
    simp only [hconclude, List.append_assoc]

/-- **The stage of an invocation that does not save is quiet.** -/
theorem isQuiet_firstStage
    (h : ¬∃ reply final, Reaches definition scope config around verbose reply final) :
    (firstStage definition scope config around verbose).Emits Effect.IsQuiet := by
  unfold firstStage
  split
  · next endpoint hendpoint =>
    rw [requestStage_eq]
    refine (emits_ask (fun _ _ => trivial) (fun _ => trivial)).bind fun outcome hask => ?_
    cases outcome with
    | error e => exact (Step.emits_emit trivial).bind fun _ _ => Step.emits_ok _
    | ok reply =>
      refine (emits_showResponse (fun _ => trivial) _).bind fun _ hshow => ?_
      refine Step.Emits.bind ?_ fun _ _ => Step.emits_ok _
      rw [captureAndSave_eq]
      split
      · exact Step.emits_ok _
      -- with all captured, saving would have been reached
      · next hset =>
        refine (Step.emits_ofExcept _).bind fun final hfinal => absurd ?_ h
        exact ⟨reply, final, reaches_iff.2 ⟨⟨endpoint, hendpoint, hask⟩, hshow,
          by simpa using hset, ofFault_eq_ok_iff.1 hfinal⟩⟩
  · cases given? definition.response with
    | none => exact Step.emits_ok _
    | some template => exact (Step.emits_emit trivial).bind fun _ _ => Step.emits_ok _

/-! ## The shell stage and the whole -/

/-- Effects that come to a shell command quietly, if they come to one. -/
def LeadsToCommand (es : List Effect) : Prop :=
  es = [] ∨ ∃ before command after, (∀ e ∈ before, e.IsQuiet) ∧
    es = before ++ .command command :: after

theorem leadsToCommand_bind {text command : String} {f : Unit → Step Stop Bool} :
    LeadsToCommand ((trace verbose text).bind fun _ =>
      (Step.emit (.command command)).bind f).effects :=
  Or.inr ⟨_, command, (f ()).effects, emits_trace trivial,
    Step.effects_bind_ok (trace_result verbose text)⟩

theorem leadsToCommand_shellStage :
    LeadsToCommand (shellStage definition scope around verbose).effects := by
  unfold shellStage
  split
  · exact Or.inl rfl
  · exact leadsToCommand_bind

/-- The scope that an invocation sees. -/
def scopeOf (config : RunConfig) (session : Session) (arguments : OrderedMap String String) : Scope :=
  Scope.layered config.defaults session.toScope (arguments.mapValues .str)

variable {arguments : OrderedMap String String} {session : Session}

/-- **Without a session to start from nothing happens.** -/
theorem run_of_load_error {reason : Stop} (h : around.store.load around.files = .error reason) :
    run definition arguments config around verbose = ⟨[], .error reason⟩ := by
  rw [run, h]
  rfl

theorem run_of_load (definition : CommandDefinition) (arguments : OrderedMap String String)
    (config : RunConfig) (verbose : Bool) (h : around.store.load around.files = .ok session) :
    run definition arguments config around verbose =
      (firstStage definition (scopeOf config session arguments) config around verbose).bind
        fun (sent, final) =>
          (shellStage definition final { around with
            files := Effect.applyAll around.files (firstStage definition
              (scopeOf config session arguments) config around verbose).effects } verbose).bind
            fun ran => .ok (if sent && ran then 0 else 1) := by
  rw [run, h]
  rfl

/-- What the shell command finds around it: the files as the first stage leaves them. -/
def aroundShell (definition : CommandDefinition) (scope : Scope) (config : RunConfig)
    (around : Surroundings) (verbose : Bool) : Surroundings :=
  { around with
    files := Effect.applyAll around.files
      (firstStage definition scope config around verbose).effects }

/-- An invocation whose first stage goes through. -/
theorem run_of_firstStage {sent : Bool} {final : Scope}
    (h : around.store.load around.files = .ok session)
    (hfirst : (firstStage definition (scopeOf config session arguments) config around
      verbose).result = .ok (sent, final)) :
    run definition arguments config around verbose =
      ⟨(firstStage definition (scopeOf config session arguments) config around verbose).effects ++
          (shellStage definition final (aroundShell definition (scopeOf config session arguments)
            config around verbose) verbose).effects,
        (shellStage definition final (aroundShell definition (scopeOf config session arguments)
          config around verbose) verbose).result.map fun ran => if sent && ran then 0 else 1⟩ := by
  rw [run_of_load definition arguments config verbose h, Step.bind, hfirst]
  simp only [Step.bind_ok]
  rfl

/-- An invocation that stops in its first stage. -/
theorem run_of_firstStage_error {reason : Stop} (h : around.store.load around.files = .ok session)
    (hfirst : (firstStage definition (scopeOf config session arguments) config around
      verbose).result = .error reason) :
    run definition arguments config around verbose =
      ⟨(firstStage definition (scopeOf config session arguments) config around verbose).effects,
        .error reason⟩ := by
  rw [run_of_load definition arguments config verbose h, Step.bind, hfirst]

/-- A definition without a shell command runs none. -/
theorem command_not_mem_run (h : given? definition.execute = none)
    (arguments : OrderedMap String String) (config : RunConfig) (around : Surroundings)
    (verbose : Bool) (command : String) :
    .command command ∉ (run definition arguments config around verbose).effects := by
  have hemits : (run definition arguments config around verbose).Emits
      fun e => e ≠ .command command := by
    cases hload : around.store.load around.files with
    | error reason =>
      rw [run_of_load_error hload]
      exact fun _ he => absurd he List.not_mem_nil
    | ok session =>
      rw [run_of_load definition arguments config verbose hload]
      refine (emits_firstStage (fun _ => nofun) (fun _ => nofun) (fun _ => nofun)
        (fun _ _ => nofun) fun _ _ _ => nofun).bind fun ⟨sent, final⟩ _ => ?_
      simp only [shellStage, h]
      exact (Step.emits_ok true).bind fun _ _ => Step.emits_ok _
  exact fun hmem => hemits _ hmem rfl

/-- After the first stage an invocation does nothing before it comes to the shell command. -/
theorem effects_run (definition : CommandDefinition) (arguments : OrderedMap String String)
    (config : RunConfig) (verbose : Bool) (h : around.store.load around.files = .ok session) :
    ∃ rest, LeadsToCommand rest ∧
      (run definition arguments config around verbose).effects =
        (firstStage definition (scopeOf config session arguments) config around verbose).effects ++
          rest := by
  cases hfirst : (firstStage definition (scopeOf config session arguments) config around
      verbose).result with
  | error reason =>
    refine ⟨[], Or.inl rfl, ?_⟩
    rw [run_of_firstStage_error h hfirst, List.append_nil]
  | ok outcome =>
    rw [run_of_firstStage h hfirst]
    exact ⟨_, leadsToCommand_shellStage, rfl⟩

/-- **What lies at the path of the session after an invocation lay there before the shell
command.** -/
theorem find?_run (h : around.store.load around.files = .ok session)
    (hshell : Effect.Spares around.store.path around.files
      (run definition arguments config around verbose).effects) :
    (Effect.applyAll around.files
        (run definition arguments config around verbose).effects).find? around.store.path =
      (Effect.applyAll around.files (firstStage definition (scopeOf config session arguments) config
        around verbose).effects).find? around.store.path := by
  obtain ⟨rest, hrest | ⟨before, command, after, hquiet, hrest⟩, heffects⟩ :=
    effects_run definition arguments config verbose h
  · rw [heffects, hrest, List.append_nil]
  -- what is between the first stage and the command is quiet, and the command spares the path
  · rw [hshell _ command after (by rw [heffects, hrest, ← List.append_assoc]),
      Effect.applyAll_append, Effect.applyAll_of_quiet hquiet]

end CommandBook.Invocation
