import CommandBook.Proofs.Invocation.Stages

/-!
# When an invocation has a status

A request or a shell command that fails is reported and makes the status one, but it does not stop
the invocation. Some other things do, and `Contained` says that none of them happens: a body that
JSON cannot hold, integers that are too long to read, a reply that is none of the transport's own, a
time that is no number of milliseconds, a path whose index cannot be read, a session that cannot be
saved, and a shell command that cannot be run or whose output is no text. An invocation has a status
exactly where it is contained.

## Main statements

* `completes_firstStage_iff`, `completes_shellStage_iff` — the two stages
* `completes_run_iff` — the whole invocation
* `status_run` — the status and the reports of an invocation
-/

namespace CommandBook.Invocation

variable {definition : CommandDefinition} {endpoint : String} {scope : Scope} {config : RunConfig}
  {around : Surroundings} {verbose : Bool} {request : Request} {reply : Reply}

/-! ## The request -/

/-- A body that has a JSON text, in which no integer is too long once placeholders are replaced. -/
def IsReadable (scope : Scope) (body : Value) : Prop :=
  body.isNull ∨ ∃ json, body.toJson? = .ok json ∧
    Json.readChars (Template.resolveChars scope json.renderChars) ≠ .error .numeralTooLong

theorem payload_eq_ok_iff {body : Value} :
    (∃ r, payload scope body = .ok r) ↔ IsReadable scope body := by
  unfold payload IsReadable
  split
  · next hnull => simp [hnull]
  next hnull =>
  cases hjson : body.toJson? with
  | error f => simp [hnull]
  | ok json =>
    cases hread : Json.readChars (Template.resolveChars scope json.renderChars) with
    | ok v => simp [hread]
    | error failure => cases failure <;> simp [hread, hnull]

theorem prepare_eq_ok_iff : (∃ r, prepare definition endpoint scope config = .ok r) ↔
    IsReadable scope definition.body := by
  rw [← payload_eq_ok_iff, prepare]
  cases payload scope definition.body with
  | error reason => exact ⟨fun ⟨_, h⟩ => (nomatch h), fun ⟨_, h⟩ => (nomatch h)⟩
  | ok prepared => cases prepared <;> exact ⟨fun _ => ⟨_, rfl⟩, fun _ => ⟨_, rfl⟩⟩

theorem completes_hear_iff : (hear verbose reply).Completes ↔
    (reply.error = none → verbose → ∃ line, statusLine reply = .ok line) := by
  unfold hear
  cases herror : reply.error with
  | some e => simp [Step.completes_ok]
  | none =>
    rw [Step.completes_bind_iff]
    simp only [Step.completes_ok, implies_true, and_true, true_implies]
    rw [Step.completes_unit_iff, traceStatus_eq_ok_iff]

theorem completes_send_iff : (send request around verbose).Completes ↔
    ∃ reply, around.exchange.reply request.timeout = .ok reply ∧
      (reply.error = none → verbose → ∃ line, statusLine reply = .ok line) := by
  have hsend : (send request around verbose).Completes ↔ ((Step.ofExcept (Stop.ofFault
      (around.exchange.reply request.timeout))).bind (hear verbose)).Completes := by
    rw [Step.Completes, send_eq, Step.result_bind_ok (trace_result _ _)]
    rfl
  rw [hsend, Step.completes_bind_iff]
  cases around.exchange.reply request.timeout with
  | error f => simp [Step.Completes, Step.ofExcept]
  | ok reply => simp [Step.Completes, Step.ofExcept, ← completes_hear_iff]

theorem completes_ask_iff : (ask definition endpoint scope config around verbose).Completes ↔
    IsReadable scope definition.body ∧
      ∀ request, prepare definition endpoint scope config = .ok (.ok request) →
        (send request around verbose).Completes := by
  rw [ask, Step.completes_bind_iff, ← prepare_eq_ok_iff]
  refine and_congr Iff.rfl ⟨fun h request hprepare => h _ hprepare, fun h prepared hprepare => ?_⟩
  cases prepared with
  | error e => exact Step.completes_ok _
  | ok request => exact h request hprepare

/-! ## The stages -/

theorem completes_captureAndSave_iff {body : Json} :
    (captureAndSave definition body scope around).Completes ↔
      (definition.set.isEmpty = false →
        ∃ final, captureAll body definition.set.entries scope = .ok final ∧
          (around.store.saveScope around.files final).result = .ok ()) := by
  rw [captureAndSave_eq]
  cases definition.set.isEmpty with
  | true => simp [Step.completes_ok]
  | false =>
    rw [if_neg Bool.false_ne_true, Step.completes_bind_iff]
    cases captureAll body definition.set.entries scope with
    | error f => simp [Step.Completes, Step.ofExcept]
    | ok final =>
      have hsave : ((around.store.saveScope around.files final).bind fun _ =>
          (.ok final : Step Stop Scope)).Completes ↔
            (around.store.saveScope around.files final).result = .ok () := by
        rw [Step.completes_bind_iff, Step.completes_unit_iff]
        simp [Step.completes_ok]
      simpa [Step.Completes, Step.ofExcept] using hsave

/-- What follows on a successful answer goes through if all that is shown and captured of it can be
told, and what is captured can be saved. -/
theorem completes_conclude_iff : (conclude definition scope around (.ok reply)).Completes ↔
    (∀ template, given? definition.response = some template →
      ∃ text, Response.display template reply.body = .ok text) ∧
    (definition.set.isEmpty = false →
      ∃ final, captureAll reply.body definition.set.entries scope = .ok final ∧
        (around.store.saveScope around.files final).result = .ok ()) := by
  have hrest : ((captureAndSave definition reply.body scope around).bind fun final =>
      (.ok (true, final) : Step Stop (Bool × Scope))).Completes ↔
        (captureAndSave definition reply.body scope around).Completes := by
    rw [Step.completes_bind_iff]
    simp [Step.completes_ok]
  rw [conclude, Step.completes_bind_iff, Step.completes_unit_iff, hrest,
    completes_captureAndSave_iff]
  constructor
  · rintro ⟨hshow, hsave⟩
    exact ⟨showResponse_eq_ok_iff.1 hshow, hsave () hshow⟩
  · rintro ⟨hshown, hsave⟩
    exact ⟨showResponse_eq_ok_iff.2 hshown, fun _ _ => hsave⟩

theorem completes_firstStage_iff :
    (firstStage definition scope config around verbose).Completes ↔
      ∀ endpoint, given? definition.endpoint = some endpoint →
        (ask definition endpoint scope config around verbose).Completes ∧
        ∀ reply, (ask definition endpoint scope config around verbose).result = .ok (.ok reply) →
          (conclude definition scope around (.ok reply)).Completes := by
  unfold firstStage
  cases given? definition.endpoint with
  | none =>
    -- without a request there is at most a text to show
    cases given? definition.response with
    | none => exact ⟨fun _ _ h => (nomatch h), fun _ => Step.completes_ok _⟩
    | some template => exact ⟨fun _ _ h => (nomatch h), fun _ => ⟨_, rfl⟩⟩
  | some endpoint =>
    simp only [Option.some.injEq, forall_eq']
    rw [requestStage_eq, Step.completes_bind_iff]
    refine and_congr_right fun _ => ⟨fun h reply hreply => h _ hreply, fun h outcome hask => ?_⟩
    cases outcome with
    | error e => exact ⟨_, rfl⟩
    | ok reply => exact h reply hask

/-- What is made of the outcome of a shell command. -/
def tell (outcome : ShellOutcome) : Step Stop Bool :=
  (Step.emitAll (outcome.written.map fun w => .write w.1 w.2)).bind fun _ =>
    match outcome.failure? with
    | some report => (Step.emit (.err s!"ERROR: {report}")).bind fun _ => .ok false
    | none => (Step.emit (.out (Text.trim outcome.stdout))).bind fun _ => .ok true

/-- A definition with a shell command runs it and tells what came of it. -/
theorem shellStage_of_execute {template : String} (h : given? definition.execute = some template) :
    shellStage definition scope around verbose =
      (trace verbose s!"EXEC: {Template.resolve scope template}").bind fun _ =>
        (Step.emit (.command (Template.resolve scope template))).bind fun _ =>
          (Step.ofExcept (Stop.ofFault
            (around.shell around.files (Template.resolve scope template)))).bind tell := by
  rw [shellStage, h]
  rfl

theorem emits_tell {P : Effect → Prop} (hout : ∀ text, P (.out text))
    (hreport : ∀ report : String, P (.err s!"ERROR: {report}"))
    (hwrite : ∀ place content, P (.write place content)) (outcome : ShellOutcome) :
    (tell outcome).Emits P := by
  have hwritten : (Step.emitAll (outcome.written.map fun w => .write w.1 w.2) :
      Step Stop Unit).Emits P := by
    intro e he
    obtain ⟨w, -, rfl⟩ := List.mem_map.1 he
    exact hwrite w.1 w.2
  refine hwritten.bind fun _ _ => ?_
  cases outcome.failure? with
  | some report => exact (Step.emits_emit (hreport _)).bind fun _ _ => Step.emits_ok false
  | none => exact (Step.emits_emit (hout _)).bind fun _ _ => Step.emits_ok true

/-- The shell stage makes a shell command, writes lines and files, and does nothing else. -/
theorem emits_shellStage {P : Effect → Prop} (hout : ∀ text, P (.out text))
    (htrace : ∀ command : String, P (.err s!"EXEC: {command}"))
    (hreport : ∀ report : String, P (.err s!"ERROR: {report}"))
    (hcommand : ∀ command, P (.command command))
    (hwrite : ∀ place content, P (.write place content)) :
    (shellStage definition scope around verbose).Emits P := by
  cases hexecute : given? definition.execute with
  | none =>
    rw [shellStage, hexecute]
    exact Step.emits_ok true
  | some template =>
    rw [shellStage_of_execute hexecute]
    refine (emits_trace (htrace _)).bind fun _ _ => ?_
    refine (Step.emits_emit (hcommand _)).bind fun _ _ => ?_
    refine (Step.emits_ofExcept _).bind fun outcome _ => ?_
    exact emits_tell hout hreport hwrite outcome

theorem completes_tell (outcome : ShellOutcome) : (tell outcome).Completes := by
  unfold tell
  cases outcome.failure? <;> exact ⟨_, rfl⟩

theorem completes_shellStage_iff : (shellStage definition scope around verbose).Completes ↔
    ∀ template, given? definition.execute = some template →
      ∃ outcome, around.shell around.files (Template.resolve scope template) = .ok outcome := by
  cases hexecute : given? definition.execute with
  | none => simp [shellStage, hexecute, Step.completes_ok]
  | some template =>
    simp only [Option.some.injEq, forall_eq']
    rw [shellStage_of_execute hexecute, Step.Completes, Step.result_bind_ok (trace_result _ _)]
    show ((Step.ofExcept _).bind tell).Completes ↔ _
    rw [Step.completes_bind_iff]
    cases around.shell around.files (Template.resolve scope template) with
    | error f => simp [Step.Completes, Step.ofExcept]
    | ok outcome =>
      simpa [Step.Completes, Step.ofExcept] using completes_tell outcome

/-! ## The whole invocation -/

variable {arguments : OrderedMap String String} {session : Session}

/-- An invocation that makes a request and has a reply to it. -/
def IsReplied (definition : CommandDefinition) (scope : Scope) (config : RunConfig)
    (around : Surroundings) (reply : Reply) : Prop :=
  ∃ endpoint request, given? definition.endpoint = some endpoint ∧
    prepare definition endpoint scope config = .ok (.ok request) ∧
    around.exchange.reply request.timeout = .ok reply

/-- **Nothing stops an invocation** with its scope. -/
structure Contained (definition : CommandDefinition) (scope : Scope) (config : RunConfig)
    (around : Surroundings) (verbose : Bool) : Prop where
  readable : (given? definition.endpoint).isSome → IsReadable scope definition.body
  replied : ∀ endpoint request, given? definition.endpoint = some endpoint →
    prepare definition endpoint scope config = .ok (.ok request) →
      ∃ reply, around.exchange.reply request.timeout = .ok reply
  timed : ∀ reply, IsReplied definition scope config around reply → reply.error = none →
    verbose → ∃ line, statusLine reply = .ok line
  shown : ∀ reply, IsReplied definition scope config around reply → reply.ok →
    ∀ template, given? definition.response = some template →
      ∃ text, Response.display template reply.body = .ok text
  captured : ∀ reply, IsReplied definition scope config around reply → reply.ok →
    definition.set.isEmpty = false →
      ∃ final, captureAll reply.body definition.set.entries scope = .ok final
  saved : ∀ reply final, Reaches definition scope config around verbose reply final →
    (around.store.saveScope around.files final).result = .ok ()
  executed : ∀ sent final template,
    (firstStage definition scope config around verbose).result = .ok (sent, final) →
      given? definition.execute = some template →
        ∃ outcome, around.shell (Effect.applyAll around.files
          (firstStage definition scope config around verbose).effects)
            (Template.resolve final template) = .ok outcome

/-- The first stage of a contained invocation goes through. -/
theorem Contained.completes_firstStage (h : Contained definition scope config around verbose) :
    (firstStage definition scope config around verbose).Completes := by
  rw [completes_firstStage_iff]
  intro endpoint hendpoint
  constructor
  · refine completes_ask_iff.2 ⟨h.readable (by simp [hendpoint]), fun request hprepare => ?_⟩
    obtain ⟨reply, hreply⟩ := h.replied endpoint request hendpoint hprepare
    have htimed := h.timed reply ⟨endpoint, request, hendpoint, hprepare, hreply⟩
    exact completes_send_iff.2 ⟨reply, hreply, htimed⟩
  · intro reply hask
    obtain ⟨request, hprepare, hsend⟩ := ask_eq_ok_iff.1 hask
    obtain ⟨hreply, hok, htimed⟩ := send_eq_ok_iff.1 hsend
    have hreplied : IsReplied definition scope config around reply :=
      ⟨endpoint, request, hendpoint, hprepare, hreply⟩
    have hshown := h.shown reply hreplied hok
    refine completes_conclude_iff.2 ⟨hshown, fun hset => ?_⟩
    obtain ⟨final, hfinal⟩ := h.captured reply hreplied hok hset
    exact ⟨final, hfinal, h.saved reply final ⟨hreplied, hok, htimed, hshown, hset, hfinal⟩⟩

/-- The first stage goes through only if the request of a contained invocation does. -/
theorem contained_of_completes
    (h : (firstStage definition scope config around verbose).Completes)
    (hexecuted : ∀ sent final,
      (firstStage definition scope config around verbose).result = .ok (sent, final) →
        (shellStage definition final
          { around with
            files := Effect.applyAll around.files
              (firstStage definition scope config around verbose).effects } verbose).Completes) :
    Contained definition scope config around verbose := by
  have hrequest := completes_firstStage_iff.1 h
  have hreply : ∀ reply, IsReplied definition scope config around reply →
      (reply.error = none → verbose → ∃ line, statusLine reply = .ok line) ∧
        (reply.ok → (conclude definition scope around (.ok reply)).Completes) := by
    rintro reply ⟨endpoint, request, hendpoint, hprepare, hreply⟩
    obtain ⟨hask, hconclude⟩ := hrequest endpoint hendpoint
    obtain ⟨reply', hreply', htimed⟩ :=
      completes_send_iff.1 ((completes_ask_iff.1 hask).2 request hprepare)
    obtain rfl : reply = reply' := Except.ok.inj (hreply.symm.trans hreply')
    refine ⟨htimed, fun hok => hconclude reply (ask_eq_ok_iff.2 ⟨request, hprepare, ?_⟩)⟩
    have herror : reply.error = none := by
      simp only [Reply.ok, Bool.and_eq_true, Option.isNone_iff_eq_none] at hok
      exact hok.1.1
    exact send_eq_ok_iff.2 ⟨hreply, hok, htimed herror⟩
  constructor
  case readable =>
    intro hsome
    obtain ⟨endpoint, hendpoint⟩ := Option.isSome_iff_exists.1 hsome
    exact (completes_ask_iff.1 (hrequest endpoint hendpoint).1).1
  case replied =>
    intro endpoint request hendpoint hprepare
    obtain ⟨reply, hreply, -⟩ := completes_send_iff.1
      ((completes_ask_iff.1 (hrequest endpoint hendpoint).1).2 request hprepare)
    exact ⟨reply, hreply⟩
  case timed => exact fun reply hreplied => (hreply reply hreplied).1
  case shown =>
    exact fun reply hreplied hok => (completes_conclude_iff.1 ((hreply reply hreplied).2 hok)).1
  case captured =>
    intro reply hreplied hok hset
    obtain ⟨final, hfinal, -⟩ :=
      (completes_conclude_iff.1 ((hreply reply hreplied).2 hok)).2 hset
    exact ⟨final, hfinal⟩
  case saved =>
    intro reply final hreaches
    obtain ⟨final', hfinal', hsaved⟩ :=
      (completes_conclude_iff.1 ((hreply reply hreaches.asked).2 hreaches.succeeded)).2
        hreaches.captures
    obtain rfl : final' = final := Except.ok.inj (hfinal'.symm.trans hreaches.captured)
    exact hsaved
  case executed =>
    exact fun sent final template hfirst =>
      completes_shellStage_iff.1 (hexecuted sent final hfirst) template

/-- **An invocation has a status** exactly where nothing stops it. -/
theorem completes_run_iff (hload : around.store.load around.files = .ok session) :
    (run definition arguments config around verbose).Completes ↔
      Contained definition (scopeOf config session arguments) config around verbose := by
  have hstatus : ∀ (sent : Bool) (s : Step Stop Bool),
      (s.bind fun ran => (.ok (if sent && ran then 0 else 1) : Step Stop Nat)).Completes ↔
        s.Completes := by
    intro sent s
    rw [Step.completes_bind_iff]
    simp [Step.completes_ok]
  rw [run_of_load definition arguments config verbose hload, Step.completes_bind_iff]
  constructor
  · rintro ⟨hfirst, hrest⟩
    exact contained_of_completes hfirst fun sent final hresult =>
      (hstatus sent _).1 (hrest (sent, final) hresult)
  · intro h
    refine ⟨h.completes_firstStage, fun ⟨sent, final⟩ hresult => (hstatus sent _).2 ?_⟩
    exact completes_shellStage_iff.2 fun template => h.executed sent final template hresult

/-! ## Reports -/

/-- A request that fails is reported, and the first stage goes on. -/
theorem firstStage_of_failure {e : RequestError} (hendpoint : given? definition.endpoint = some endpoint)
    (hask : (ask definition endpoint scope config around verbose).result = .ok (.error e)) :
    (firstStage definition scope config around verbose).result = .ok (false, scope) ∧
      .err s!"ERROR: {e.report}" ∈ (firstStage definition scope config around verbose).effects := by
  rw [firstStage_of_endpoint hendpoint, Step.result_bind_ok hask, Step.effects_bind_ok hask]
  exact ⟨rfl, List.mem_append_right _ List.mem_cons_self⟩

/-- A shell command that fails is reported, and the shell stage ends. -/
theorem shellStage_of_failure {template report : String} {outcome : ShellOutcome}
    (hexecute : given? definition.execute = some template)
    (hshell : around.shell around.files (Template.resolve scope template) = .ok outcome)
    (hfailure : outcome.failure? = some report) :
    (shellStage definition scope around verbose).result = .ok false ∧
      .err s!"ERROR: {report}" ∈ (shellStage definition scope around verbose).effects := by
  have htell : (tell outcome).result = .ok false ∧
      .err s!"ERROR: {report}" ∈ (tell outcome).effects := by
    unfold tell
    rw [hfailure]
    exact ⟨rfl, List.mem_append_right _ List.mem_cons_self⟩
  rw [shellStage_of_execute hexecute, Step.result_bind_ok (trace_result _ _),
    Step.effects_bind_ok (trace_result _ _), hshell]
  exact ⟨htell.1, List.mem_append_right _ (List.mem_append_right _ (List.mem_append_right _ htell.2))⟩

theorem mem_effects_run_of_firstStage (hload : around.store.load around.files = .ok session)
    {effect : Effect} (h : effect ∈ (firstStage definition (scopeOf config session arguments) config
      around verbose).effects) :
    effect ∈ (run definition arguments config around verbose).effects := by
  obtain ⟨rest, -, heffects⟩ := effects_run definition arguments config verbose hload
  rw [heffects]
  exact List.mem_append_left rest h

/-- **Status and reports of an invocation** that finds a session. It has a status exactly where
nothing stops it, and then that is zero or one. A request that fails and a shell command that fails
are each reported, and make the status one. -/
theorem status_run (hload : around.store.load around.files = .ok session) :
    ((∃ status, (run definition arguments config around verbose).result = .ok status) ↔
      Contained definition (scopeOf config session arguments) config around verbose) ∧
    (∀ status, (run definition arguments config around verbose).result = .ok status →
      status = 0 ∨ status = 1) ∧
    (∀ endpoint e, given? definition.endpoint = some endpoint →
      (ask definition endpoint (scopeOf config session arguments) config around verbose).result =
        .ok (.error e) →
          .err s!"ERROR: {e.report}" ∈ (run definition arguments config around verbose).effects ∧
          ∀ status, (run definition arguments config around verbose).result = .ok status →
            status = 1) ∧
    ∀ sent final template outcome report,
      (firstStage definition (scopeOf config session arguments) config around verbose).result =
        .ok (sent, final) →
      given? definition.execute = some template →
      around.shell (Effect.applyAll around.files (firstStage definition
        (scopeOf config session arguments) config around verbose).effects)
          (Template.resolve final template) = .ok outcome →
      outcome.failure? = some report →
        .err s!"ERROR: {report}" ∈ (run definition arguments config around verbose).effects ∧
        (run definition arguments config around verbose).result = .ok 1 := by
  refine ⟨completes_run_iff hload, ?_, ?_, ?_⟩
  · intro status hstatus
    rw [run_of_load definition arguments config verbose hload, Step.result_bind_eq_ok_iff] at hstatus
    obtain ⟨⟨sent, final⟩, -, hrest⟩ := hstatus
    obtain ⟨ran, -, hran⟩ := Step.result_bind_eq_ok_iff.1 hrest
    cases hsent : sent && ran <;> simp [Step.ok, hsent] at hran <;> simp [← hran]
  · intro endpoint e hendpoint hask
    obtain ⟨hfirst, hreport⟩ := firstStage_of_failure hendpoint hask
    refine ⟨mem_effects_run_of_firstStage hload hreport, fun status hstatus => ?_⟩
    rw [run_of_load definition arguments config verbose hload, Step.result_bind_ok hfirst] at hstatus
    obtain ⟨ran, -, hran⟩ := Step.result_bind_eq_ok_iff.1 hstatus
    exact (Except.ok.inj hran).symm
  · intro sent final template outcome report hfirst hexecute hshell hfailure
    obtain ⟨hresult, hreport⟩ := @shellStage_of_failure definition final
      { around with
        files := Effect.applyAll around.files (firstStage definition
          (scopeOf config session arguments) config around verbose).effects }
      verbose template report outcome hexecute hshell hfailure
    rw [run_of_load definition arguments config verbose hload, Step.effects_bind_ok hfirst,
      Step.result_bind_ok hfirst]
    simp only [Step.effects_bind_ok hresult, Step.result_bind_ok hresult]
    refine ⟨List.mem_append_right _ (List.mem_append_left _ hreport), ?_⟩
    rw [Bool.and_false]
    rfl

/-- A command whose shell command ends with status three. -/
def failing : CommandDefinition := { name := "stop", execute := some "exit 3" }

/-- What is around `failing`: no files, and a shell in which every command ends with status three. -/
def failingAround : Surroundings where
  files := ⟨.empty, [], []⟩
  store := ⟨.absolute ["session.json"]⟩
  exchange := .timedOut
  shell := fun _ _ => .ok { status := 3 }

/-- A failing shell command is reported, and the invocation has a status. -/
theorem status_run_failing :
    failingAround.store.load failingAround.files = .ok .empty ∧
      Contained failing (scopeOf {} .empty .empty) {} failingAround false ∧
      .err "ERROR: Command exited with status 3" ∈
        (run failing .empty {} failingAround false).effects ∧
      (run failing .empty {} failingAround false).result = .ok 1 := by
  have hload : failingAround.store.load failingAround.files = .ok .empty := rfl
  obtain ⟨hcontained, -, -, hshell⟩ := @status_run failing {} failingAround false .empty .empty hload
  obtain ⟨hreport, hresult⟩ := hshell true (scopeOf {} .empty .empty) "exit 3" { status := 3 }
    "Command exited with status 3" rfl rfl rfl rfl
  exact ⟨hload, hcontained.1 ⟨1, hresult⟩, hreport, hresult⟩

/-- A command whose body holds a day. -/
def dated : CommandDefinition where
  name := "dated"
  endpoint := some "POST http://localhost"
  body := .map [(.str "day", .leaf (.date ⟨2024, 1, 31⟩))]

/-- A definition whose body holds a day is accepted, but an invocation of it stops and reports
nothing. -/
theorem run_dated :
    CommandDefinition.ofValue "dated" (.map [(.str "endpoint", .leaf (.str "POST http://localhost")),
        (.str "body", .map [(.str "day", .leaf (.date ⟨2024, 1, 31⟩))])]) = .ok dated ∧
      failingAround.store.load failingAround.files = .ok .empty ∧
      run dated .empty {} failingAround false = ⟨[], .error (.fault .notEncodable)⟩ := by
  refine ⟨rfl, rfl, rfl⟩

end CommandBook.Invocation
