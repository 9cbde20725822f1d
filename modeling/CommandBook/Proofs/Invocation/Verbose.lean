import CommandBook.Proofs.Invocation.Containment

/-!
# Verbose invocations

A verbose invocation says on standard error which request it sends, with which status and in what
time that is answered, and which shell command it runs. It does nothing that an invocation does not
do otherwise: its effects are those of the quiet one with such lines around the request and in front
of the shell command, and both end alike. The two are compared part by part, up to every place where
they can stop. A verbose invocation needs one thing more, that the time of an answer can be told; a
finite time can.

## Main statements

* `Effect.errors_annotated_append` — the lines on standard error, stage by stage
* `Step.Annotates.bind` — two steps in a row
* `annotates_firstStage`, `annotates_shellStage`, `annotates_run` — the stages and the whole
* `isObserved_run` — what is the same in both invocations, and which lines are not
-/

namespace CommandBook

/-- A double that is neither infinite nor undefined. -/
def Decimal.IsFinite (x : Float) : Prop := ∃ m q, (parts x).magnitude = .finite m q

/-- An exchange whose answer, if there is one, took a finite time. -/
def Exchange.IsTimed (exchange : Exchange) : Prop :=
  ∀ a, exchange = .answered a → Decimal.IsFinite ((a.clockAfter - a.clockBefore) * 1000)

/-! ## What is said -/

namespace Invocation

/-- The line in front of a request. -/
def requestLine (request : Request) : String := s!"{request.method} {request.url}"

/-- The line behind a request that is answered. -/
def answerLine? (exchange : Exchange) (request : Request) : Option String :=
  match exchange.reply request.timeout with
  | .error _ => none
  | .ok reply => if reply.error.isNone then (statusLine reply).toOption else none

/-- The line in front of a shell command. -/
def commandLine (command : String) : String := s!"EXEC: {command}"

end Invocation

namespace Effect

open Invocation (requestLine answerLine? commandLine)

/-- The lines on standard error in order. -/
def errors (es : List Effect) : List String :=
  es.filterMap fun
    | .err text => some text
    | _ => none

/-- A row of lines. -/
def lines (texts : List String) : String := String.join (texts.map line)

theorem stderr_eq (es : List Effect) : stderr es = lines (errors es) := by
  rw [stderr, lines, errors, List.map_filterMap]
  refine congrArg String.join (List.filterMap_congr fun e _ => ?_)
  cases e <;> rfl

/-- The line in front of an effect. -/
def announcement : Effect → Option String
  | .request r => some (requestLine r)
  | .command c => some (commandLine c)
  | _ => none

/-- The line behind an effect. -/
def acknowledgement (exchange : Exchange) : Effect → Option String
  | .request r => answerLine? exchange r
  | _ => none

/-- Effects with the lines that are said about them. -/
def annotated (exchange : Exchange) (es : List Effect) : List Effect :=
  es.flatMap fun e =>
    (e.announcement.map .err).toList ++ e :: ((e.acknowledgement exchange).map .err).toList

/-- A request or a shell command. -/
def isAction : Effect → Bool
  | .request _ | .command _ => true
  | _ => false

variable {exchange : Exchange} {es es' : List Effect}

@[simp] theorem errors_append (es es' : List Effect) :
    errors (es ++ es') = errors es ++ errors es' := List.filterMap_append

@[simp] theorem annotated_append (exchange : Exchange) (es es' : List Effect) :
    annotated exchange (es ++ es') = annotated exchange es ++ annotated exchange es' :=
  List.flatMap_append

/-- Nothing is said about other effects. -/
theorem annotated_of_forall (h : ∀ e ∈ es, e.isAction = false) : annotated exchange es = es := by
  induction es with
  | nil => rfl
  | cons e es ih =>
    have hrest := ih fun d hd => h d (List.mem_cons_of_mem _ hd)
    have he := h e List.mem_cons_self
    rw [annotated, List.flatMap_cons]
    rw [annotated] at hrest
    rw [hrest]
    cases e <;> first | rfl | cases he

/-- What is said goes to standard error only. -/
theorem withoutErr_annotated (exchange : Exchange) (es : List Effect) :
    withoutErr (annotated exchange es) = withoutErr es := by
  have hnone : ∀ text : Option String, withoutErr (text.map .err).toList = [] := by
    intro text
    cases text <;> rfl
  induction es with
  | nil => rfl
  | cons e es ih =>
    have hcons : ∀ fs, e :: fs = [e] ++ fs := fun _ => rfl
    rw [annotated, List.flatMap_cons, hcons, hcons es]
    simp only [withoutErr_append, hnone, List.nil_append, List.append_nil]
    exact congrArg _ ih

/-- What looks at no line on standard error does not see what is said. -/
theorem eq_of_withoutErr {α : Type} {f : List Effect → α} (h : ∀ es, f (withoutErr es) = f es)
    (exchange : Exchange) (es : List Effect) : f (annotated exchange es) = f es := by
  rw [← h, withoutErr_annotated, h]

/-- A row that begins with these effects and has no request and no shell command behind them. -/
def BeginsWith (opening es : List Effect) : Prop :=
  ∃ rest, es = opening ++ rest ∧ ∀ e ∈ rest, e.isAction = false

variable {opening : List Effect}

/-- Requests and shell commands are found at the beginning. -/
theorem BeginsWith.filterMap_eq {α : Type} {f : Effect → Option α} (h : BeginsWith opening es)
    (hf : ∀ e, e.isAction = false → f e = none) : es.filterMap f = opening.filterMap f := by
  obtain ⟨rest, rfl, hrest⟩ := h
  have hnone : rest.filterMap f = [] :=
    List.filterMap_eq_nil_iff.2 fun e he => hf e (hrest e he)
  rw [List.filterMap_append, hnone, List.append_nil]

theorem BeginsWith.requests_eq (h : BeginsWith opening es) : requests es = requests opening :=
  h.filterMap_eq fun e he => by cases e <;> first | rfl | cases he

theorem BeginsWith.commands_eq (h : BeginsWith opening es) : commands es = commands opening :=
  h.filterMap_eq fun e he => by cases e <;> first | rfl | cases he

/-- What is said is said at the beginning. -/
theorem BeginsWith.errors_annotated (h : BeginsWith opening es) (hopening : errors opening = [])
    (exchange : Exchange) :
    errors (annotated exchange es) = errors (annotated exchange opening) ++ errors es := by
  obtain ⟨rest, rfl, hrest⟩ := h
  rw [annotated_append, annotated_of_forall hrest, errors_append, errors_append, hopening,
    List.nil_append]

section Stages
variable {asked : Option Request} {executed : Option String} {first second : List Effect}

theorem errors_annotated_request (exchange : Exchange) (asked : Option Request) :
    errors (annotated exchange (asked.map .request).toList) =
      (asked.map requestLine).toList ++ (asked.bind (answerLine? exchange)).toList := by
  cases asked with
  | none => rfl
  | some r =>
    have hannotated : annotated exchange [.request r] =
        .err (requestLine r) :: .request r :: ((answerLine? exchange r).map .err).toList :=
      List.flatMap_singleton _ _
    show errors (annotated exchange [.request r]) = requestLine r :: (answerLine? exchange r).toList
    rw [hannotated]
    cases answerLine? exchange r <;> rfl

/-- A row that begins with a request, and one that begins with a shell command. -/
theorem requests_commands_append (hfirst : BeginsWith (asked.map .request).toList first)
    (hsecond : BeginsWith (executed.map .command).toList second) :
    requests (first ++ second) = asked.toList ∧ commands (first ++ second) = executed.toList := by
  rw [requests_append, commands_append, hfirst.requests_eq, hsecond.requests_eq,
    hfirst.commands_eq, hsecond.commands_eq]
  constructor <;> cases asked <;> cases executed <;> rfl

/-- What is said about the two, each in front of the other lines of its row. -/
theorem errors_annotated_append (hfirst : BeginsWith (asked.map .request).toList first)
    (hsecond : BeginsWith (executed.map .command).toList second) (exchange : Exchange) :
    errors (annotated exchange (first ++ second)) =
      (asked.map requestLine).toList ++ (asked.bind (answerLine? exchange)).toList ++
        errors first ++ (executed.map commandLine).toList ++ errors second := by
  have hasked : errors (asked.map .request).toList = [] := by cases asked <;> rfl
  have hexecuted : errors (executed.map .command).toList = [] := by cases executed <;> rfl
  have hsaid : errors (annotated exchange (executed.map .command).toList) =
      (executed.map commandLine).toList := by cases executed <;> rfl
  rw [annotated_append, errors_append, hfirst.errors_annotated hasked,
    hsecond.errors_annotated hexecuted, errors_annotated_request, hsaid, ← List.append_assoc]

end Stages

end Effect

/-! ## Two steps -/

namespace Step

variable {ε α β : Type} {exchange : Exchange} {s t : Step ε α}

/-- The second step is the first one with the lines that are said about its effects. -/
structure Annotates (exchange : Exchange) (s t : Step ε α) : Prop where
  effects : t.effects = Effect.annotated exchange s.effects
  result : t.result = s.result

/-- A step about which there is nothing to say. -/
theorem annotates_self (h : s.Emits fun e => e.isAction = false) : Annotates exchange s s where
  effects := (Effect.annotated_of_forall h).symm
  result := rfl

/-- **Two steps in a row.** -/
theorem Annotates.bind {f g : α → Step ε β} (h : Annotates exchange s t)
    (hfg : ∀ a, s.result = .ok a → Annotates exchange (f a) (g a)) :
    Annotates exchange (s.bind f) (t.bind g) := by
  obtain ⟨heffects, hresult⟩ := h
  cases hs : s.result with
  | error reason =>
    rw [hs] at hresult
    constructor
    · rw [effects_bind_error hresult, effects_bind_error hs, heffects]
    · rw [result_bind_error hresult, result_bind_error hs]
  | ok a =>
    rw [hs] at hresult
    obtain ⟨hrest, hend⟩ := hfg a hs
    constructor
    · rw [effects_bind_ok hresult, effects_bind_ok hs, heffects, hrest, Effect.annotated_append]
    · rw [result_bind_ok hresult, result_bind_ok hs, hend]

end Step

namespace Invocation

open Step (Annotates annotates_self)

variable {definition : CommandDefinition} {endpoint : String} {scope : Scope} {config : RunConfig}
  {around : Surroundings} {request : Request} {reply : Reply}

/-! ## Sending -/

/-- A finite time can be told. -/
theorem exists_statusLine (h : Decimal.IsFinite reply.elapsedMs) :
    ∃ line, statusLine reply = .ok line := by
  obtain ⟨m, q, hfinite⟩ := h
  rw [statusLine, Decimal.truncate?, hfinite]
  exact ⟨_, rfl⟩

theorem exists_statusLine_of_isTimed {timeout : Seconds} (h : around.exchange.IsTimed)
    (hreply : around.exchange.reply timeout = .ok reply) (herror : reply.error = none) :
    ∃ line, statusLine reply = .ok line := by
  cases hexchange : around.exchange with
  | answered a =>
    rw [hexchange] at hreply
    cases hreply
    exact exists_statusLine (h a hexchange)
  | broken f =>
    rw [hexchange] at hreply
    cases hreply
  | _ =>
    -- a reply that is no answer tells a failure
    rw [hexchange] at hreply
    cases hreply
    cases herror

theorem effects_hear_false (reply : Reply) : (hear false reply).effects = [] := by
  unfold hear
  cases reply.error <;> rfl

/-- What is made of a reply does not depend on what is said about it. -/
theorem hear_true (htimed : reply.error = none → ∃ line, statusLine reply = .ok line) :
    (hear true reply).effects = ((if reply.error.isNone then (statusLine reply).toOption
      else none).map .err).toList ∧
    (hear true reply).result = (hear false reply).result := by
  unfold hear
  cases herror : reply.error with
  | some e => exact ⟨rfl, rfl⟩
  | none =>
    obtain ⟨line, hline⟩ := htimed herror
    have htrace : traceStatus true reply = Step.emit (.err line) := by
      rw [traceStatus, hline]
      rfl
    rw [htrace, hline]
    exact ⟨rfl, rfl⟩

theorem effects_send_false (request : Request) (around : Surroundings) :
    (send request around false).effects = [.request request] := by
  rw [send_eq]
  cases hreply : around.exchange.reply request.timeout with
  | error f => rfl
  | ok reply =>
    show .request request :: (hear false reply).effects = [.request request]
    rw [effects_hear_false]

/-- **Sending**: the request, with a line in front and, if it is answered, a line behind. -/
theorem annotates_send
    (htimed : ∀ reply, around.exchange.reply request.timeout = .ok reply → reply.error = none →
      ∃ line, statusLine reply = .ok line) :
    Annotates around.exchange (send request around false) (send request around true) := by
  have hannotated : Effect.annotated around.exchange [.request request] =
      .err (requestLine request) :: .request request ::
        ((answerLine? around.exchange request).map .err).toList := by
    rw [Effect.annotated, List.flatMap_singleton]
    rfl
  have hsend : ∀ verbose, send request around verbose =
      (trace verbose (requestLine request)).bind fun _ => (Step.emit (.request request)).bind
        fun _ => (Step.ofExcept (Stop.ofFault
          (around.exchange.reply request.timeout))).bind (hear verbose) := fun _ => send_eq
  constructor
  case effects =>
    rw [effects_send_false, hannotated, answerLine?, hsend]
    cases hreply : around.exchange.reply request.timeout with
    | error f => rfl
    | ok reply =>
      show .err _ :: .request request :: (hear true reply).effects = _
      rw [(hear_true (htimed reply hreply)).1]
  case result =>
    rw [hsend, hsend]
    cases hreply : around.exchange.reply request.timeout with
    | error f => rfl
    | ok reply => exact (hear_true (htimed reply hreply)).2

/-! ## The stages -/

/-- An invocation that has no answer, or one with a time that can be told. -/
def Tells (definition : CommandDefinition) (scope : Scope) (config : RunConfig)
    (around : Surroundings) : Prop :=
  ∀ reply, IsReplied definition scope config around reply → reply.error = none →
    ∃ line, statusLine reply = .ok line

theorem annotates_ask (h : Tells definition scope config around)
    (hendpoint : given? definition.endpoint = some endpoint) :
    Annotates around.exchange (ask definition endpoint scope config around false)
      (ask definition endpoint scope config around true) := by
  have hprepared : Annotates around.exchange
      (Step.ofExcept (prepare definition endpoint scope config))
      (Step.ofExcept (prepare definition endpoint scope config)) :=
    annotates_self (Step.emits_ofExcept _)
  refine hprepared.bind fun prepared hprepare => ?_
  cases prepared with
  | error e => exact annotates_self (Step.emits_ok _)
  | ok request =>
    refine annotates_send fun reply hreply => h reply ?_
    exact ⟨endpoint, request, hendpoint, hprepare, hreply⟩

/-- What follows on the outcome of a request needs no line. -/
theorem isAction_conclude (definition : CommandDefinition) (scope : Scope) (around : Surroundings)
    (outcome : Except RequestError Reply) :
    (conclude definition scope around outcome).Emits fun e => e.isAction = false :=
  emits_conclude_of (fun _ => rfl) (fun _ => rfl) (fun _ => rfl) (fun _ _ => rfl) definition scope
    around outcome

/-- Without an endpoint nothing is sent and nothing is said. -/
theorem firstStage_of_endpoint_eq_none (h : given? definition.endpoint = none) (verbose : Bool) :
    (firstStage definition scope config around verbose).Emits (fun e => e.isAction = false) ∧
      firstStage definition scope config around verbose =
        firstStage definition scope config around false := by
  constructor
  · rw [firstStage, h]
    cases given? definition.response with
    | none => exact Step.emits_ok _
    | some template =>
      have hshown : (Step.emit (.out (Template.resolve scope template)) : Step Stop Unit).Emits
          fun e => e.isAction = false := Step.emits_emit rfl
      exact hshown.bind fun _ _ => Step.emits_ok _
  · rw [firstStage, firstStage, h]

/-- **The first stage.** -/
theorem annotates_firstStage (h : Tells definition scope config around) :
    Annotates around.exchange (firstStage definition scope config around false)
      (firstStage definition scope config around true) := by
  cases hendpoint : given? definition.endpoint with
  | some endpoint =>
    rw [firstStage_of_endpoint hendpoint, firstStage_of_endpoint hendpoint]
    exact (annotates_ask h hendpoint).bind fun outcome _ =>
      annotates_self (isAction_conclude definition scope around outcome)
  | none =>
    rw [(firstStage_of_endpoint_eq_none hendpoint true).2]
    exact annotates_self (firstStage_of_endpoint_eq_none hendpoint false).1

/-- **The shell stage.** -/
theorem annotates_shellStage (exchange : Exchange) :
    Annotates exchange (shellStage definition scope around false)
      (shellStage definition scope around true) := by
  cases hexecute : given? definition.execute with
  | none =>
    rw [shellStage, shellStage, hexecute]
    exact annotates_self (Step.emits_ok true)
  | some template =>
    have hcommand : Annotates exchange
        (Step.emit (.command (Template.resolve scope template)) : Step Stop Unit)
        ⟨[.err (commandLine (Template.resolve scope template)),
          .command (Template.resolve scope template)], .ok ()⟩ := ⟨rfl, rfl⟩
    have hquiet : ∀ (text command : String) (f : Unit → Step Stop Bool),
        ((trace false text).bind fun _ => (Step.emit (.command command)).bind f) =
          (Step.emit (.command command)).bind f := fun _ _ _ => rfl
    have hloud : ∀ (text command : String) (f : Unit → Step Stop Bool),
        ((trace true text).bind fun _ => (Step.emit (.command command)).bind f) =
          (⟨[.err text, .command command], .ok ()⟩ : Step Stop Unit).bind f := fun _ _ _ => rfl
    rw [shellStage_of_execute hexecute, shellStage_of_execute hexecute, hquiet, hloud]
    refine hcommand.bind fun _ _ => annotates_self ?_
    refine (Step.emits_ofExcept _).bind fun outcome _ => ?_
    exact emits_tell (fun _ => rfl) (fun _ => rfl) (fun _ _ => rfl) outcome

/-! ## Where requests and shell commands stand -/

/-- A quiet request is all there is until its outcome. -/
theorem exists_effects_ask_false (definition : CommandDefinition) (endpoint : String)
    (scope : Scope) (config : RunConfig) (around : Surroundings) :
    ∃ asked : Option Request, (ask definition endpoint scope config around false).effects =
      (asked.map .request).toList := by
  cases hprepare : prepare definition endpoint scope config with
  | error reason =>
    refine ⟨none, ?_⟩
    rw [ask, hprepare]
    rfl
  | ok prepared =>
    cases prepared with
    | error e =>
      refine ⟨none, ?_⟩
      rw [ask, hprepare]
      rfl
    | ok request =>
      refine ⟨some request, ?_⟩
      rw [ask, hprepare]
      exact effects_send_false request around

/-- The first stage begins with its request, if it makes one. -/
theorem exists_beginsWith_firstStage (definition : CommandDefinition) (scope : Scope)
    (config : RunConfig) (around : Surroundings) :
    ∃ asked : Option Request, Effect.BeginsWith (asked.map .request).toList
      (firstStage definition scope config around false).effects := by
  cases hendpoint : given? definition.endpoint with
  | none => exact ⟨none, _, rfl, (firstStage_of_endpoint_eq_none hendpoint false).1⟩
  | some endpoint =>
    obtain ⟨asked, hasked⟩ := exists_effects_ask_false definition endpoint scope config around
    obtain ⟨rest, heffects, hrest⟩ := Step.exists_effects_bind (P := fun e => e.isAction = false)
      fun outcome (_ : (ask definition endpoint scope config around false).result = .ok outcome) =>
        isAction_conclude definition scope around outcome
    refine ⟨asked, rest, ?_, hrest⟩
    rw [firstStage_of_endpoint hendpoint, heffects, hasked]

/-- The shell stage begins with its shell command, if there is one. -/
theorem exists_beginsWith_shellStage (definition : CommandDefinition) (scope : Scope)
    (around : Surroundings) :
    ∃ executed : Option String, Effect.BeginsWith (executed.map .command).toList
      (shellStage definition scope around false).effects := by
  cases hexecute : given? definition.execute with
  | none =>
    refine ⟨none, [], ?_, List.forall_mem_nil _⟩
    rw [shellStage, hexecute]
    rfl
  | some template =>
    have htold : ((Step.ofExcept (Stop.ofFault (around.shell around.files
        (Template.resolve scope template)))).bind tell).Emits fun e => e.isAction = false :=
      (Step.emits_ofExcept _).bind fun outcome _ =>
        emits_tell (fun _ => rfl) (fun _ => rfl) (fun _ _ => rfl) outcome
    refine ⟨some (Template.resolve scope template), _, ?_, htold⟩
    rw [shellStage_of_execute hexecute]
    rfl

/-! ## The whole invocation -/

variable {arguments : OrderedMap String String} {session : Session}

/-- **The whole invocation.** -/
theorem annotates_run (h : ∀ session, around.store.load around.files = .ok session →
      Tells definition (scopeOf config session arguments) config around) :
    Annotates around.exchange (run definition arguments config around false)
      (run definition arguments config around true) := by
  cases hload : around.store.load around.files with
  | error reason =>
    rw [run_of_load_error hload, run_of_load_error hload]
    exact annotates_self (List.forall_mem_nil _)
  | ok session =>
    have hfirst := annotates_firstStage (h session hload)
    -- the shell command finds the same files
    have hfiles : Effect.applyAll around.files (firstStage definition
          (scopeOf config session arguments) config around true).effects =
        Effect.applyAll around.files (firstStage definition
          (scopeOf config session arguments) config around false).effects := by
      rw [hfirst.effects]
      exact Effect.eq_of_withoutErr (Effect.applyAll_withoutErr around.files) _ _
    rw [run_of_load definition arguments config false hload,
      run_of_load definition arguments config true hload, hfiles]
    refine hfirst.bind fun ⟨sent, final⟩ _ => ?_
    exact (annotates_shellStage around.exchange).bind fun ran _ => annotates_self (Step.emits_ok _)

/-- A verbose invocation beside a quiet one: it ends alike, does the same to everything but standard
error, and there only the lines about the request, its answer and the shell command are new. -/
structure IsObserved (exchange : Exchange) (files : FileTree) (quiet loud : Step Stop Nat) :
    Prop where
  result : loud.result = quiet.result
  effects : loud.effects = Effect.annotated exchange quiet.effects
  stdout : Effect.stdout loud.effects = Effect.stdout quiet.effects
  requests : Effect.requests loud.effects = Effect.requests quiet.effects
  commands : Effect.commands loud.effects = Effect.commands quiet.effects
  files : Effect.applyAll files loud.effects = Effect.applyAll files quiet.effects
  stderr : ∃ (asked : Option Request) (executed : Option String) (reported told : List String),
    Effect.requests quiet.effects = asked.toList ∧
    Effect.commands quiet.effects = executed.toList ∧
    Effect.stderr quiet.effects = Effect.lines (reported ++ told) ∧
    Effect.stderr loud.effects = Effect.lines ((asked.map requestLine).toList ++
      (asked.bind (answerLine? exchange)).toList ++ reported ++
      (executed.map commandLine).toList ++ told)

/-- A quiet invocation begins with its request, and what follows on that with its shell command. -/
theorem exists_stages_run (definition : CommandDefinition) (arguments : OrderedMap String String)
    (config : RunConfig) (around : Surroundings) :
    ∃ (asked : Option Request) (executed : Option String) (first second : List Effect),
      Effect.BeginsWith (asked.map .request).toList first ∧
      Effect.BeginsWith (executed.map .command).toList second ∧
      (run definition arguments config around false).effects = first ++ second := by
  have hnone : Effect.BeginsWith [] [] := ⟨[], rfl, List.forall_mem_nil _⟩
  cases hload : around.store.load around.files with
  | error reason =>
    refine ⟨none, none, [], [], hnone, hnone, ?_⟩
    rw [run_of_load_error hload]
    rfl
  | ok session =>
    obtain ⟨asked, hasked⟩ := exists_beginsWith_firstStage definition
      (scopeOf config session arguments) config around
    cases hfirst : (firstStage definition (scopeOf config session arguments) config around
        false).result with
    | error reason =>
      refine ⟨asked, none, _, [], hasked, hnone, ?_⟩
      rw [run_of_firstStage_error hload hfirst, List.append_nil]
    | ok outcome =>
      obtain ⟨executed, hexecuted⟩ := exists_beginsWith_shellStage definition outcome.2
        (aroundShell definition (scopeOf config session arguments) config around false)
      refine ⟨asked, executed, _, _, hasked, hexecuted, ?_⟩
      rw [run_of_firstStage hload hfirst]

/-- **Verbosity is observation only.** Where an answer takes a finite time, a verbose invocation and
a quiet one of the same command have the same status or stop for the same reason, and they do the
same to everything but standard error: there the quiet one has the lines of the verbose one without
those that name the request, the status of its answer and the shell command. -/
theorem isObserved_run (definition : CommandDefinition) (arguments : OrderedMap String String)
    (config : RunConfig) (htimed : around.exchange.IsTimed) :
    IsObserved around.exchange around.files (run definition arguments config around false)
      (run definition arguments config around true) := by
  have htells : ∀ session, around.store.load around.files = .ok session →
      Tells definition (scopeOf config session arguments) config around := by
    rintro session - reply ⟨endpoint, request, -, -, hreply⟩ herror
    exact exists_statusLine_of_isTimed htimed hreply herror
  obtain ⟨heffects, hresult⟩ := annotates_run htells
  constructor
  case result => exact hresult
  case effects => exact heffects
  case stdout =>
    rw [heffects]
    exact Effect.eq_of_withoutErr Effect.stdout_withoutErr _ _
  case requests =>
    rw [heffects]
    exact Effect.eq_of_withoutErr Effect.requests_withoutErr _ _
  case commands =>
    rw [heffects]
    exact Effect.eq_of_withoutErr Effect.commands_withoutErr _ _
  case files =>
    rw [heffects]
    exact Effect.eq_of_withoutErr (Effect.applyAll_withoutErr around.files) _ _
  case stderr =>
    obtain ⟨asked, executed, first, second, hfirst, hsecond, hstages⟩ :=
      exists_stages_run definition arguments config around
    obtain ⟨hrequests, hcommands⟩ := Effect.requests_commands_append hfirst hsecond
    refine ⟨asked, executed, Effect.errors first, Effect.errors second, ?_, ?_, ?_, ?_⟩
    · rw [hstages, hrequests]
    · rw [hstages, hcommands]
    · rw [Effect.stderr_eq, hstages, Effect.errors_append]
    · rw [Effect.stderr_eq, heffects, hstages, Effect.errors_annotated_append hfirst hsecond]

/-- A command with a request and a shell command. -/
def probe : CommandDefinition :=
  { name := "probe", endpoint := some "get http://localhost", execute := some "exit 3" }

/-- What is around `probe`: an answer after a quarter of a second that tells a failure, and a shell
in which every command ends with status three. -/
def probeAround : Surroundings where
  files := ⟨.empty, [], []⟩
  store := ⟨.absolute ["session.json"]⟩
  exchange := .answered ⟨500, [], "no", 0, 0.25⟩
  shell := fun _ _ => .ok { status := 3 }

/-- Both stages fail, and a verbose invocation says so as a quiet one does. -/
theorem isObserved_run_probe :
    probeAround.exchange.IsTimed ∧
      IsObserved probeAround.exchange probeAround.files (run probe .empty {} probeAround false)
        (run probe .empty {} probeAround true) ∧
      Effect.stderr (run probe .empty {} probeAround false).effects =
        "ERROR: no\nERROR: Command exited with status 3\n" ∧
      Effect.stderr (run probe .empty {} probeAround true).effects =
        "GET http://localhost\nSTATUS: 500 (250ms)\nERROR: no\nEXEC: exit 3\n" ++
          "ERROR: Command exited with status 3\n" := by
  have htimed : probeAround.exchange.IsTimed := by
    rintro a ⟨⟩
    exact ⟨8796093022208000, -45, by decide +kernel⟩
  have hobserved := isObserved_run probe .empty {} htimed
  exact ⟨htimed, hobserved, by decide +kernel, by decide +kernel⟩

end Invocation

end CommandBook
