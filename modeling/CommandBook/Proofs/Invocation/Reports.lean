import CommandBook.Proofs.Invocation.Order
import CommandBook.Proofs.Invocation.Shape
import CommandBook.Proofs.Invocation.Verbose

/-!
# Status and reports

Two stages of an invocation can fail: the request, and the shell command. Each of them decides on
its own, in several places, whether it failed; `RequestFails` and `CommandFails` say when that is,
and with which report. An invocation that has a status has the status one if one of them failed, and
else zero. Each failed stage is reported once, the request before the shell command, and puts
nothing on standard output; what the other stage puts there does not depend on it.

## Main statements

* `requestFails_iff`, `ShellOutcome.fails_iff` — failures by the results of the stages
* `exists_accounts_firstStage`, `exists_accounts_shellStage` — what a stage reports and prints
* `isReported_run` — the whole invocation
-/

namespace CommandBook

/-! ## Lines -/

namespace Effect

/-- The texts on standard output in order. -/
def outs (es : List Effect) : List String :=
  es.filterMap fun
    | .out text => some text
    | _ => none

@[simp] theorem outs_append (es es' : List Effect) : outs (es ++ es') = outs es ++ outs es' :=
  List.filterMap_append

/-- An effect that is no line on either channel. -/
def IsMute : Effect → Prop
  | .out _ | .verbatim _ | .err _ => False
  | _ => True

theorem outs_of_isMute {es : List Effect} (h : ∀ e ∈ es, e.IsMute) : outs es = [] := by
  rw [outs, List.filterMap_eq_nil_iff]
  intro e he
  cases e with
  | out text => exact (h _ he).elim
  | _ => rfl

theorem errors_of_isMute {es : List Effect} (h : ∀ e ∈ es, e.IsMute) : errors es = [] := by
  rw [errors, List.filterMap_eq_nil_iff]
  intro e he
  cases e with
  | err text => exact (h _ he).elim
  | _ => rfl

/-- Without texts that are printed as they are, standard output is a row of lines. -/
theorem stdout_eq {es : List Effect} (h : ∀ text, .verbatim text ∉ es) :
    stdout es = lines (outs es) := by
  rw [stdout, lines, outs, List.map_filterMap]
  refine congrArg String.join (List.filterMap_congr fun e he => ?_)
  cases e with
  | verbatim text => exact absurd he (h text)
  | _ => rfl

end Effect

/-! ## Failures -/

namespace ShellOutcome

/-- A shell command fails: it cannot be started, or it ends with a status other than zero, which may
be negative. Its report is the reason, else what it wrote to standard error, else its status. -/
inductive Fails (outcome : ShellOutcome) : String → Prop
  | notStarted {reason : String} (herror : outcome.error = some reason) : Fails outcome reason
  | saying (herror : outcome.error = none) (hstatus : outcome.status ≠ 0)
      (hsaid : Text.trim outcome.stderr ≠ "") : Fails outcome (Text.trim outcome.stderr)
  | silent (herror : outcome.error = none) (hstatus : outcome.status ≠ 0)
      (hsaid : Text.trim outcome.stderr = "") :
      Fails outcome s!"Command exited with status {outcome.status}"

theorem fails_iff {outcome : ShellOutcome} {report : String} :
    outcome.Fails report ↔ outcome.failure? = some report := by
  unfold failure?
  constructor
  · intro h
    cases h with
    | notStarted herror => rw [herror]
    | saying herror hstatus hsaid =>
      rw [herror]
      simp [hstatus, hsaid]
    | silent herror hstatus hsaid =>
      rw [herror]
      simp [hstatus, hsaid]
  · intro h
    cases herror : outcome.error with
    | some reason =>
      rw [herror] at h
      cases h
      exact .notStarted herror
    | none =>
      rw [herror] at h
      by_cases hstatus : outcome.status = 0
      · simp [hstatus] at h
      · by_cases hsaid : Text.trim outcome.stderr = ""
        · simp only [hstatus, hsaid, if_true, if_false, Option.some.injEq] at h
          subst h
          exact .silent herror hstatus hsaid
        · simp only [hstatus, hsaid, if_false, Option.some.injEq] at h
          subst h
          exact .saying herror hstatus hsaid

end ShellOutcome

namespace Invocation

variable {definition : CommandDefinition} {endpoint : String} {scope final : Scope}
  {config : RunConfig} {around : Surroundings} {verbose : Bool} {reply : Reply}
  {report text : String}

/-- A request fails: its body is no JSON once placeholders are replaced, the transport reports an
error, or it is answered with a status outside of the range of success. -/
inductive RequestFails (definition : CommandDefinition) (scope : Scope) (config : RunConfig)
    (around : Surroundings) : String → Prop
  | malformed {endpoint problem : String} {json : Json} {cause : Json.ReadCause} {offset : Nat}
      (hendpoint : given? definition.endpoint = some endpoint)
      (hbody : definition.body.isNull = false) (hjson : definition.body.toJson? = .ok json)
      (hread : Json.readChars (Template.resolveChars scope json.renderChars) =
        .error (.malformed cause offset))
      (hproblem : (Json.ReadError.locate cause (Template.resolveChars scope json.renderChars)
        offset).message = problem) :
      RequestFails definition scope config around
        s!"Request body is not valid JSON after substitution: {problem}"
  | transport {reply : Reply} {reason : String}
      (hreplied : IsReplied definition scope config around reply)
      (herror : reply.error = some reason) : RequestFails definition scope config around reason
  | status {reply : Reply} (hreplied : IsReplied definition scope config around reply)
      (herror : reply.error = none) (hstatus : ¬(200 ≤ reply.status ∧ reply.status < 300)) :
      RequestFails definition scope config around
        { message := s!"Request failed with status {reply.status}"
          body := some reply.body : RequestError }.report

/-- What the first stage shows: the response as it stands where no request is made, else the
response filled from an answer that tells success. -/
inductive RequestShows (definition : CommandDefinition) (scope : Scope) (config : RunConfig)
    (around : Surroundings) : String → Prop
  | unasked {template : String} (hendpoint : given? definition.endpoint = none)
      (hresponse : given? definition.response = some template) :
      RequestShows definition scope config around (Template.resolve scope template)
  | answered {reply : Reply} {template text : String}
      (hreplied : IsReplied definition scope config around reply) (hok : reply.ok)
      (hresponse : given? definition.response = some template)
      (hdisplay : Response.display template reply.body = .ok text) :
      RequestShows definition scope config around (Template.resolve scope text)

/-- The shell command of a definition comes to an outcome, in a scope and among files. -/
def Ends (definition : CommandDefinition) (final : Scope) (around : Surroundings)
    (outcome : ShellOutcome) : Prop :=
  ∃ template, given? definition.execute = some template ∧
    around.shell around.files (Template.resolve final template) = .ok outcome

/-- The shell command of an invocation, which sees what the first stage leaves, comes to an outcome.
What the first stage leaves is the same in a verbose invocation. -/
def CommandEnds (definition : CommandDefinition) (scope : Scope) (config : RunConfig)
    (around : Surroundings) (outcome : ShellOutcome) : Prop :=
  ∃ sent final, (firstStage definition scope config around false).result = .ok (sent, final) ∧
    Ends definition final (aroundShell definition scope config around false) outcome

/-- The shell command of an invocation fails, with a report. -/
def CommandFails (definition : CommandDefinition) (scope : Scope) (config : RunConfig)
    (around : Surroundings) (report : String) : Prop :=
  ∃ outcome, CommandEnds definition scope config around outcome ∧ outcome.Fails report

/-- The shell command of an invocation goes well, and what it printed is shown. -/
def CommandShows (definition : CommandDefinition) (scope : Scope) (config : RunConfig)
    (around : Surroundings) (text : String) : Prop :=
  ∃ outcome, CommandEnds definition scope config around outcome ∧
    (∀ report, ¬outcome.Fails report) ∧ text = Text.trim outcome.stdout

/-! ## The request -/

/-- When a request that is sent fails. -/
theorem send_eq_error_iff {request : Request} {e : RequestError} :
    (send request around false).result = .ok (.error e) ↔
      ∃ reply, around.exchange.reply request.timeout = .ok reply ∧
        ((∃ reason, reply.error = some reason ∧ e = { message := reason }) ∨
          reply.error = none ∧ reply.ok = false ∧
            e = { message := s!"Request failed with status {reply.status}"
                  body := some reply.body }) := by
  rw [send_eq, Step.result_bind_ok (trace_result _ _), Step.result_bind_ok (a := ()) rfl,
    Step.result_bind_eq_ok_iff]
  simp only [Step.ofExcept, ofFault_eq_ok_iff]
  refine exists_congr fun reply => and_congr_right fun _ => ?_
  unfold hear
  cases herror : reply.error with
  | some reason =>
    simp only [Step.ok, Except.ok.injEq, Except.error.injEq, Option.some.injEq, exists_eq_left',
      reduceCtorEq, false_and, or_false]
    exact eq_comm
  | none =>
    have hjudge : ((traceStatus false reply).bind fun _ => (.ok (judge reply) :
        Step Stop (Except RequestError Reply))).result = .ok (judge reply) := rfl
    rw [hjudge, judge]
    simp only [reduceCtorEq, false_and, exists_false, true_and, false_or]
    cases reply.ok with
    | true => simp
    | false =>
      simp only [Bool.false_eq_true, if_false, Except.ok.injEq, Except.error.injEq, true_and]
      exact eq_comm

/-- A reply that tells no failure of the transport, but a status outside of the range of success. -/
theorem ok_eq_false_iff (herror : reply.error = none) :
    reply.ok = false ↔ ¬(200 ≤ reply.status ∧ reply.status < 300) := by
  rw [Reply.ok, herror]
  simp

/-- **A request fails** exactly if asking comes to an error, and its report is that of the error. -/
theorem requestFails_iff (hendpoint : given? definition.endpoint = some endpoint) :
    RequestFails definition scope config around report ↔
      ∃ e, (ask definition endpoint scope config around false).result = .ok (.error e) ∧
        e.report = report := by
  have hask : ∀ {request e}, prepare definition endpoint scope config = .ok (.ok request) →
      (send request around false).result = .ok (.error e) →
        (ask definition endpoint scope config around false).result = .ok (.error e) := by
    intro request e hprepare hsend
    rw [ask, hprepare]
    exact hsend
  constructor
  · intro h
    cases h with
    | @malformed _ problem json cause offset _ hbody hjson hread hproblem =>
      refine ⟨{ message := s!"Request body is not valid JSON after substitution: {problem}" }, ?_,
        rfl⟩
      have hpayload := payload_eq_error_iff.2
        ⟨hbody, json, cause, offset, hjson, hread, problem, hproblem, rfl⟩
      rw [ask, prepare_eq_error_iff.2 hpayload]
      rfl
    | transport hreplied herror =>
      obtain ⟨endpoint', request, hendpoint', hprepare, hreply⟩ := hreplied
      obtain rfl : endpoint = endpoint' := Option.some.inj (hendpoint.symm.trans hendpoint')
      refine ⟨{ message := report }, hask hprepare ?_, rfl⟩
      exact send_eq_error_iff.2 ⟨_, hreply, Or.inl ⟨report, herror, rfl⟩⟩
    | status hreplied herror hstatus =>
      obtain ⟨endpoint', request, hendpoint', hprepare, hreply⟩ := hreplied
      obtain rfl : endpoint = endpoint' := Option.some.inj (hendpoint.symm.trans hendpoint')
      refine ⟨_, hask hprepare ?_, rfl⟩
      exact send_eq_error_iff.2
        ⟨_, hreply, Or.inr ⟨herror, (ok_eq_false_iff herror).2 hstatus, rfl⟩⟩
  · rintro ⟨e, hresult, rfl⟩
    rw [ask, Step.result_bind_eq_ok_iff] at hresult
    obtain ⟨prepared, hprepare, hsend⟩ := hresult
    cases prepared with
    | error e' =>
      cases hsend
      obtain ⟨hbody, json, cause, offset, hjson, hread, problem, hproblem, rfl⟩ :=
        payload_eq_error_iff.1 (prepare_eq_error_iff.1 hprepare)
      exact .malformed hendpoint hbody hjson hread hproblem
    | ok request =>
      obtain ⟨reply, hreply, hfailure⟩ := send_eq_error_iff.1 hsend
      have hreplied : IsReplied definition scope config around reply :=
        ⟨endpoint, request, hendpoint, hprepare, hreply⟩
      rcases hfailure with ⟨reason, herror, rfl⟩ | ⟨herror, hok, rfl⟩
      · exact .transport hreplied herror
      · exact .status hreplied herror ((ok_eq_false_iff herror).1 hok)

/-- Without an endpoint no request fails. -/
theorem not_requestFails (h : given? definition.endpoint = none) :
    ¬RequestFails definition scope config around report := by
  have hreplied : ∀ reply, ¬IsReplied definition scope config around reply := by
    rintro reply ⟨endpoint, request, hendpoint, -⟩
    rw [h] at hendpoint
    cases hendpoint
  intro hfails
  cases hfails with
  | malformed hendpoint =>
    rw [h] at hendpoint
    cases hendpoint
  | transport hreply => exact hreplied _ hreply
  | status hreply => exact hreplied _ hreply

/-- **A request shows something** exactly if it succeeds and the response can be filled. -/
theorem requestShows_iff (hendpoint : given? definition.endpoint = some endpoint) :
    RequestShows definition scope config around text ↔
      ∃ reply template filled,
        (ask definition endpoint scope config around false).result = .ok (.ok reply) ∧
        given? definition.response = some template ∧
        Response.display template reply.body = .ok filled ∧
        Template.resolve scope filled = text := by
  constructor
  · intro h
    cases h with
    | unasked hnone =>
      rw [hendpoint] at hnone
      cases hnone
    | @answered reply template filled hreplied hok hresponse hdisplay =>
      have hsucceeds : Succeeds definition scope config around false reply :=
        ⟨hreplied, hok, nofun⟩
      exact ⟨reply, template, filled, (succeeds_iff hendpoint).1 hsucceeds, hresponse, hdisplay,
        rfl⟩
  · rintro ⟨reply, template, filled, hask, hresponse, hdisplay, rfl⟩
    have hsucceeds := (succeeds_iff hendpoint).2 hask
    exact .answered hsucceeds.replied hsucceeds.ok hresponse hdisplay

/-! ## What a stage reports and shows -/

/-- A report as it stands on standard error. -/
def reportLine (report : String) : String := s!"ERROR: {report}"

/-- What a stage reports and shows: if it fails, one report and nothing else; otherwise no report
and at most one line. -/
structure Accounts (fails shows : String → Prop) (went : Bool) (failed shown : Option String)
    (es : List Effect) : Prop where
  failed_iff : ∀ report, failed = some report ↔ fails report
  shown_iff : ∀ text, shown = some text ↔ shows text
  went_eq : went = failed.isNone
  exclusive : failed.isSome → shown = none
  errors_eq : Effect.errors es = (failed.map reportLine).toList
  outs_eq : Effect.outs es = shown.toList
  verbatim_not_mem : ∀ text, .verbatim text ∉ es

/-- A row with at most one report and at most one line to show, and otherwise only mute effects. -/
theorem lines_of_rows {failed shown : Option String} {before after es : List Effect}
    (hbefore : ∀ e ∈ before, e.IsMute) (hafter : ∀ e ∈ after, e.IsMute)
    (h : es = before ++ (failed.map (Effect.err ∘ reportLine)).toList ++
      (shown.map Effect.out).toList ++ after) :
    Effect.errors es = (failed.map reportLine).toList ∧ Effect.outs es = shown.toList ∧
      ∀ text, .verbatim text ∉ es := by
  subst h
  refine ⟨?_, ?_, fun text hmem => ?_⟩
  · simp only [Effect.errors_append, Effect.errors_of_isMute hbefore,
      Effect.errors_of_isMute hafter]
    cases failed <;> cases shown <;> rfl
  · simp only [Effect.outs_append, Effect.outs_of_isMute hbefore, Effect.outs_of_isMute hafter]
    cases failed <;> cases shown <;> rfl
  · simp only [List.mem_append] at hmem
    rcases hmem with ((hmem | hmem) | hmem) | hmem
    · exact hbefore _ hmem
    · cases failed with
      | none => cases hmem
      | some report => cases List.mem_singleton.1 hmem
    · cases shown with
      | none => cases hmem
      | some shownText => cases List.mem_singleton.1 hmem
    · exact hafter _ hmem

/-- The first stage of a command without a request. -/
theorem accounts_of_endpoint_eq_none {sent : Bool}
    (hendpoint : given? definition.endpoint = none)
    (hfirst : (firstStage definition scope config around false).result = .ok (sent, final)) :
    Accounts (RequestFails definition scope config around)
      (RequestShows definition scope config around) sent none
      ((given? definition.response).map (Template.resolve scope))
      (firstStage definition scope config around false).effects := by
  have hshows : ∀ text, RequestShows definition scope config around text ↔
      ∃ template, given? definition.response = some template ∧
        Template.resolve scope template = text := by
    intro text
    constructor
    · intro h
      cases h with
      | unasked _ hresponse => exact ⟨_, hresponse, rfl⟩
      | answered hreplied =>
        obtain ⟨endpoint, request, hsome, -⟩ := hreplied
        rw [hendpoint] at hsome
        cases hsome
    · rintro ⟨template, hresponse, rfl⟩
      exact .unasked hendpoint hresponse
  have hstage : (firstStage definition scope config around false).effects =
        (((given? definition.response).map (Template.resolve scope)).map Effect.out).toList ∧
      sent = true := by
    rw [firstStage, hendpoint] at hfirst ⊢
    cases hresponse : given? definition.response <;> rw [hresponse] at hfirst <;> cases hfirst <;>
      exact ⟨rfl, rfl⟩
  obtain ⟨heffects, rfl⟩ := hstage
  have hnone : ∀ e ∈ ([] : List Effect), e.IsMute := List.forall_mem_nil _
  obtain ⟨herrors, houts, hverbatim⟩ := @lines_of_rows none _ [] [] _ hnone hnone
    (heffects.trans (List.append_nil _).symm)
  refine ⟨fun report => ?_, fun text => ?_, rfl, fun h => ?_, herrors, houts, hverbatim⟩
  · have hnot := @not_requestFails definition scope config around report hendpoint
    simp [hnot]
  · rw [hshows, Option.map_eq_some_iff]
  · cases h

/-- What is shown of an answer, where it can be filled. -/
theorem exists_effects_showResponse {body : Json}
    (h : (showResponse definition body scope).result = .ok ()) :
    ∃ shown : Option String,
      (showResponse definition body scope).effects = (shown.map .out).toList ∧
        ∀ text, shown = some text ↔ ∃ template filled,
          given? definition.response = some template ∧
          Response.display template body = .ok filled ∧ Template.resolve scope filled = text := by
  unfold showResponse at h ⊢
  cases hresponse : given? definition.response with
  | none => exact ⟨none, rfl, by simp⟩
  | some template =>
    rw [hresponse] at h
    obtain ⟨filled, hdisplay, -⟩ := Step.result_bind_eq_ok_iff.1 h
    have hfilled : Response.display template body = .ok filled := ofFault_eq_ok_iff.1 hdisplay
    refine ⟨some (Template.resolve scope filled), ?_, fun text => ?_⟩
    · simp only [hfilled]
      rfl
    · constructor
      · rintro ⟨⟩
        exact ⟨template, filled, rfl, hfilled, rfl⟩
      · rintro ⟨template', filled', hsome, hfilled', rfl⟩
        cases hsome
        rw [hfilled] at hfilled'
        cases hfilled'
        rfl

/-- The request itself is no line. -/
theorem isMute_request (asked : Option Request) :
    ∀ e ∈ (asked.map Effect.request).toList, e.IsMute := by
  intro e he
  cases asked with
  | none => exact absurd he List.not_mem_nil
  | some r =>
    obtain rfl := List.mem_singleton.1 he
    trivial

/-- The first stage of a command whose request fails. -/
theorem accounts_of_ask_error {e : RequestError} {sent : Bool}
    (hendpoint : given? definition.endpoint = some endpoint)
    (hask : (ask definition endpoint scope config around false).result = .ok (.error e))
    (hfirst : (firstStage definition scope config around false).result = .ok (sent, final)) :
    Accounts (RequestFails definition scope config around)
      (RequestShows definition scope config around) sent (some e.report) none
      (firstStage definition scope config around false).effects := by
  obtain ⟨asked, hasked⟩ := exists_effects_ask_false definition endpoint scope config around
  have heffects : (firstStage definition scope config around false).effects =
      (asked.map .request).toList ++ [.err (reportLine e.report)] ++ [] ++ [] := by
    rw [firstStage_of_endpoint hendpoint, Step.effects_bind_ok hask, hasked, List.append_nil,
      List.append_nil]
    rfl
  obtain ⟨herrors, houts, hverbatim⟩ := @lines_of_rows (some e.report) none _ _ _
    (isMute_request asked) (List.forall_mem_nil _) heffects
  rw [firstStage_of_endpoint hendpoint, Step.result_bind_ok hask] at hfirst
  cases hfirst
  refine ⟨fun report => ?_, fun text => ?_, rfl, fun _ => rfl, herrors, houts, hverbatim⟩
  · rw [requestFails_iff hendpoint, hask]
    simp
  · rw [requestShows_iff hendpoint, hask]
    simp

/-- The first stage of a command whose request succeeds. -/
theorem exists_accounts_of_ask_ok {sent : Bool}
    (hendpoint : given? definition.endpoint = some endpoint)
    (hask : (ask definition endpoint scope config around false).result = .ok (.ok reply))
    (hfirst : (firstStage definition scope config around false).result = .ok (sent, final)) :
    ∃ shown, Accounts (RequestFails definition scope config around)
      (RequestShows definition scope config around) sent none shown
      (firstStage definition scope config around false).effects := by
  obtain ⟨asked, hasked⟩ := exists_effects_ask_false definition endpoint scope config around
  rw [firstStage_of_endpoint hendpoint, Step.result_bind_ok hask, conclude,
    Step.result_bind_eq_ok_iff] at hfirst
  obtain ⟨_, hshow, hfirst⟩ := hfirst
  obtain ⟨saved, -, hfirst⟩ := Step.result_bind_eq_ok_iff.1 hfirst
  cases hfirst
  obtain ⟨shown, hshown, hshows⟩ := exists_effects_showResponse hshow
  have heffects : (firstStage definition scope config around false).effects =
      (asked.map .request).toList ++ [] ++ (shown.map .out).toList ++
        (captureAndSave definition reply.body scope around).effects := by
    rw [firstStage_of_endpoint hendpoint, Step.effects_bind_ok hask, hasked, conclude,
      Step.effects_bind_ok hshow, hshown, Step.bind_ok, List.append_nil, List.append_assoc]
  have hsaving : ∀ e ∈ (captureAndSave definition reply.body scope around).effects, e.IsMute :=
    emits_captureAndSave (fun _ => trivial) (fun _ _ => trivial) reply.body
  obtain ⟨herrors, houts, hverbatim⟩ := @lines_of_rows none shown _ _ _
    (isMute_request asked) hsaving heffects
  refine ⟨shown, fun report => ?_, fun text => ?_, rfl, fun h => ?_, herrors, houts, hverbatim⟩
  · rw [requestFails_iff hendpoint, hask]
    simp
  · rw [requestShows_iff hendpoint, hask, hshows]
    simp
  · cases h

/-- **What the first stage reports and shows.** -/
theorem exists_accounts_firstStage {sent : Bool}
    (hfirst : (firstStage definition scope config around false).result = .ok (sent, final)) :
    ∃ failed shown, Accounts (RequestFails definition scope config around)
      (RequestShows definition scope config around) sent failed shown
      (firstStage definition scope config around false).effects := by
  cases hendpoint : given? definition.endpoint with
  | none => exact ⟨_, _, accounts_of_endpoint_eq_none hendpoint hfirst⟩
  | some endpoint =>
    cases hask : (ask definition endpoint scope config around false).result with
    | error reason =>
      rw [firstStage_of_endpoint hendpoint, Step.result_bind_error hask] at hfirst
      cases hfirst
    | ok outcome =>
      cases outcome with
      | error e => exact ⟨_, _, accounts_of_ask_error hendpoint hask hfirst⟩
      | ok reply => exact ⟨none, exists_accounts_of_ask_ok hendpoint hask hfirst⟩

/-! ## The shell command -/

/-- What the outcome of a shell command leaves on files. -/
def writings (outcome : ShellOutcome) : List Effect :=
  outcome.written.map fun w => .write w.1 w.2

/-- The one outcome of a shell command. -/
theorem ends_iff {template : String} {outcome outcome' : ShellOutcome}
    (hexecute : given? definition.execute = some template)
    (hshell : around.shell around.files (Template.resolve final template) = .ok outcome) :
    Ends definition final around outcome' ↔ outcome' = outcome := by
  constructor
  · rintro ⟨template', hexecute', hshell'⟩
    obtain rfl : template = template' := Option.some.inj (hexecute.symm.trans hexecute')
    exact Except.ok.inj (hshell'.symm.trans hshell)
  · rintro rfl
    exact ⟨template, hexecute, hshell⟩

/-- A shell command that is run: what it wrote, then its report or what it printed. -/
theorem shellStage_of_outcome {template : String} {outcome : ShellOutcome}
    (hexecute : given? definition.execute = some template)
    (hshell : around.shell around.files (Template.resolve final template) = .ok outcome) :
    shellStage definition final around false =
      ⟨(.command (Template.resolve final template) :: writings outcome) ++
          (outcome.failure?.map (Effect.err ∘ reportLine)).toList ++
          ((if outcome.failure?.isNone then some (Text.trim outcome.stdout) else none).map
            Effect.out).toList ++ [],
        .ok outcome.failure?.isNone⟩ := by
  have hstage : shellStage definition final around false =
      ⟨.command (Template.resolve final template) :: (tell outcome).effects,
        (tell outcome).result⟩ := by
    rw [shellStage_of_execute hexecute, hshell]
    rfl
  rw [hstage, tell, List.append_nil]
  cases outcome.failure? with
  | some report =>
    rw [List.append_assoc]
    rfl
  | none =>
    rw [List.append_assoc]
    rfl

/-- **What the shell stage reports and shows.** -/
theorem exists_accounts_shellStage {ran : Bool}
    (hran : (shellStage definition final around false).result = .ok ran) :
    ∃ failed shown, Accounts
      (fun report => ∃ outcome, Ends definition final around outcome ∧ outcome.Fails report)
      (fun text => ∃ outcome, Ends definition final around outcome ∧
        (∀ report, ¬outcome.Fails report) ∧ text = Text.trim outcome.stdout)
      ran failed shown (shellStage definition final around false).effects := by
  cases hexecute : given? definition.execute with
  | none =>
    have hends : ∀ outcome, ¬Ends definition final around outcome := by
      rintro outcome ⟨template, hsome, -⟩
      rw [hexecute] at hsome
      cases hsome
    rw [shellStage, hexecute] at hran ⊢
    cases hran
    refine ⟨none, none, fun report => ?_, fun text => ?_, rfl, fun h => ?_, rfl, rfl,
      fun _ => List.not_mem_nil⟩
    · simp [hends]
    · simp [hends]
    · cases h
  | some template =>
    cases hshell : around.shell around.files (Template.resolve final template) with
    | error f =>
      rw [shellStage_of_execute hexecute, hshell] at hran
      cases hran
    | ok outcome =>
      have hmute : ∀ e ∈ .command (Template.resolve final template) :: writings outcome,
          e.IsMute := by
        rintro e (_ | ⟨_, he⟩)
        · trivial
        · obtain ⟨w, -, rfl⟩ := List.mem_map.1 he
          trivial
      obtain ⟨herrors, houts, hverbatim⟩ := lines_of_rows hmute (List.forall_mem_nil _)
        (congrArg Step.effects (shellStage_of_outcome hexecute hshell))
      simp only [ends_iff hexecute hshell, exists_eq_left, ShellOutcome.fails_iff]
      rw [shellStage_of_outcome hexecute hshell] at hran
      refine ⟨_, _, fun _ => Iff.rfl, fun text => ?_, (Except.ok.inj hran).symm, fun h => ?_,
        herrors, houts, hverbatim⟩
      · cases outcome.failure? with
        | some report => simp
        | none => simp [eq_comm]
      · cases hfailure : outcome.failure? with
        | some report => rfl
        | none =>
          rw [hfailure] at h
          cases h

/-! ## The whole invocation -/

variable {arguments : OrderedMap String String} {session : Session}

section Accounts
variable {fails shows : String → Prop} {went : Bool} {failed shown : Option String}
  {es : List Effect}

theorem Accounts.isSome_iff (h : Accounts fails shows went failed shown es) :
    (∃ report, fails report) ↔ failed.isSome := by
  simp only [← h.failed_iff, Option.isSome_iff_exists]

/-- A stage that failed shows nothing. -/
theorem Accounts.mute (h : Accounts fails shows went failed shown es)
    (hfails : ∃ report, fails report) (text : String) : ¬shows text := by
  intro hshows
  have hnone := h.exclusive (h.isSome_iff.1 hfails)
  rw [← h.shown_iff, hnone] at hshows
  cases hshows

end Accounts

theorem commandEnds_iff {sent : Bool} {outcome : ShellOutcome}
    (hfirst : (firstStage definition scope config around false).result = .ok (sent, final)) :
    CommandEnds definition scope config around outcome ↔
      Ends definition final (aroundShell definition scope config around false) outcome := by
  constructor
  · rintro ⟨sent', final', hfirst', hends⟩
    cases hfirst.symm.trans hfirst'
    exact hends
  · exact fun hends => ⟨sent, final, hfirst, hends⟩

/-- The status and the two channels of an invocation agree with what became of its stages. -/
structure IsReported (definition : CommandDefinition) (scope : Scope) (config : RunConfig)
    (around : Surroundings) (verbose : Bool) (status : Nat) (es : List Effect) : Prop where
  status_eq_one_iff : status = 1 ↔ (∃ report, RequestFails definition scope config around report) ∨
    ∃ report, CommandFails definition scope config around report
  status_eq_zero_iff : status = 0 ↔
    ¬((∃ report, RequestFails definition scope config around report) ∨
      ∃ report, CommandFails definition scope config around report)
  /-- One report for each stage that failed, in order; what is said on demand stands in front. -/
  stderr : ∃ (asked : Option Request) (executed failed ended : Option String),
    Effect.requests es = asked.toList ∧ Effect.commands es = executed.toList ∧
    (∀ report, failed = some report ↔ RequestFails definition scope config around report) ∧
    (∀ report, ended = some report ↔ CommandFails definition scope config around report) ∧
    (status = 0 ↔ failed = none ∧ ended = none) ∧
    Effect.stderr es = Effect.lines
      ((if verbose then (asked.map requestLine).toList ++
          (asked.bind (answerLine? around.exchange)).toList else []) ++
        (failed.map reportLine).toList ++
        (if verbose then (executed.map commandLine).toList else []) ++
        (ended.map reportLine).toList)
  /-- What each stage shows, as it would show it whatever became of the other one. -/
  stdout : ∃ shown printed : Option String,
    (∀ text, shown = some text ↔ RequestShows definition scope config around text) ∧
    (∀ text, printed = some text ↔ CommandShows definition scope config around text) ∧
    Effect.stdout es = Effect.lines (shown.toList ++ printed.toList)
  request_mute : (∃ report, RequestFails definition scope config around report) →
    ∀ text, ¬RequestShows definition scope config around text
  command_mute : (∃ report, CommandFails definition scope config around report) →
    ∀ text, ¬CommandShows definition scope config around text

/-- Two stages in a row, with what is said about them on demand. -/
theorem isReported_of_accounts {sent ran : Bool} {failed shown ended printed : Option String}
    {asked : Option Request} {executed : Option String} {first second es : List Effect}
    (hfirst : Accounts (RequestFails definition scope config around)
      (RequestShows definition scope config around) sent failed shown first)
    (hsecond : Accounts (CommandFails definition scope config around)
      (CommandShows definition scope config around) ran ended printed second)
    (hasked : Effect.BeginsWith (asked.map .request).toList first)
    (hexecuted : Effect.BeginsWith (executed.map .command).toList second)
    (hes : es = if verbose then Effect.annotated around.exchange (first ++ second)
      else first ++ second) :
    IsReported definition scope config around verbose (if sent && ran then 0 else 1) es := by
  obtain ⟨hrequests, hcommands⟩ := Effect.requests_commands_append hasked hexecuted
  -- what looks at no line on standard error sees the two stages as they are
  have hsame : ∀ {α : Type} {f : List Effect → α}, (∀ es, f (Effect.withoutErr es) = f es) →
      f es = f (first ++ second) := by
    intro α f hf
    rw [hes]
    cases verbose with
    | false => rfl
    | true => exact Effect.eq_of_withoutErr hf _ _
  constructor
  case status_eq_one_iff =>
    rw [hfirst.isSome_iff, hsecond.isSome_iff, hfirst.went_eq, hsecond.went_eq]
    cases failed <;> cases ended <;> simp
  case status_eq_zero_iff =>
    rw [hfirst.isSome_iff, hsecond.isSome_iff, hfirst.went_eq, hsecond.went_eq]
    cases failed <;> cases ended <;> simp
  case stderr =>
    refine ⟨asked, executed, failed, ended, ?_, ?_, hfirst.failed_iff, hsecond.failed_iff, ?_, ?_⟩
    · rw [hsame Effect.requests_withoutErr, hrequests]
    · rw [hsame Effect.commands_withoutErr, hcommands]
    · rw [hfirst.went_eq, hsecond.went_eq]
      cases failed <;> cases ended <;> simp
    · rw [Effect.stderr_eq, hes]
      cases verbose with
      | false =>
        rw [if_neg Bool.false_ne_true, Effect.errors_append, hfirst.errors_eq, hsecond.errors_eq]
        simp
      | true =>
        rw [if_pos rfl, Effect.errors_annotated_append hasked hexecuted, hfirst.errors_eq,
          hsecond.errors_eq]
        simp
  case stdout =>
    refine ⟨shown, printed, hfirst.shown_iff, hsecond.shown_iff, ?_⟩
    have hverbatim : ∀ text, .verbatim text ∉ first ++ second := by
      intro text hmem
      rcases List.mem_append.1 hmem with hmem | hmem
      · exact hfirst.verbatim_not_mem text hmem
      · exact hsecond.verbatim_not_mem text hmem
    rw [hsame Effect.stdout_withoutErr, Effect.stdout_eq hverbatim, Effect.outs_append,
      hfirst.outs_eq, hsecond.outs_eq]
  case request_mute => exact fun h => hfirst.mute h
  case command_mute => exact fun h => hsecond.mute h

/-- An invocation that has a status has the same one without being verbose, and what it does is what
it does then, with what is said about it on demand. -/
theorem exists_quiet_run {status : Nat} (hload : around.store.load around.files = .ok session)
    (h : (run definition arguments config around verbose).result = .ok status) :
    (run definition arguments config around false).result = .ok status ∧
      (run definition arguments config around verbose).effects =
        if verbose then Effect.annotated around.exchange
          (run definition arguments config around false).effects
        else (run definition arguments config around false).effects := by
  cases verbose with
  | false => exact ⟨h, rfl⟩
  | true =>
    have hcontained := (completes_run_iff hload).1 ⟨status, h⟩
    have hannotates : Step.Annotates around.exchange (run definition arguments config around false)
        (run definition arguments config around true) := by
      refine annotates_run fun session' hload' reply hreplied herror => ?_
      obtain rfl : session = session' := Except.ok.inj (hload.symm.trans hload')
      exact hcontained.timed reply hreplied herror rfl
    exact ⟨hannotates.result.symm.trans h, hannotates.effects⟩

/-- **Status and reports agree.** An invocation that has a status found a session. The status is one
if the request failed or the shell command did, and else zero. Standard error has one report for
each of the two that failed, the request before the shell command, and none else; lines on demand
apart there is nothing else on it. A stage that failed shows nothing, and what the other one shows
is what it would show otherwise. -/
theorem isReported_run {status : Nat}
    (h : (run definition arguments config around verbose).result = .ok status) :
    ∃ session, around.store.load around.files = .ok session ∧
      IsReported definition (scopeOf config session arguments) config around verbose status
        (run definition arguments config around verbose).effects := by
  cases hload : around.store.load around.files with
  | error reason =>
    rw [run_of_load_error hload] at h
    cases h
  | ok session =>
    refine ⟨session, rfl, ?_⟩
    obtain ⟨hstatus, heffects⟩ := exists_quiet_run hload h
    cases hfirst : (firstStage definition (scopeOf config session arguments) config around
        false).result with
    | error reason =>
      rw [run_of_firstStage_error hload hfirst] at hstatus
      cases hstatus
    | ok outcome =>
      obtain ⟨sent, final⟩ := outcome
      rw [run_of_firstStage hload hfirst] at hstatus heffects
      obtain ⟨ran, hran, rfl⟩ := exists_of_map_eq_ok hstatus
      obtain ⟨failed, shown, hsent⟩ := exists_accounts_firstStage hfirst
      obtain ⟨ended, printed, hended⟩ := exists_accounts_shellStage hran
      simp only [← commandEnds_iff hfirst] at hended
      obtain ⟨asked, hasked⟩ := exists_beginsWith_firstStage definition
        (scopeOf config session arguments) config around
      obtain ⟨executed, hexecuted⟩ := exists_beginsWith_shellStage definition final
        (aroundShell definition (scopeOf config session arguments) config around false)
      exact isReported_of_accounts hsent hended hasked hexecuted heffects

/-- What is around `probe`, with a shell in which every command prints a word. -/
def printingAround : Surroundings :=
  { probeAround with shell := fun _ _ => .ok { stdout := " done\n" } }

/-- The request fails and is reported, and what the shell command prints is shown. -/
theorem isReported_run_printing :
    (run probe .empty {} printingAround true).result = .ok 1 ∧
      IsReported probe (scopeOf {} .empty .empty) {} printingAround true 1
        (run probe .empty {} printingAround true).effects ∧
      Effect.stdout (run probe .empty {} printingAround true).effects = "done\n" ∧
      Effect.stderr (run probe .empty {} printingAround true).effects =
        "GET http://localhost\nSTATUS: 500 (250ms)\nERROR: no\nEXEC: exit 3\n" := by
  have hresult : (run probe .empty {} printingAround true).result = .ok 1 := by
    decide +kernel
  obtain ⟨session, hload, hreported⟩ := isReported_run hresult
  obtain rfl : session = .empty := (Except.ok.inj hload).symm
  exact ⟨hresult, hreported, by decide +kernel, by decide +kernel⟩

end Invocation

end CommandBook
