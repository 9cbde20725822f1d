import CommandBook.Proofs.Invocation.Containment
import CommandBook.Proofs.Lockstep

/-!
# Variables that a command does not mention

What leaves an invocation is made of four kinds of text: the endpoint, the JSON text of the body, the
headers, and the shell command. `mentioned` are the names of their placeholders. Two invocations of
one command that captures nothing, whose scopes agree on these names, send the same request, run the
same shell command and report the same, whatever else the scopes hold. They are compared part by
part; only the lines that are shown may differ.

## Main statements

* `Template.resolveChars_congr` — a text in two scopes
* `prepare_of_agree` — the request
* `run_eq_of_agree` — the whole invocation
-/

namespace CommandBook

namespace Template

variable {scope scope' : Scope} {cs : List Char}

/-- **A text in two scopes** that agree on its placeholders. -/
theorem resolveChars_congr
    (h : ∀ name ∈ references placeholder cs, scope'.get? name = scope.get? name) :
    resolveChars scope' cs = resolveChars scope cs := by
  refine List.flatMap_congr fun piece hpiece => ?_
  cases piece with
  | char c => rfl
  | ref name =>
    have hmem : name ∈ references placeholder cs := List.mem_filterMap.2 ⟨_, hpiece, rfl⟩
    show substitute scope' name = substitute scope name
    unfold substitute
    rw [h name hmem]

end Template

/-- What a shell command answers, apart from the files that it wrote. -/
def ShellOutcome.answer (outcome : ShellOutcome) : ShellOutcome := { outcome with written := [] }

namespace Invocation

open Template

variable {definition : CommandDefinition} {endpoint : String} {scope scope' : Scope}
  {config config' : RunConfig} {around around' : Surroundings} {verbose : Bool}

/-- The texts of a command of which something is made that leaves the invocation. -/
def outgoingTexts (definition : CommandDefinition) (config : RunConfig) : List (List Char) :=
  ((given? definition.endpoint).map String.toList).toList ++
    (definition.body.toJson?.toOption.map Json.renderChars).toList ++
    (config.headers.union definition.headers).entries.map (·.2.toList) ++
    ((given? definition.execute).map String.toList).toList

/-- The names of the placeholders in these texts. -/
def mentioned (definition : CommandDefinition) (config : RunConfig) : List String :=
  (outgoingTexts definition config).flatMap (references placeholder)

section Agree
variable (hagree : ∀ name ∈ mentioned definition config, scope'.get? name = scope.get? name)
include hagree

theorem resolveChars_of_agree {cs : List Char} (h : cs ∈ outgoingTexts definition config) :
    resolveChars scope' cs = resolveChars scope cs :=
  resolveChars_congr fun name hname => hagree name (List.mem_flatMap.2 ⟨cs, h, hname⟩)

theorem payload_of_agree : payload scope' definition.body = payload scope definition.body := by
  unfold payload
  cases hjson : definition.body.toJson? with
  | error f => rfl
  | ok json =>
    have hmem : json.renderChars ∈ outgoingTexts definition config := by
      simp [outgoingTexts, hjson, Except.toOption]
    simp only [resolveChars_of_agree hagree hmem]

theorem headersOf_of_agree :
    headersOf config definition scope' = headersOf config definition scope := by
  unfold headersOf OrderedMap.mapValues
  refine List.map_congr_left fun header hheader => ?_
  have hmem : header.2.toList ∈ outgoingTexts definition config := by
    simp only [outgoingTexts, List.mem_append]
    exact Or.inl (Or.inr (List.mem_map_of_mem hheader))
  exact congrArg (header.1, String.ofList ·) (resolveChars_of_agree hagree hmem)

/-- **The request** is the same, or what stops it. -/
theorem prepare_of_agree (hendpoint : given? definition.endpoint = some endpoint)
    (hheaders : config'.headers = config.headers) (htimeout : config'.timeout = config.timeout) :
    prepare definition endpoint scope' config' = prepare definition endpoint scope config := by
  have hmem : endpoint.toList ∈ outgoingTexts definition config := by
    simp [outgoingTexts, hendpoint]
  have hheadersOf : headersOf config' definition scope' = headersOf config definition scope := by
    rw [← headersOf_of_agree hagree, headersOf, headersOf, hheaders]
  unfold prepare
  rw [payload_of_agree hagree, hheadersOf, htimeout, resolveChars_of_agree hagree hmem]

theorem resolve_execute_of_agree {template : String}
    (h : given? definition.execute = some template) :
    resolve scope' template = resolve scope template := by
  have hmem : template.toList ∈ outgoingTexts definition config := by
    simp [outgoingTexts, h]
  exact congrArg String.ofList (resolveChars_of_agree hagree hmem)

end Agree

/-! ## The stages side by side -/

theorem send_congr (request : Request) (h : around'.exchange = around.exchange) :
    send request around' verbose = send request around verbose := by
  rw [send_eq, send_eq, h]

/-- Showing a response stops in both scopes or in none. -/
theorem alike_showResponse (definition : CommandDefinition) (body : Json) (scope scope' : Scope) :
    Step.Alike Effect.isOutgoing Eq (showResponse definition body scope)
      (showResponse definition body scope') := by
  unfold showResponse
  cases given? definition.response with
  | none => exact Step.alike_ok rfl
  | some template =>
    exact Step.alike_self_bind _ fun text => Step.alike_emit rfl rfl

/-- The values of the first stage in two scopes that it does not extend. -/
def SameOutcome (scope scope' : Scope) (r r' : Bool × Scope) : Prop :=
  r = (r.1, scope) ∧ r' = (r.1, scope')

theorem alike_conclude (hset : definition.set.isEmpty)
    (scope scope' : Scope) (around around' : Surroundings) (outcome : Except RequestError Reply) :
    Step.Alike Effect.isOutgoing (SameOutcome scope scope')
      (conclude definition scope around outcome) (conclude definition scope' around' outcome) := by
  cases outcome with
  | error e =>
    unfold conclude
    exact Step.alike_self_bind _ fun _ => Step.alike_ok ⟨rfl, rfl⟩
  | ok reply =>
    have hcapture : ∀ (s : Scope) (a : Surroundings),
        captureAndSave definition reply.body s a = .ok s := by
      intro s a
      rw [captureAndSave_eq, if_pos hset]
    show Step.Alike _ _ ((showResponse _ _ _).bind _) ((showResponse _ _ _).bind _)
    refine (alike_showResponse definition reply.body scope scope').bind fun _ _ _ => ?_
    rw [hcapture, hcapture]
    exact Step.alike_ok ⟨rfl, rfl⟩

/-- **The first stage in two scopes.** -/
theorem alike_firstStage (verbose : Bool) (hset : definition.set.isEmpty)
    (hagree : ∀ name ∈ mentioned definition config, scope'.get? name = scope.get? name)
    (hheaders : config'.headers = config.headers) (htimeout : config'.timeout = config.timeout)
    (hexchange : around'.exchange = around.exchange) :
    Step.Alike Effect.isOutgoing (SameOutcome scope scope')
      (firstStage definition scope config around verbose)
      (firstStage definition scope' config' around' verbose) := by
  cases hendpoint : given? definition.endpoint with
  | some endpoint =>
    have hask : ask definition endpoint scope' config' around' verbose =
        ask definition endpoint scope config around verbose := by
      unfold ask
      rw [prepare_of_agree hagree hendpoint hheaders htimeout]
      refine congrArg (Step.bind _) (funext fun prepared => ?_)
      cases prepared with
      | error e => rfl
      | ok request => exact send_congr request hexchange
    rw [firstStage_of_endpoint hendpoint, firstStage_of_endpoint hendpoint, hask]
    exact Step.alike_self_bind _ (alike_conclude hset scope scope' around around')
  | none =>
    unfold firstStage
    rw [hendpoint]
    cases given? definition.response with
    | none => exact Step.alike_ok ⟨rfl, rfl⟩
    | some template =>
      have hshown : Step.Alike Effect.isOutgoing Eq
          (Step.emit (.out (resolve scope template)) : Step Stop Unit)
          (Step.emit (.out (resolve scope' template))) := Step.alike_emit rfl rfl
      exact hshown.bind fun _ _ _ => Step.alike_ok ⟨rfl, rfl⟩

/-! ## The shell command and the whole -/

/-- **What is told of a shell command**: files that it wrote apart, it is what it answers. -/
theorem alike_tell {outcome outcome' : ShellOutcome} (h : outcome'.answer = outcome.answer) :
    Step.Alike Effect.isOutgoing Eq (tell outcome) (tell outcome') := by
  have hfailure : outcome'.failure? = outcome.failure? := by
    show outcome'.answer.failure? = outcome.answer.failure?
    rw [h]
  have hwritten : ∀ e ∈ outcome.written.map (fun w => Effect.write w.1 w.2) ++
      outcome'.written.map (fun w => Effect.write w.1 w.2), e.isOutgoing = false := by
    intro e he
    rw [← List.map_append, List.mem_map] at he
    obtain ⟨w, -, rfl⟩ := he
    rfl
  unfold tell
  refine (Step.alike_emitAll hwritten).bind fun _ _ _ => ?_
  rw [hfailure]
  cases outcome.failure? with
  | some report => exact Step.alike_self_bind _ fun _ => Step.alike_ok rfl
  | none => exact (Step.alike_emit rfl rfl).bind fun _ _ _ => Step.alike_ok rfl

theorem alike_shellStage (verbose : Bool)
    (hcommand : ∀ template, given? definition.execute = some template →
      resolve scope' template = resolve scope template)
    (hshell : ∀ template, given? definition.execute = some template →
      (around'.shell around'.files (resolve scope' template)).map ShellOutcome.answer =
        (around.shell around.files (resolve scope template)).map ShellOutcome.answer) :
    Step.Alike Effect.isOutgoing Eq (shellStage definition scope around verbose)
      (shellStage definition scope' around' verbose) := by
  cases hexecute : given? definition.execute with
  | none =>
    unfold shellStage
    rw [hexecute]
    exact Step.alike_ok rfl
  | some template =>
    rw [shellStage_of_execute hexecute, shellStage_of_execute hexecute,
      hcommand template hexecute]
    refine Step.alike_self_bind _ fun _ => Step.alike_self_bind _ fun _ => ?_
    have hanswer := hshell template hexecute
    rw [hcommand template hexecute] at hanswer
    cases houtcome : around.shell around.files (resolve scope template) with
    | error f =>
      cases houtcome' : around'.shell around'.files (resolve scope template) with
      | error f' =>
        rw [houtcome, houtcome'] at hanswer
        cases hanswer
        exact Step.alike_self_bind _ fun outcome => alike_tell rfl
      | ok outcome' =>
        rw [houtcome, houtcome'] at hanswer
        cases hanswer
    | ok outcome =>
      cases houtcome' : around'.shell around'.files (resolve scope template) with
      | error f' =>
        rw [houtcome, houtcome'] at hanswer
        cases hanswer
      | ok outcome' =>
        rw [houtcome, houtcome'] at hanswer
        exact alike_tell (Except.ok.inj hanswer)

/-- Without captured values the first stage leaves the files as they are. -/
theorem applyAll_firstStage (hset : definition.set.isEmpty) (scope : Scope) (config : RunConfig)
    (around : Surroundings) (verbose : Bool) :
    Effect.applyAll around.files (firstStage definition scope config around verbose).effects =
      around.files := by
  refine Effect.applyAll_of_quiet (isQuiet_firstStage ?_)
  rintro ⟨reply, final, hreaches⟩
  rw [hreaches.captures] at hset
  cases hset

variable {session session' : Session} {arguments arguments' : OrderedMap String String}

/-- **Variables that a command does not mention make no difference to what leaves it.** A command
that captures nothing runs twice: over other sessions, with other arguments, among other files. If
the two scopes agree on all that is mentioned, and the request and the shell command are answered
alike, then the same request is sent, the same shell command is run, the same is reported on standard
error, and the invocations end alike. -/
theorem run_eq_of_agree (hset : definition.set.isEmpty)
    (hheaders : config'.headers = config.headers) (htimeout : config'.timeout = config.timeout)
    (hexchange : around'.exchange = around.exchange)
    (hload : around.store.load around.files = .ok session)
    (hload' : around'.store.load around'.files = .ok session')
    (hagree : ∀ name ∈ mentioned definition config,
      (scopeOf config' session' arguments').get? name =
        (scopeOf config session arguments).get? name)
    (hshell : ∀ template, given? definition.execute = some template →
      (around'.shell around'.files
          (resolve (scopeOf config' session' arguments') template)).map ShellOutcome.answer =
        (around.shell around.files
          (resolve (scopeOf config session arguments) template)).map ShellOutcome.answer) :
    Effect.requests (run definition arguments' config' around' verbose).effects =
        Effect.requests (run definition arguments config around verbose).effects ∧
      Effect.commands (run definition arguments' config' around' verbose).effects =
        Effect.commands (run definition arguments config around verbose).effects ∧
      Effect.stderr (run definition arguments' config' around' verbose).effects =
        Effect.stderr (run definition arguments config around verbose).effects ∧
      (run definition arguments' config' around' verbose).result =
        (run definition arguments config around verbose).result := by
  have halike : Step.Alike Effect.isOutgoing Eq (run definition arguments config around verbose)
      (run definition arguments' config' around' verbose) := by
    rw [run_of_load definition arguments config verbose hload,
      run_of_load definition arguments' config' verbose hload']
    have hfirst := alike_firstStage verbose hset hagree hheaders htimeout hexchange
    refine hfirst.bind fun r r' hsame => ?_
    obtain ⟨hr, hr'⟩ := hsame
    rw [hr, hr']
    simp only [applyAll_firstStage hset]
    have hshellStage := alike_shellStage verbose
      (fun template hexecute => resolve_execute_of_agree hagree hexecute) hshell
    refine hshellStage.bind fun ran ran' hran => ?_
    rw [hran]
    exact Step.alike_ok rfl
  exact ⟨Effect.requests_of_outgoing halike.effects, Effect.commands_of_outgoing halike.effects,
    Effect.stderr_of_outgoing halike.effects, halike.result.eq⟩

/-- A command that sends and runs what it does with a token, and shows a password. -/
def items : CommandDefinition where
  name := "items"
  endpoint := some "GET http://localhost/items"
  response := some "for $password"
  execute := some "printf $token"
  headers := .ofList [("Authorization", "Bearer $token")]

/-- A session with a token and a password. -/
def remembering (password : String) : Session :=
  .ofList [("token", "abc"), ("password", password)]

/-- What is around `items`: this session in its file, an answer, and a shell that prints. -/
def holding (password : String) : Surroundings where
  files := FileTree.write ⟨.empty, [], []⟩ ["session.json"] (remembering password).fileText
  store := ⟨.absolute ["session.json"]⟩
  exchange := .answered ⟨200, [], "", 0, 0⟩
  shell := fun _ _ => .ok { stdout := "abc" }

theorem mentioned_items : mentioned items {} = ["token", "token"] := by decide +kernel

/-- Two saved passwords: what is shown differs, but what leaves does not. -/
theorem run_eq_of_agree_items :
    let effects (password : String) := (run items .empty {} (holding password) true).effects
    Effect.stdout (effects "one") = "for one\nabc\n" ∧
      Effect.stdout (effects "two") = "for two\nabc\n" ∧
      Effect.requests (effects "two") = Effect.requests (effects "one") ∧
      Effect.commands (effects "two") = Effect.commands (effects "one") ∧
      Effect.stderr (effects "two") = Effect.stderr (effects "one") := by
  have hagree : ∀ name ∈ mentioned items {},
      (scopeOf {} (remembering "two") .empty).get? name =
        (scopeOf {} (remembering "one") .empty).get? name := by
    rw [mentioned_items]
    intro name hname
    obtain rfl : name = "token" := by simpa using hname
    rfl
  obtain ⟨hrequests, hcommands, hstderr, -⟩ :=
    @run_eq_of_agree items {} {} (holding "one") (holding "two") true (remembering "one")
      (remembering "two") .empty .empty rfl rfl rfl rfl (SessionStore.load_of_find? rfl)
      (SessionStore.load_of_find? rfl) hagree fun template _ => rfl
  exact ⟨by decide +kernel, by decide +kernel, hrequests, hcommands, hstderr⟩

end Invocation

end CommandBook
