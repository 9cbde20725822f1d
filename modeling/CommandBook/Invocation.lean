import CommandBook.Command.Definition
import CommandBook.Effect
import CommandBook.Request
import CommandBook.Response.Reference
import CommandBook.Session
import CommandBook.Shell.Outcome
import CommandBook.Template.Placeholder
import CommandBook.Value.Encode

/-!
# Running a command

One invocation of a command, from its arguments to its exit status. It goes through up to four
stages: the request; then what is shown and what is captured, from the response or, without a
request, from the scope alone; then the shell command.

A failed request or shell command is reported and makes the status one, and the other stages go on.
Captured values are saved together with the whole scope, and only after everything that can stop a
request stage has gone well.

## Main definitions

* `RunConfig`, `Surroundings` — what a run depends on
* `Invocation.run` — effects and status of a run
-/

namespace CommandBook

/-- The parts of a document that all commands share. -/
structure RunConfig where
  /-- The variables of the document, which every later layer goes over. -/
  defaults : Scope := .empty
  headers : OrderedMap String String := .empty
  /-- The limit of requests, the standard one where the document sets none. -/
  timeout : Seconds := .standard

/-- What an invocation finds around it: files, the place of the session, what will come of its
request and of its shell command. -/
structure Surroundings where
  files : FileTree
  store : SessionStore
  exchange : Exchange
  shell : Shell

/-- A request that could not be made or did not succeed. -/
structure RequestError where
  message : String
  body : Option Json := none

namespace RequestError

/-- The report: the body of the answer where there is one that says something, collections one item
a line; else the message. -/
def report (e : RequestError) : String :=
  match e.body with
  | none | some .null | some (.str "") => e.message
  | some (.arr items) => (Json.arr items).renderIndented
  | some (.obj members) => (Json.obj members).renderIndented
  | some v => (Value.ofJson v).text

end RequestError

namespace Invocation

/-- The body of the request after substitution in its JSON text; nothing for a null body. -/
def payload (scope : Scope) (body : Value) : Except Stop (Except RequestError (Option Json)) :=
  if body.isNull then .ok (.ok none)
  else
    match body.toJson? with
    | .error f => .error (.fault f)
    | .ok json =>
      let text := Template.resolveChars scope json.renderChars
      match Json.readChars text with
      -- a body that has become null counts as none
      | .ok v => .ok (.ok (if v matches .null then none else some v))
      | .error .numeralTooLong => .error (.fault .numeralTooLong)
      | .error (.malformed cause offset) =>
        let problem := (Json.ReadError.locate cause text offset).message
        .ok (.error {
          message := s!"Request body is not valid JSON after substitution: {problem}" })

/-- The part of an endpoint before its first blank. -/
def methodOf (endpoint : List Char) : List Char := endpoint.takeWhile (· != ' ')

/-- The part of an endpoint behind its first blank, without blanks around it. -/
def urlOf (endpoint : List Char) : List Char :=
  Text.trimChars ((endpoint.dropWhile (· != ' ')).drop 1)

/-- The headers of the document with those of the command over them. -/
def headersOf (config : RunConfig) (definition : CommandDefinition) (scope : Scope) :
    List (String × String) :=
  ((config.headers.union definition.headers).mapValues (Template.resolve scope)).entries

/-- The request of a command, unless its body cannot be made. -/
def prepare (definition : CommandDefinition) (endpoint : String) (scope : Scope)
    (config : RunConfig) : Except Stop (Except RequestError Request) := do
  match ← payload scope definition.body with
  | .error e => return .error e
  | .ok body =>
    let line := Template.resolveChars scope endpoint.toList
    return .ok (Request.make (String.ofList (methodOf line)) (String.ofList (urlOf line))
      (some (headersOf config definition scope)) body config.timeout.orStandard)

/-- A line on standard error that is only written on demand. -/
def trace (verbose : Bool) (text : String) : Step Stop Unit :=
  if verbose then .emit (.err text) else .ok ()

/-- The line that tells status and time of an answer. -/
def statusLine (reply : Reply) : Except Stop String :=
  match (Decimal.parts reply.elapsedMs).magnitude, Decimal.truncate? reply.elapsedMs with
  | _, some ms => .ok s!"STATUS: {reply.status} ({ms}ms)"
  | .nan, none => .error (.fault .undefinedTime)
  | _, none => .error (.fault .infiniteTime)

/-- Sends a request and judges what comes of it. -/
def send (request : Request) (around : Surroundings) (verbose : Bool) :
    Step Stop (Except RequestError Reply) := do
  trace verbose s!"{request.method} {request.url}"
  .emit (.request request)
  let reply ← .ofExcept (Stop.ofFault (around.exchange.reply request.timeout))
  match reply.error with
  | some e => return .error { message := e }
  | none =>
    if verbose then
      let line ← .ofExcept (statusLine reply)
      .emit (.err line)
    if reply.ok then return .ok reply
    else
      return .error {
        message := s!"Request failed with status {reply.status}"
        body := some reply.body }

/-- The scope with captured values, each template seeing the values captured before it. -/
def captureAll (body : Json) : List (String × String) → Scope → Except Fault Scope
  | [], scope => .ok scope
  | (name, template) :: rest, scope => do
    let text ← Response.capture template body
    captureAll body rest (scope.insert name (.str (Template.resolve scope text)))

/-- Captures values and saves the scope with them. -/
def captureAndSave (definition : CommandDefinition) (body : Json) (scope : Scope)
    (around : Surroundings) : Step Stop Scope :=
  if definition.set.isEmpty then .ok scope
  else do
    let scope ← .ofExcept (Stop.ofFault (captureAll body definition.set.entries scope))
    around.store.saveScope around.files scope
    return scope

/-- Shows what a successful response is to show. -/
def showResponse (definition : CommandDefinition) (body : Json) (scope : Scope) :
    Step Stop Unit :=
  match given? definition.response with
  | none => .ok ()
  | some template => do
    let text ← .ofExcept (Stop.ofFault (Response.display template body))
    .emit (.out (Template.resolve scope text))

/-- The request stage: whether it went well, and the scope after it. -/
def requestStage (definition : CommandDefinition) (endpoint : String) (scope : Scope)
    (config : RunConfig) (around : Surroundings) (verbose : Bool) : Step Stop (Bool × Scope) := do
  let outcome ← match ← .ofExcept (prepare definition endpoint scope config) with
    | .error e => pure (.error e)
    | .ok request => send request around verbose
  match outcome with
  | .error e =>
    .emit (.err s!"ERROR: {e.report}")
    return (false, scope)
  | .ok reply =>
    showResponse definition reply.body scope
    let scope ← captureAndSave definition reply.body scope around
    return (true, scope)

/-- All that comes before the shell command. -/
def firstStage (definition : CommandDefinition) (scope : Scope) (config : RunConfig)
    (around : Surroundings) (verbose : Bool) : Step Stop (Bool × Scope) :=
  match given? definition.endpoint with
  | some endpoint => requestStage definition endpoint scope config around verbose
  | none => do
    if let some template := given? definition.response then
      .emit (.out (Template.resolve scope template))
    return (true, scope)

/-- The shell stage: whether it went well. -/
def shellStage (definition : CommandDefinition) (scope : Scope) (around : Surroundings)
    (verbose : Bool) : Step Stop Bool :=
  match given? definition.execute with
  | none => .ok true
  | some template => do
    let command := Template.resolve scope template
    trace verbose s!"EXEC: {command}"
    .emit (.command command)
    let outcome ← .ofExcept (Stop.ofFault (around.shell around.files command))
    .emitAll (outcome.written.map fun w => .write w.1 w.2)
    match outcome.failure? with
    | some report =>
      .emit (.err s!"ERROR: {report}")
      return false
    | none =>
      .emit (.out (Text.trim outcome.stdout))
      return true

/-- Runs a command: its effects, and its status unless it stops. -/
def run (definition : CommandDefinition) (arguments : OrderedMap String String)
    (config : RunConfig) (around : Surroundings) (verbose : Bool) : Step Stop Nat := do
  let session ← .ofExcept (around.store.load around.files)
  let scope := Scope.layered config.defaults session.toScope (arguments.mapValues .str)
  let first := firstStage definition scope config around verbose
  let (sent, scope) ← first
  -- the shell command sees what the first stage has written
  let files := Effect.applyAll around.files first.effects
  let ran ← shellStage definition scope { around with files } verbose
  return if sent && ran then 0 else 1

end Invocation

end CommandBook
