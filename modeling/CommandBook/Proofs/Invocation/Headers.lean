import CommandBook.CommandLine.Completion
import CommandBook.Proofs.Config.Sections
import CommandBook.Proofs.Invocation.Endpoint
import CommandBook.Proofs.Template.Placeholder

/-!
# Headers of a document and headers of a command

A mapping of headers may stand in a document, for all of its commands, or in a single command. The
two are read in different ways, and the requests differ in one point: what has no value is sent
without content from a document, and as a word from a command. For a mapping in which every header
has a value it makes no difference where it stands.

## Main definitions

* `Config.LoadedWith`, `CommandDefinition.ReadWith` — where the headers stand
* `headersFor` — the headers of a mapping in a scope

## Main statements

* `requests_run_withHeaders` — of a request no more than the headers depends on headers
* `run_congr_headers` — runs with the same headers
* `requests_run_of_headers` — one mapping in either place
-/

namespace CommandBook

/-- A document with this in its section of headers has been accepted. -/
def Config.LoadedWith (headers : Option Value) (config : Config) : Prop :=
  ∃ env files path directory fields, Config.load env files (some path) = .ok config ∧
    Config.documentAt files path = .ok (directory, fields) ∧
      fields.get? "headers" Config.sectionDepth = headers

/-- An entry with this in its field of headers and with other fields as given has been accepted. -/
def CommandDefinition.ReadWith (name : String) (others : String → Option Value)
    (headers : Option Value) (definition : CommandDefinition) : Prop :=
  ∃ fields, CommandDefinition.ofFields name fields = .ok definition ∧
    Value.field? "headers" fields = headers ∧
      ∀ key, key ≠ "headers" → Value.field? key fields = others key

theorem Config.LoadedWith.exists_named {entries : List (Leaf × Value)} {config : Config}
    (h : config.LoadedWith (some (.map entries))) : ∃ row, named entries = .ok row ∧
      config.run.headers = (OrderedMap.ofList row).mapValues fun v => (blanked v).text := by
  obtain ⟨env, files, path, directory, fields, hload, hdocument, hsection⟩ := h
  obtain ⟨directory, fields', environment, given, hfields, hholds⟩ := load_eq_ok_iff.1 hload
  rw [hdocument] at hfields
  obtain ⟨rfl, rfl⟩ := Prod.mk.inj (Except.ok.inj hfields)
  exact hholds.hasHeaders.exists_named hsection

theorem Config.LoadedWith.headers_eq_empty {config : Config} (h : config.LoadedWith none) :
    config.run.headers = .empty := by
  obtain ⟨env, files, path, directory, fields, hload, hdocument, hsection⟩ := h
  obtain ⟨directory, fields', environment, given, hfields, hholds⟩ := load_eq_ok_iff.1 hload
  rw [hdocument] at hfields
  obtain ⟨rfl, rfl⟩ := Prod.mk.inj (Except.ok.inj hfields)
  exact hholds.hasHeaders.eq_empty hsection

/-- Entries that differ in their headers only give definitions that differ in them only. -/
theorem CommandDefinition.ReadWith.congr {name : String} {others : String → Option Value}
    {headers headers' : Option Value} {definition definition' : CommandDefinition}
    (h : definition.ReadWith name others headers) (h' : definition'.ReadWith name others headers') :
    definition' = { definition with headers := definition'.headers } := by
  obtain ⟨fields, hread, -, hothers⟩ := h
  obtain ⟨fields', hread', -, hothers'⟩ := h'
  refine (ofFields_eq_ok_iff.1 hread).congr (ofFields_eq_ok_iff.1 hread') fun key hkey => ?_
  rw [hothers key hkey, hothers' key hkey]

/-- A request with other headers. -/
def Request.withHeaders (headers : List (String × String)) (r : Request) : Request :=
  { r with headers := some headers }

namespace Invocation

variable {definition definition' : CommandDefinition} {endpoint : String} {scope : Scope}
  {config config' : RunConfig} {around : Surroundings} {verbose : Bool}
  {arguments : OrderedMap String String} {session : Session}

/-! ## What depends on headers -/

theorem prepare_withHeaders (hbody : definition'.body = definition.body)
    (htimeout : config'.timeout = config.timeout) (endpoint : String) (scope : Scope) :
    prepare definition' endpoint scope config' =
      (prepare definition endpoint scope config).map
        (Except.map (Request.withHeaders (headersOf config' definition' scope))) := by
  rw [prepare, prepare, hbody, htimeout]
  cases payload scope definition.body with
  | error reason => rfl
  | ok body =>
    cases body with
    | error e => rfl
    | ok json => rfl

theorem requests_firstStage_withHeaders (hendpoint : definition'.endpoint = definition.endpoint)
    (hbody : definition'.body = definition.body) (htimeout : config'.timeout = config.timeout)
    (scope : Scope) (around : Surroundings) (verbose : Bool) :
    Effect.requests (firstStage definition' scope config' around verbose).effects =
      (Effect.requests (firstStage definition scope config around verbose).effects).map
        (Request.withHeaders (headersOf config' definition' scope)) := by
  have hprepare := prepare_withHeaders hbody htimeout
  cases hgiven : given? definition.endpoint with
  | none =>
    have hnone : ∀ {d : CommandDefinition} {c : RunConfig}, given? d.endpoint = none →
        Effect.requests (firstStage d scope c around verbose).effects = [] := by
      intro d c hd
      rw [firstStage, hd]
      cases given? d.response <;> rfl
    rw [hnone hgiven, hnone (hendpoint ▸ hgiven)]
    rfl
  | some endpoint =>
    have hgiven' : given? definition'.endpoint = some endpoint := hendpoint ▸ hgiven
    cases hrequest : prepare definition endpoint scope config with
    | error reason =>
      have hrequest' := hprepare endpoint scope
      rw [hrequest] at hrequest'
      rw [firstStage_of_prepare_stop hgiven hrequest, firstStage_of_prepare_stop hgiven' hrequest']
      rfl
    | ok prepared =>
      have hrequest' := hprepare endpoint scope
      rw [hrequest] at hrequest'
      cases prepared with
      | error e =>
        rw [firstStage_of_prepare_error hgiven hrequest,
          firstStage_of_prepare_error hgiven' hrequest']
        rfl
      | ok request =>
        rw [requests_of_prepare hgiven hrequest, requests_of_prepare hgiven' hrequest']
        rfl

/-- **Of what is sent no more than the headers depends on headers.** -/
theorem requests_run_withHeaders (hendpoint : definition'.endpoint = definition.endpoint)
    (hbody : definition'.body = definition.body) (hdefaults : config'.defaults = config.defaults)
    (htimeout : config'.timeout = config.timeout)
    (hload : around.store.load around.files = .ok session) :
    Effect.requests (run definition' arguments config' around verbose).effects =
      (Effect.requests (run definition arguments config around verbose).effects).map
        (Request.withHeaders
          (headersOf config' definition' (scopeOf config session arguments))) := by
  rw [requests_run arguments hload, requests_run arguments hload, scopeOf, hdefaults]
  exact requests_firstStage_withHeaders hendpoint hbody htimeout _ around verbose

/-- **Runs with the same headers** are the same, wherever the headers come from. -/
theorem run_congr_headers
    (hsame : definition' = { definition with headers := definition'.headers })
    (hdefaults : config'.defaults = config.defaults) (htimeout : config'.timeout = config.timeout)
    (hheaders : ∀ scope, headersOf config' definition' scope = headersOf config definition scope) :
    run definition' arguments config' around verbose =
      run definition arguments config around verbose := by
  have hprepare : ∀ endpoint scope,
      prepare definition' endpoint scope config' = prepare definition endpoint scope config := by
    intro endpoint scope
    rw [prepare, prepare, hheaders, htimeout, hsame]
  have hfirst : ∀ scope, firstStage definition' scope config' around verbose =
      firstStage definition scope config around verbose := by
    intro scope
    simp only [firstStage, requestStage, hprepare]
    rw [hsame]
    rfl
  simp only [run, hfirst, hdefaults]
  rw [hsame]
  rfl

/-! ## One mapping in either place -/

/-- The headers of a mapping in a scope, with a text for what has no value. -/
def headersFor (row : List (String × Value)) (blank : String) (scope : Scope) :
    List (String × String) :=
  (OrderedMap.ofList row).entries.map fun e =>
    (e.1, if e.2.isNull then blank else Template.resolve scope e.2.text)

theorem headersOf_shared {row : List (String × Value)}
    (hshared : config.headers = (OrderedMap.ofList row).mapValues fun v => (Config.blanked v).text)
    (hown : definition.headers = .empty) (scope : Scope) :
    headersOf config definition scope = headersFor row "" scope := by
  have hmerged : config.headers.union definition.headers = config.headers := by
    rw [hown]
    rfl
  rw [headersOf, hmerged, hshared, headersFor]
  simp only [OrderedMap.mapValues, List.map_map]
  refine List.map_congr_left fun e _ => congrArg (Prod.mk e.1) ?_
  by_cases hnull : e.2.isNull
  · simp [hnull, Config.blanked, Template.resolve_literal]
  · simp [hnull, Config.blanked]

theorem headersOf_own {row : List (String × Value)} (hshared : config.headers = .empty)
    (hown : definition.headers = (OrderedMap.ofList row).mapValues Value.text) (scope : Scope) :
    headersOf config definition scope = headersFor row "None" scope := by
  have hmerged : config.headers.union definition.headers = definition.headers := by
    rw [hshared]
    exact OrderedMap.ofList_entries definition.headers
  rw [headersOf, hmerged, hown, headersFor]
  simp only [OrderedMap.mapValues, List.map_map]
  refine List.map_congr_left fun e _ => congrArg (Prod.mk e.1) ?_
  by_cases hnull : e.2.isNull
  · have htext : e.2.text = "None" := by
      unfold Value.isNull at hnull
      split at hnull
      · next heq => rw [heq]; rfl
      · cases hnull
    simp [hnull, htext, Template.resolve_literal]
  · simp [hnull]

/-- Where a mapping gives a value to every header, nothing stands for missing ones. -/
theorem headersFor_congr {row : List (String × Value)}
    (h : ∀ e ∈ (OrderedMap.ofList row).entries, e.2.isNull = false) (blank blank' : String)
    (scope : Scope) : headersFor row blank scope = headersFor row blank' scope := by
  refine List.map_congr_left fun e he => ?_
  rw [h e he]
  rfl

/-- **One mapping of headers in either place.** Read from a document for a command that has none, or
from a command where the document has none, it gives requests that differ in the headers without a
value only: these are empty from the document, and the word for null from the command. If every
header has a value, then the two invocations are the same. -/
theorem requests_run_of_headers {entries : List (Leaf × Value)} {shared bare : Config}
    {name : String} {others : String → Option Value} {plain own : CommandDefinition}
    (hshared : shared.LoadedWith (some (.map entries))) (hplain : plain.ReadWith name others none)
    (hbare : bare.LoadedWith none) (hown : own.ReadWith name others (some (.map entries)))
    (hdefaults : bare.run.defaults = shared.run.defaults)
    (htimeout : bare.run.timeout = shared.run.timeout) :
    ∃ row, named entries = .ok row ∧
      (∀ arguments around verbose session, around.store.load around.files = .ok session →
        ∃ requests : List Request,
          Effect.requests (run plain arguments shared.run around verbose).effects =
            requests.map (.withHeaders
              (headersFor row "" (scopeOf shared.run session arguments))) ∧
          Effect.requests (run own arguments bare.run around verbose).effects =
            requests.map (.withHeaders
              (headersFor row "None" (scopeOf shared.run session arguments)))) ∧
      ((∀ e ∈ (OrderedMap.ofList row).entries, e.2.isNull = false) →
        ∀ arguments around verbose,
          run own arguments bare.run around verbose =
            run plain arguments shared.run around verbose) := by
  obtain ⟨row, hrow, hsharedHeaders⟩ := hshared.exists_named
  have hsame := hplain.congr hown
  obtain ⟨plainFields, hplainRead, hplainField, -⟩ := hplain
  obtain ⟨ownFields, hownRead, hownField, -⟩ := hown
  have hnone := (CommandDefinition.ofFields_eq_ok_iff.1 hplainRead).headers_of_absent hplainField
  obtain ⟨row', hrow', hownHeaders⟩ :=
    (CommandDefinition.ofFields_eq_ok_iff.1 hownRead).exists_named hownField
  obtain rfl : row = row' := Except.ok.inj (hrow.symm.trans hrow')
  have hfromDocument := headersOf_shared hsharedHeaders hnone
  have hfromCommand := headersOf_own hbare.headers_eq_empty hownHeaders
  refine ⟨row, hrow, ?_, ?_⟩
  · intro arguments around verbose session hsession
    refine ⟨Effect.requests (run plain arguments shared.run around verbose).effects, ?_, ?_⟩
    · rw [← hfromDocument]
      exact requests_run_withHeaders rfl rfl rfl rfl hsession
    · rw [← hfromCommand]
      exact requests_run_withHeaders (hsame ▸ rfl) (hsame ▸ rfl) hdefaults htimeout hsession
  · intro hvalues arguments around verbose
    refine run_congr_headers hsame hdefaults htimeout fun scope => ?_
    rw [hfromDocument, hfromCommand]
    exact headersFor_congr hvalues _ _ scope

/-! ## A header without a value -/

/-- Two documents with one command: headers for all commands in one of them, and the same for the
command alone in the other one. -/
def traceFiles : FileTree :=
  FileTree.write (FileTree.write ⟨.empty, [], ["home"]⟩ ["a.yaml"]
    ("headers:\n  X-Trace:\n  Accept: text/plain\n" ++
      "commands:\n  go:\n    endpoint: GET http://localhost\n")) ["b.yaml"]
    ("commands:\n  go:\n    endpoint: GET http://localhost\n" ++
      "    headers:\n      X-Trace:\n      Accept: text/plain\n")

/-- The headers of the first one. -/
def traceHeaders : List (Leaf × Value) :=
  [(.str "X-Trace", .leaf .null), (.str "Accept", .leaf (.str "text/plain"))]

/-- The fields of a command without headers. -/
def traceFields : List (Leaf × Value) := [(.str "endpoint", .leaf (.str "GET http://localhost"))]

/-- The name of a header without a value, and name and text of another one. -/
abbrev TraceNames := String × String × String

/-- A mapping with these two headers. -/
def traceMapping (names : TraceNames) : Value :=
  .map [(.str names.1, .leaf .null), (.str names.2.1, .leaf (.str names.2.2))]

/-- The names of two such headers if there are headers, and these two. -/
def traceNames? : Option Value → Option (Option TraceNames)
  | none => some none
  | some (.map [(.str blank, .leaf .null), (.str given, .leaf (.str text))]) =>
    some (some (blank, given, text))
  | _ => none

theorem eq_of_traceNames? {headers : Option Value} {names : Option TraceNames}
    (h : traceNames? headers = some names) : headers = names.map traceMapping := by
  unfold traceNames? at h
  split at h <;> cases h <;> rfl

/-- A document without variables and with the standard limit. -/
def isStandard (config : Config) : Bool :=
  config.run.defaults.entries.isEmpty && config.run.timeout matches .whole 30

theorem eq_of_isStandard {config : Config} (h : isStandard config) :
    config.run.defaults = .empty ∧ config.run.timeout = .whole 30 := by
  rw [isStandard, Bool.and_eq_true] at h
  refine ⟨OrderedMap.ext (List.isEmpty_iff.1 h.1), ?_⟩
  have htimeout := h.2
  split at htimeout
  · assumption
  · cases htimeout

/-- The headers of a document, if it is accepted and has no more than headers and commands. -/
def traceView (path : FilePath) : Option (Option TraceNames) := do
  let (directory, fields) ← (Config.documentAt traceFiles path).toOption
  let config ← (Config.ofFields path.toString directory .empty traceFiles fields).toOption
  if isStandard config then traceNames? (fields.get? "headers" Config.sectionDepth) else none

theorem exists_loadedWith_of_traceView {path : FilePath} {names : Option TraceNames}
    (h : traceView path = some names) : ∃ config : Config,
      config.LoadedWith (names.map traceMapping) ∧ config.run.defaults = .empty ∧
        config.run.timeout = .whole 30 := by
  obtain ⟨⟨directory, fields⟩, hfields, h⟩ := Option.bind_eq_some_iff.1 h
  obtain ⟨config, hconfig, h⟩ := Option.bind_eq_some_iff.1 h
  have hdocument := eq_ok_of_toOption hfields
  have hload : Config.load .empty traceFiles (some path) = .ok config := by
    rw [Config.load_some, hdocument]
    exact eq_ok_of_toOption hconfig
  split at h
  · next hstandard =>
    rw [← eq_of_traceNames? h]
    exact ⟨config, ⟨_, _, _, _, _, hload, hdocument, rfl⟩, eq_of_isStandard hstandard⟩
  · cases h

/-- Both documents can be read, and differ in their headers only. -/
theorem exists_loadedWith_trace : ∃ shared bare : Config,
    shared.LoadedWith (some (.map traceHeaders)) ∧ bare.LoadedWith none ∧
      bare.run.defaults = shared.run.defaults ∧ bare.run.timeout = shared.run.timeout := by
  have hview : traceView (.ofString "a.yaml") =
      some (some ("X-Trace", "Accept", "text/plain")) := by decide +kernel
  have hview' : traceView (.ofString "b.yaml") = some none := by decide +kernel
  obtain ⟨shared, hshared, hdefaults, htimeout⟩ := exists_loadedWith_of_traceView hview
  obtain ⟨bare, hbare, hdefaults', htimeout'⟩ := exists_loadedWith_of_traceView hview'
  exact ⟨shared, bare, hshared, hbare, hdefaults'.trans hdefaults.symm,
    htimeout'.trans htimeout.symm⟩

/-- A command with these headers and the same without. -/
theorem exists_readWith_trace : ∃ plain own : CommandDefinition,
    plain.ReadWith "go" (fun key => Value.field? key traceFields) none ∧
      own.ReadWith "go" (fun key => Value.field? key traceFields) (some (.map traceHeaders)) ∧
      given? plain.endpoint = some "GET http://localhost" ∧ plain.body = .null := by
  have hown : ∃ own, CommandDefinition.ofFields "go"
      (traceFields ++ [(.str "headers", .map traceHeaders)]) = .ok own := ⟨_, rfl⟩
  have hplain : ∃ plain, CommandDefinition.ofFields "go" traceFields = .ok plain ∧
      given? plain.endpoint = some "GET http://localhost" ∧ plain.body = .null :=
    ⟨_, rfl, by decide +kernel, rfl⟩
  obtain ⟨own, hown⟩ := hown
  obtain ⟨plain, hplain, hendpoint, hbody⟩ := hplain
  refine ⟨plain, own, ⟨_, hplain, rfl, fun _ _ => rfl⟩, ⟨_, hown, rfl, fun key hkey => ?_⟩,
    hendpoint, hbody⟩
  have hbeq : (Leaf.str key == Leaf.str "headers") = false := by
    show (key == "headers") = false
    exact beq_false_of_ne hkey
  simp [Value.field?, traceFields, List.lookup_cons, hbeq]

/-- The header without a value is empty in the first request, and has a word in the second one. -/
theorem requests_run_of_headers_trace :
    ∃ (shared bare : Config) (plain own : CommandDefinition),
    shared.LoadedWith (some (.map traceHeaders)) ∧ bare.LoadedWith none ∧
      plain.ReadWith "go" (fun key => Value.field? key traceFields) none ∧
      own.ReadWith "go" (fun key => Value.field? key traceFields) (some (.map traceHeaders)) ∧
      bare.run.defaults = shared.run.defaults ∧ bare.run.timeout = shared.run.timeout ∧
      ∃ request : Request,
        Effect.requests (run plain .empty shared.run silence true).effects =
          [request.withHeaders [("X-Trace", ""), ("Accept", "text/plain")]] ∧
        Effect.requests (run own .empty bare.run silence true).effects =
          [request.withHeaders [("X-Trace", "None"), ("Accept", "text/plain")]] := by
  obtain ⟨shared, bare, hshared, hbare, hdefaults, htimeout⟩ := exists_loadedWith_trace
  obtain ⟨plain, own, hplain, hown, hendpoint, hbody⟩ := exists_readWith_trace
  refine ⟨shared, bare, plain, own, hshared, hbare, hplain, hown, hdefaults, htimeout, ?_⟩
  obtain ⟨row, hrow, hrequests, -⟩ :=
    requests_run_of_headers hshared hplain hbare hown hdefaults htimeout
  obtain rfl : row = [("X-Trace", .leaf .null), ("Accept", .leaf (.str "text/plain"))] :=
    Except.ok.inj (hrow.symm.trans rfl)
  have hheaders : ∀ blank scope, headersFor [("X-Trace", .leaf .null),
      ("Accept", .leaf (.str "text/plain"))] blank scope =
        [("X-Trace", blank), ("Accept", "text/plain")] := by
    intro blank scope
    have hplain : '$' ∉ "text/plain".toList := by decide
    have htext := Template.resolve_literal scope hplain
    exact congrArg (fun text => [("X-Trace", blank), ("Accept", text)]) htext
  obtain ⟨requests, hshown, hsent⟩ := hrequests .empty silence true .empty rfl
  rw [hheaders] at hshown hsent
  -- the command without headers sends one request
  have hprepare : ∃ request, prepare plain "GET http://localhost"
      (scopeOf shared.run .empty .empty) shared.run = .ok (.ok request) := by
    rw [prepare, hbody]
    exact ⟨_, rfl⟩
  obtain ⟨request, hprepare⟩ := hprepare
  rw [requests_run .empty rfl, requests_of_prepare hendpoint hprepare] at hshown
  obtain ⟨request', rfl, hrequest⟩ := List.map_eq_singleton_iff.1 hshown.symm
  refine ⟨request', ?_, hsent⟩
  rw [requests_run .empty rfl, requests_of_prepare hendpoint hprepare, hrequest]

/-- What finds both documents. -/
def traceHost : Host where
  env := .empty
  files := traceFiles
  exchange := .timedOut
  shell := fun _ _ => .error .nulInCommand

/-- The two documents do not send the same headers. -/
theorem requests_run_ne_of_headers :
    (Effect.requests (CommandLine.run traceHost ["-c", "a.yaml", "go"]).effects).map
        Request.headers = [some [("X-Trace", ""), ("Accept", "text/plain")]] ∧
      (Effect.requests (CommandLine.run traceHost ["-c", "b.yaml", "go"]).effects).map
        Request.headers = [some [("X-Trace", "None"), ("Accept", "text/plain")]] :=
  ⟨by decide +kernel, by decide +kernel⟩

end Invocation

end CommandBook
