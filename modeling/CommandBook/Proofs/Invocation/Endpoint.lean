import CommandBook.Proofs.Command.Definition
import CommandBook.Proofs.Invocation.Shape

/-!
# The request that an endpoint makes

An endpoint is a method and an address with a space between them. It is checked before anything is
substituted in it, but split only afterwards. If no placeholder stands in its method, then the first
space after substitution is still the one behind the method, whatever the variables hold: so the
request has this method, and only its address, its headers and its body depend on the scope.

## Main statements

* `exists_isSplit_of_ofValue` — the endpoint of an accepted definition
* `methodOf_resolve`, `urlOf_resolve` — the parts of an endpoint after substitution
* `prepare_of_isSplit` — the request that is prepared
* `requests_of_isSplit` — the request that an invocation sends
-/

namespace CommandBook

/-- A method and an address, and the endpoint with a space between them. There is no space in the
method, so it ends at the first one. -/
structure IsSplit (endpoint method url : String) : Prop where
  eq : endpoint = method ++ " " ++ url
  space_not_mem : ' ' ∉ method.toList
  method_ne : method ≠ ""
  url_ne : url ≠ ""

/-- A trimmed text with a space has something in front of the first one, and something behind. -/
theorem exists_isSplit_trim {text : String} (h : ' ' ∈ (Text.trim text).toList) :
    ∃ method url, IsSplit (Text.trim text) method url := by
  have hspace : Text.isBlank ' ' = true := by decide
  have hends : ∀ {c : Char}, Text.isBlank c = false → c ≠ ' ' := by
    rintro c hc rfl
    rw [hspace] at hc
    cases hc
  rw [Text.trim, String.toList_ofList] at h
  obtain ⟨front, back, hsplit, hfront⟩ := List.eq_append_cons_of_mem h
  refine ⟨String.ofList front, String.ofList back, ?_, ?_, ?_, ?_⟩
  · rw [Text.trim, hsplit]
    simp [← String.toList_inj]
  · simpa using hfront
  · rintro hempty
    obtain rfl : front = [] := by simpa using hempty
    have hhead : (Text.trimChars text.toList).head? = some ' ' := by rw [hsplit]; rfl
    exact hends (Text.not_isBlank_head?_trimChars hhead) rfl
  · rintro hempty
    obtain rfl : back = [] := by simpa using hempty
    have hlast : (Text.trimChars text.toList).getLast? = some ' ' := by rw [hsplit]; simp
    exact hends (Text.not_isBlank_getLast?_trimChars hlast) rfl

namespace CommandDefinition

variable {definition : CommandDefinition} {name endpoint : String}

theorem checkEndpoint_eq_ok_iff {text : String} : checkEndpoint name text = .ok endpoint ↔
    endpoint = Text.trim text ∧ ' ' ∈ endpoint.toList := by
  unfold checkEndpoint
  simp only [List.contains_iff_mem]
  split
  · next h =>
    constructor
    · rintro ⟨⟩
      exact ⟨rfl, h⟩
    · rintro ⟨rfl, -⟩
      rfl
  · next h =>
    constructor
    · intro heq
      cases heq
    · rintro ⟨rfl, hmem⟩
      exact absurd hmem h

/-- The endpoint of a definition has passed the check. -/
theorem checkEndpoint_of_ofFields {fields : List (Leaf × Value)}
    (h : ofFields name fields = .ok definition) (hendpoint : definition.endpoint = some endpoint) :
    ∃ text, checkEndpoint name text = .ok endpoint := by
  obtain ⟨given, -, hchecked⟩ := (ofFields_eq_ok_iff.1 h).endpoint
  rw [hendpoint] at hchecked
  cases given with
  | none => cases hchecked
  | some text =>
    refine ⟨text, ?_⟩
    cases hcheck : checkEndpoint name text with
    | error e =>
      rw [Option.mapM_some, hcheck] at hchecked
      cases hchecked
    | ok trimmed =>
      rw [Option.mapM_some, hcheck] at hchecked
      cases hchecked
      rfl

/-- **The endpoint of an accepted definition** has a method and an address. -/
theorem exists_isSplit_of_ofValue {value : Value} (h : ofValue name value = .ok definition)
    (hendpoint : definition.endpoint = some endpoint) :
    ∃ method url, IsSplit endpoint method url := by
  have hfields : ∃ fields, ofFields name fields = .ok definition := by
    unfold ofValue at h
    split at h
    · exact ⟨_, h⟩
    · exact ⟨_, h⟩
    · cases h
  obtain ⟨fields, hfields⟩ := hfields
  obtain ⟨text, hcheck⟩ := checkEndpoint_of_ofFields hfields hendpoint
  obtain ⟨rfl, hspace⟩ := checkEndpoint_eq_ok_iff.1 hcheck
  exact exists_isSplit_trim hspace

end CommandDefinition

namespace Invocation

variable {definition : CommandDefinition} {endpoint method url : String} {scope : Scope}
  {config : RunConfig} {around : Surroundings} {verbose : Bool} {request : Request}

/-! ## The parts of an endpoint -/

/-- The part before the first space, and the trimmed part behind it. -/
theorem methodOf_urlOf_append {front : List Char} (h : ' ' ∉ front) (back : List Char) :
    methodOf (front ++ ' ' :: back) = front ∧
      urlOf (front ++ ' ' :: back) = Text.trimChars back := by
  have hall : ∀ c ∈ front, (c != ' ') = true := by
    intro c hc
    have hne : c ≠ ' ' := fun heq => h (heq ▸ hc)
    simpa using hne
  rw [methodOf, urlOf, List.takeWhile_append_of_pos hall, List.dropWhile_append_of_pos hall]
  simp

/-- A method without placeholders stays in front of the space. -/
theorem resolveChars_of_isSplit (h : IsSplit endpoint method url) (hmethod : '$' ∉ method.toList)
    (scope : Scope) : Template.resolveChars scope endpoint.toList =
      method.toList ++ ' ' :: Template.resolveChars scope url.toList := by
  have hfront : '$' ∉ method.toList ++ [' '] := by simp [hmethod]
  have hendpoint : endpoint.toList = (method.toList ++ [' ']) ++ url.toList := by
    rw [h.eq]
    simp
  rw [hendpoint, Template.resolveChars_append scope _ hfront]
  simp

/-- **The method after substitution** is the method before it, whatever the scope holds. -/
theorem methodOf_resolve (h : IsSplit endpoint method url) (hmethod : '$' ∉ method.toList)
    (scope : Scope) : String.ofList (methodOf (Template.resolveChars scope endpoint.toList)) =
      method := by
  rw [resolveChars_of_isSplit h hmethod, (methodOf_urlOf_append h.space_not_mem _).1,
    String.ofList_toList]

/-- **The address after substitution** is the address resolved on its own. -/
theorem urlOf_resolve (h : IsSplit endpoint method url) (hmethod : '$' ∉ method.toList)
    (scope : Scope) : String.ofList (urlOf (Template.resolveChars scope endpoint.toList)) =
      Text.trim (Template.resolve scope url) := by
  rw [resolveChars_of_isSplit h hmethod, (methodOf_urlOf_append h.space_not_mem _).2, Text.trim,
    Template.resolve, String.toList_ofList]

/-! ## The request -/

/-- The headers that all commands share with those of one command over them: a shared one keeps its
place and takes the value that the command has for it, the others of the command come behind. -/
def overriddenHeaders (shared own : OrderedMap String String) : List (String × String) :=
  shared.entries.map (fun h => (h.1, (own.get? h.1).getD h.2)) ++
    own.entries.filter fun h => (shared.get? h.1).isNone

theorem headersOf_eq (config : RunConfig) (definition : CommandDefinition) (scope : Scope) :
    headersOf config definition scope =
      (overriddenHeaders config.headers definition.headers).map fun h =>
        (h.1, Template.resolve scope h.2) := by
  have hmerged : (config.headers.union definition.headers).entries =
      overriddenHeaders config.headers definition.headers := OrderedMap.entries_union _ _
  exact congrArg (List.map fun h => (h.1, Template.resolve scope h.2)) hmerged

/-- The request that a method and an address make in a scope, with a body that was made before. -/
structure IsFormed (definition : CommandDefinition) (config : RunConfig) (scope : Scope)
    (method url : String) (body : Option Json) (request : Request) : Prop where
  method_eq : request.method = Text.upper method
  url_eq : request.url = Text.trim (Template.resolve scope url)
  headers_eq : request.headers =
    some ((overriddenHeaders config.headers definition.headers).map fun h =>
      (h.1, Template.resolve scope h.2))
  payload_eq : request.payload = body
  timeout_eq : config.timeout.isZero = false → request.timeout = config.timeout
  timeout_of_isZero : config.timeout.isZero → request.timeout = .standard
  /-- The document sets no limit. -/
  timeout_of_unset : config = { defaults := config.defaults, headers := config.headers } →
    request.timeout = .standard

/-- **The request that is prepared.** -/
theorem prepare_of_isSplit {body : Option Json} (h : IsSplit endpoint method url)
    (hmethod : '$' ∉ method.toList) (hbody : payload scope definition.body = .ok (.ok body))
    (config : RunConfig) : ∃ request,
      prepare definition endpoint scope config = .ok (.ok request) ∧
        IsFormed definition config scope method url body request := by
  have hprepare : prepare definition endpoint scope config = .ok (.ok (.make
      (String.ofList (methodOf (Template.resolveChars scope endpoint.toList)))
      (String.ofList (urlOf (Template.resolveChars scope endpoint.toList)))
      (some (headersOf config definition scope)) body config.timeout.orStandard)) := by
    rw [prepare, hbody]
    rfl
  rw [methodOf_resolve h hmethod, urlOf_resolve h hmethod, headersOf_eq] at hprepare
  refine ⟨_, hprepare, rfl, rfl, rfl, rfl, ?_, ?_, ?_⟩
  · intro hnonzero
    exact if_neg (by simp [hnonzero])
  · intro hzero
    exact if_pos hzero
  · intro hunset
    rw [hunset]
    rfl

/-! ## The invocation -/

/-- All requests of an invocation come from its first stage. -/
theorem requests_run {session : Session} (arguments : OrderedMap String String)
    (hload : around.store.load around.files = .ok session) :
    Effect.requests (run definition arguments config around verbose).effects =
      Effect.requests (firstStage definition (scopeOf config session arguments) config around
        verbose).effects := by
  rw [run_of_load definition arguments config verbose hload]
  refine requests_bind fun ⟨sent, final⟩ => ?_
  refine Step.Emits.bind ?_ fun _ _ => Step.emits_ok _
  exact emits_shellStage (fun _ => nofun) (fun _ => nofun) (fun _ => nofun) (fun _ => nofun)
    fun _ _ => nofun

/-- **The request of a command with a literal method.** The endpoint of an accepted definition is a
method, a space and an address, none of them empty. If no placeholder stands in the method, then
with every scope in which the body can be made exactly one request is sent, whatever comes of it.
Its method is the one of the definition, in upper case: no value of a variable changes it. -/
theorem requests_of_isSplit {name : String} {value : Value}
    (hvalue : CommandDefinition.ofValue name value = .ok definition)
    (hendpoint : definition.endpoint = some endpoint) :
    (∃ method url, IsSplit endpoint method url) ∧
      ∀ method url, IsSplit endpoint method url → '$' ∉ method.toList →
        ∀ (config : RunConfig) (scope : Scope) (body : Option Json),
          payload scope definition.body = .ok (.ok body) →
            ∃ request, IsFormed definition config scope method url body request ∧
              (∀ around verbose, Effect.requests
                (firstStage definition scope config around verbose).effects = [request]) ∧
              ∀ arguments around session verbose, around.store.load around.files = .ok session →
                scopeOf config session arguments = scope →
                  Effect.requests (run definition arguments config around verbose).effects =
                    [request] := by
  refine ⟨CommandDefinition.exists_isSplit_of_ofValue hvalue hendpoint, ?_⟩
  intro method url hsplit hmethod config scope body hbody
  have hgiven : given? definition.endpoint = some endpoint := by
    have hne : endpoint ≠ "" := by
      rintro rfl
      have hempty := congrArg String.toList hsplit.eq
      simp at hempty
    rw [hendpoint, given?, Option.filter_some, if_pos (by simpa using hne)]
  obtain ⟨request, hprepare, hformed⟩ := prepare_of_isSplit hsplit hmethod hbody config
  refine ⟨request, hformed, fun around verbose => requests_of_prepare hgiven hprepare, ?_⟩
  rintro arguments around session verbose hload rfl
  rw [requests_run arguments hload]
  exact requests_of_prepare hgiven hprepare

/-- An entry with a literal method and two headers. -/
def patchValue : Value :=
  .map [(.str "endpoint", .leaf (.str " patch $base/items ")),
    (.str "headers", .map [(.str "Accept", .leaf (.str "text/plain")),
      (.str "X-Trace", .leaf (.str "$trace"))])]

/-- What a document shares: two headers, and a limit of no time. -/
def patchConfig : RunConfig where
  defaults := .ofList [("base", .str "DELETE http://localhost"), ("trace", .str "a $base")]
  headers := .ofList [("X-Trace", "none"), ("X-Base", "$base")]
  timeout := .whole 0

/-- A base address that begins with another method makes a strange address, not another method. -/
theorem requests_of_isSplit_patch :
    ∃ definition request,
      CommandDefinition.ofValue "patch" patchValue = .ok definition ∧
        request.method = "PATCH" ∧ request.url = "DELETE http://localhost/items" ∧
        request.headers = some [("X-Trace", "a $base"), ("X-Base", "DELETE http://localhost"),
          ("Accept", "text/plain")] ∧
        request.timeout = .standard ∧
        Effect.requests (run definition .empty patchConfig silence true).effects = [request] := by
  have hvalue : ∃ definition, CommandDefinition.ofValue "patch" patchValue = .ok definition ∧
      definition.endpoint = some "patch $base/items" ∧ definition.body = .null ∧
      definition.headers.entries = [("Accept", "text/plain"), ("X-Trace", "$trace")] := by
    refine ⟨_, rfl, ?_, rfl, ?_⟩ <;> decide +kernel
  obtain ⟨definition, hvalue, hendpoint, hbody, hheaders⟩ := hvalue
  have hsplit : IsSplit "patch $base/items" "patch" "$base/items" :=
    ⟨by decide, by decide, by decide, by decide⟩
  have hpayload : payload (scopeOf patchConfig .empty .empty) definition.body = .ok (.ok none) := by
    rw [hbody]
    rfl
  obtain ⟨request, hformed, -, hrun⟩ := (requests_of_isSplit hvalue hendpoint).2 _ _ hsplit
    (by decide) patchConfig (scopeOf patchConfig .empty .empty) none hpayload
  refine ⟨definition, request, hvalue, ?_, ?_, ?_, hformed.timeout_of_isZero rfl,
    hrun .empty silence .empty true rfl rfl⟩
  · rw [hformed.method_eq]
    decide +kernel
  · rw [hformed.url_eq]
    decide +kernel
  · have hget : ∀ key, definition.headers.get? key =
        [("Accept", "text/plain"), ("X-Trace", "$trace")].lookup key := by
      intro key
      rw [OrderedMap.get?, hheaders]
    rw [hformed.headers_eq, overriddenHeaders, hheaders]
    simp only [hget]
    decide +kernel

end Invocation

end CommandBook
