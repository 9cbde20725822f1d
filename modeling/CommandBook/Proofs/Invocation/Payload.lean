import CommandBook.Proofs.Invocation.Stages
import CommandBook.Proofs.Template.Splice

/-!
# The body of a request

A body is substituted in its text and read again. What comes of that is the body with each of its
strings resolved on its own: no placeholder reaches over the end of a string, and none changes what
is around it, as long as no substituted text needs an escape. So the request is made, and it is the
one request of the invocation.

## Main statements

* `toJson?_ofJson` — a body that is JSON is encoded as itself
* `payload_ofJson` — the body after substitution
* `requests_firstStage` — the request that is sent
-/

namespace CommandBook

open Json

/-! ## Encoding -/

namespace Value

mutual
/-- A value that is JSON is encoded as itself. -/
theorem toJson?_ofJson : ∀ v : Json, isIntegral v → (ofJson v).toJson? = .ok v
  | .null => fun _ => rfl
  | .bool _ => fun _ => rfl
  | .int n => fun hv => by
    rw [isIntegral] at hv
    rw [ofJson, toJson?, Leaf.toJson?, if_pos hv]
  | .real _ => fun hv => by
    rw [isIntegral] at hv
    exact absurd hv Bool.false_ne_true
  | .str _ => fun _ => rfl
  | .arr items => fun hv => by
    rw [isIntegral] at hv
    rw [ofJson, toJson?, itemsToJson?_ofItems items hv]
    rfl
  | .obj members => fun hv => by
    rw [isIntegral] at hv
    rw [ofJson, toJson?, entriesToJson?_ofMembers members hv]
    rfl

theorem itemsToJson?_ofItems : ∀ items : List Json, areIntegral items →
    itemsToJson? (ofItems items) = .ok items
  | [] => fun _ => rfl
  | v :: rest => fun hv => by
    rw [areIntegral, Bool.and_eq_true] at hv
    rw [ofItems, itemsToJson?, toJson?_ofJson v hv.1, itemsToJson?_ofItems rest hv.2]
    rfl

theorem entriesToJson?_ofMembers : ∀ members : List (String × Json), haveIntegral members →
    entriesToJson? (ofMembers members) = .ok members
  | [] => fun _ => rfl
  | (k, v) :: rest => fun hv => by
    rw [haveIntegral, Bool.and_eq_true] at hv
    rw [ofMembers, entriesToJson?, toJson?_ofJson v hv.1, entriesToJson?_ofMembers rest hv.2]
    rfl
end

theorem isNull_ofJson {v : Json} (h : v ≠ .null) : (ofJson v).isNull = false := by
  cases v <;> first | rfl | exact absurd rfl h

end Value

namespace Invocation

variable {definition : CommandDefinition} {endpoint : String} {scope : Scope} {json : Json}

/-- **The body after substitution** is the body with each of its strings resolved, names that
became equal being united. -/
theorem payload_ofJson (hscope : Template.isPlain scope) (hnull : json ≠ .null)
    (hjson : isIntegral json) :
    payload scope (.ofJson json) =
      .ok (.ok (some (merged (mapTexts (Template.resolve scope) json)))) := by
  rw [payload, Value.isNull_ofJson hnull, if_neg Bool.false_ne_true,
    Value.toJson?_ofJson json hjson]
  simp only [Template.readChars_resolveChars hscope hjson]
  cases json <;> first | rfl | exact absurd rfl hnull

/-! ## The request -/

theorem requests_of_forall {es : List Effect} (h : ∀ e ∈ es, ∀ r, e ≠ .request r) :
    Effect.requests es = [] := by
  rw [Effect.requests, List.filterMap_eq_nil_iff]
  intro e he
  cases e with
  | request r => exact absurd rfl (h _ he r)
  | _ => rfl

theorem requests_send (request : Request) (around : Surroundings) (verbose : Bool) :
    Effect.requests (send request around verbose).effects = [request] := by
  obtain ⟨before, after, herrs, heffects⟩ := effects_send request around verbose
  have hnone : ∀ e ∈ before ++ after, ∀ r, e ≠ .request r := fun e he r => by
    obtain ⟨text, rfl⟩ := herrs e he
    exact nofun
  have hbefore := requests_of_forall fun e he => hnone e (List.mem_append_left _ he)
  have hafter := requests_of_forall fun e he => hnone e (List.mem_append_right _ he)
  rw [heffects, ← List.singleton_append, Effect.requests_append, Effect.requests_append, hbefore,
    hafter]
  rfl

/-- What follows on the outcome of a request sends no other. -/
theorem emits_conclude (definition : CommandDefinition) (scope : Scope) (around : Surroundings)
    (outcome : Except RequestError Reply) :
    (conclude definition scope around outcome).Emits fun e => ∀ r, e ≠ .request r :=
  emits_conclude_of (fun _ _ => nofun) (fun _ _ => nofun) (fun _ _ => nofun)
    (fun _ _ _ => nofun) definition scope around outcome

/-- **The request of a command whose body is JSON** is made and sent, whatever comes of it. Its body
is the body of the command with each of its strings resolved. -/
theorem requests_firstStage (hendpoint : given? definition.endpoint = some endpoint)
    (hbody : definition.body = .ofJson json) (hnull : json ≠ .null) (hjson : isIntegral json)
    (hscope : Template.isPlain scope) (config : RunConfig) (around : Surroundings)
    (verbose : Bool) : ∃ request,
      prepare definition endpoint scope config = .ok (.ok request) ∧
      request.payload = some (merged (mapTexts (Template.resolve scope) json)) ∧
      Effect.requests (firstStage definition scope config around verbose).effects = [request] := by
  obtain ⟨request, hprepare, hpayload⟩ : ∃ request,
      prepare definition endpoint scope config = .ok (.ok request) ∧
        request.payload = some (merged (mapTexts (Template.resolve scope) json)) := by
    rw [prepare, hbody, payload_ofJson hscope hnull hjson]
    exact ⟨_, rfl, rfl⟩
  have hask : ask definition endpoint scope config around verbose = send request around verbose := by
    rw [ask, hprepare]
    rfl
  refine ⟨request, hprepare, hpayload, ?_⟩
  have hfirst : firstStage definition scope config around verbose =
      (send request around verbose).bind (conclude definition scope around) := by
    rw [firstStage, hendpoint, ← hask]
    exact requestStage_eq
  rw [hfirst]
  -- the request is sent whether or not the transport or what follows stops
  cases hsend : (send request around verbose).result with
  | error reason => rw [Step.effects_bind_error hsend, requests_send]
  | ok outcome =>
    rw [Step.effects_bind_ok hsend, Effect.requests, List.filterMap_append]
    have hsent := requests_send request around verbose
    have hnone := requests_of_forall (emits_conclude definition scope around outcome)
    rw [Effect.requests] at hsent hnone
    rw [hsent, hnone]
    rfl

/-- A command whose body has a placeholder in a name and in an item. -/
def greeting : CommandDefinition :=
  { name := "greet", endpoint := some "POST http://localhost"
    body := .ofJson (.obj [("$name", .arr [.str "Dear $name", .int 1, .null])]) }

/-- The body of `greeting` as it is sent. -/
theorem requests_firstStage_greeting :
    let scope : Scope := .ofList [("name", .str "Ada")]
    let around : Surroundings :=
      ⟨⟨.empty, [], []⟩, ⟨.absolute ["session.json"]⟩, .timedOut, fun _ _ => .error .nulInCommand⟩
    Template.isPlain scope ∧ ∃ request,
      request.payload = some (.obj [("Ada", .arr [.str "Dear Ada", .int 1, .null])]) ∧
      Effect.requests (firstStage greeting scope {} around false).effects = [request] := by
  intro scope around
  have hscope : Template.isPlain scope := by decide
  have hjson : isIntegral (.obj [("$name", .arr [.str "Dear $name", .int 1, .null])]) := by
    decide +kernel
  obtain ⟨request, -, hpayload, hsent⟩ :=
    @requests_firstStage greeting _ scope _ rfl rfl (by simp) hjson hscope {} around false
  exact ⟨hscope, request, hpayload, hsent⟩

end Invocation

end CommandBook
