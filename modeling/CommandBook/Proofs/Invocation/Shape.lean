import CommandBook.Proofs.Invocation.Containment
import CommandBook.Proofs.Invocation.Payload
import CommandBook.Proofs.Template.Shape

/-!
# The shape of a request body

Two requests of one command, made with different arguments and different saved values, have bodies
of the same shape as long as each quote in what the placeholders of the body stand for has a
backslash directly in front of it. A quote without one ends the string it was put into, and what
stands behind it may be read as further members.

## Main statements

* `each_toJson?` — the texts and names of a body are those of its JSON form
* `exists_shape_payload` — where a body can be made, its shape is the same in all scopes
* `shape_payload` — the bodies of two requests have one shape
-/

namespace CommandBook

open Template

/-! ## The texts and names of a body -/

/-- If a key is a text, it has the property `Q`. -/
def Leaf.HasName (Q : String → Prop) : Leaf → Prop
  | .str s => Q s
  | _ => True

namespace Value

mutual
/-- Each text of a value has the property `P`, each key that is a text `Q`. -/
def Each (P Q : String → Prop) : Value → Prop
  | .leaf (.str s) => P s
  | .leaf _ => True
  | .list items => EachItem P Q items
  | .map entries => EachEntry P Q entries
  | .set _ => True
  | .pairs entries => EachPair P Q entries
  | .enclosing _ => True

def EachItem (P Q : String → Prop) : List Value → Prop
  | [] => True
  | v :: rest => Each P Q v ∧ EachItem P Q rest

def EachEntry (P Q : String → Prop) : List (Leaf × Value) → Prop
  | [] => True
  | (k, v) :: rest => k.HasName Q ∧ Each P Q v ∧ EachEntry P Q rest

def EachPair (P Q : String → Prop) : List (Value × Value) → Prop
  | [] => True
  | (a, b) :: rest => Each P Q a ∧ Each P Q b ∧ EachPair P Q rest
end

/-- Keys that are no texts become names without a dollar sign. -/
theorem hasNoDollar_name? {k : Leaf} {name : String} (h : k.name? = .ok name)
    (hk : k.HasName HasNoDollar) : HasNoDollar name := by
  cases k with
  | str s => cases h; exact hk
  | null =>
    cases h
    show '$' ∉ "null".toList
    decide
  | bool b =>
    cases h
    show '$' ∉ (if b then "true" else "false").toList
    cases b <;> decide
  | int n =>
    rw [Leaf.name?] at h
    split at h
    · cases h
      rw [HasNoDollar, String.toList_ofList]
      exact dollar_not_mem_integer n
    · cases h
  | real x => cases h; exact dollar_not_mem_real x
  | bytes _ | date _ | time _ => cases h

section Encoding
variable {P : String → Prop}

theorem each_leaf {l : Leaf} {json : Json} (h : l.toJson? = .ok json)
    (hl : (Value.leaf l).Each P HasNoDollar) : json.Each P HasNoDollar := by
  cases l with
  | str s => cases h; exact hl
  | null | bool _ | real _ => cases h; trivial
  | int n =>
    rw [Leaf.toJson?] at h
    split at h
    · cases h; trivial
    · cases h
  | bytes _ | date _ | time _ => cases h

mutual
/-- **The texts and names of a body** are those of its JSON form. -/
theorem each_toJson? : ∀ (v : Value) {json : Json}, v.toJson? = .ok json →
    v.Each P HasNoDollar → json.Each P HasNoDollar
  | .leaf _, _ => each_leaf
  | .list items, _ => fun h hv => by
    obtain ⟨out, hitems, rfl⟩ := exists_of_map_eq_ok h
    exact eachItem_itemsToJson? items hitems hv
  | .map entries, _ => fun h hv => by
    obtain ⟨out, hentries, rfl⟩ := exists_of_map_eq_ok h
    exact eachMember_entriesToJson? entries hentries hv
  | .set _, _ => fun h _ => nomatch h
  | .pairs entries, _ => fun h hv => by
    obtain ⟨out, hentries, rfl⟩ := exists_of_map_eq_ok h
    exact eachItem_pairsToJson? entries hentries hv
  | .enclosing _, _ => fun h _ => nomatch h

theorem eachItem_itemsToJson? : ∀ (items : List Value) {out : List Json},
    itemsToJson? items = .ok out → EachItem P HasNoDollar items →
      Json.EachItem P HasNoDollar out
  | [], _ => fun h _ => by
    cases h
    trivial
  | v :: rest, _ => fun h hv => by
    rw [itemsToJson?] at h
    obtain ⟨w, hw, h⟩ := exists_of_bind_eq_ok h
    obtain ⟨out, hout, h⟩ := exists_of_bind_eq_ok h
    cases h
    exact ⟨each_toJson? v hw hv.1, eachItem_itemsToJson? rest hout hv.2⟩

theorem eachMember_entriesToJson? : ∀ (entries : List (Leaf × Value)) {out : List (String × Json)},
    entriesToJson? entries = .ok out → EachEntry P HasNoDollar entries →
      Json.EachMember P HasNoDollar out
  | [], _ => fun h _ => by
    cases h
    trivial
  | (k, v) :: rest, _ => fun h hv => by
    rw [entriesToJson?] at h
    obtain ⟨name, hname, h⟩ := exists_of_bind_eq_ok h
    obtain ⟨w, hw, h⟩ := exists_of_bind_eq_ok h
    obtain ⟨out, hout, h⟩ := exists_of_bind_eq_ok h
    cases h
    exact ⟨hasNoDollar_name? hname hv.1, each_toJson? v hw hv.2.1,
      eachMember_entriesToJson? rest hout hv.2.2⟩

theorem eachItem_pairsToJson? : ∀ (entries : List (Value × Value)) {out : List Json},
    pairsToJson? entries = .ok out → EachPair P HasNoDollar entries →
      Json.EachItem P HasNoDollar out
  | [], _ => fun h _ => by
    cases h
    trivial
  | (a, b) :: rest, _ => fun h hv => by
    rw [pairsToJson?] at h
    obtain ⟨v, hv', h⟩ := exists_of_bind_eq_ok h
    obtain ⟨w, hw, h⟩ := exists_of_bind_eq_ok h
    obtain ⟨out, hout, h⟩ := exists_of_bind_eq_ok h
    cases h
    exact ⟨⟨each_toJson? a hv' hv.1, each_toJson? b hw hv.2.1, trivial⟩,
      eachItem_pairsToJson? rest hout hv.2.2⟩
end

end Encoding

end Value

namespace Invocation

variable {definition : CommandDefinition} {endpoint : String} {scope : Scope} {config : RunConfig}
  {around : Surroundings} {verbose : Bool} {request : Request}

/-! ## From the body to the request -/

/-- What sends no request may follow. -/
theorem requests_bind {α β : Type} {s : Step Stop α} {f : α → Step Stop β}
    (h : ∀ a, (f a).Emits fun e => ∀ r, e ≠ .request r) :
    Effect.requests (s.bind f).effects = Effect.requests s.effects := by
  have hrest : ∀ a, s.result = .ok a → (f a).Emits fun e => ∀ r, e ≠ .request r := fun a _ => h a
  obtain ⟨rest, heffects, hnone⟩ := Step.exists_effects_bind hrest
  rw [heffects, Effect.requests_append, requests_of_forall hnone, List.append_nil]

theorem requests_of_prepare (h : given? definition.endpoint = some endpoint)
    (hprepare : prepare definition endpoint scope config = .ok (.ok request)) :
    Effect.requests (firstStage definition scope config around verbose).effects = [request] := by
  have hask : ask definition endpoint scope config around verbose = send request around verbose := by
    rw [ask, hprepare]
    rfl
  rw [firstStage_of_endpoint h, requests_bind (emits_conclude definition scope around), hask,
    requests_send]

/-- A request that cannot be made is reported, and nothing is sent. -/
theorem firstStage_of_prepare_error {e : RequestError}
    (h : given? definition.endpoint = some endpoint)
    (hprepare : prepare definition endpoint scope config = .ok (.error e)) :
    firstStage definition scope config around verbose =
      ⟨[.err s!"ERROR: {e.report}"], .ok (false, scope)⟩ := by
  rw [firstStage_of_endpoint h, ask, hprepare]
  rfl

theorem firstStage_of_prepare_stop {reason : Stop} (h : given? definition.endpoint = some endpoint)
    (hprepare : prepare definition endpoint scope config = .error reason) :
    firstStage definition scope config around verbose = ⟨[], .error reason⟩ := by
  rw [firstStage_of_endpoint h, ask, hprepare]
  rfl

/-- A request that is sent is the one that was prepared. -/
theorem prepare_of_mem_requests
    (h : request ∈ Effect.requests (firstStage definition scope config around verbose).effects) :
    ∃ endpoint, prepare definition endpoint scope config = .ok (.ok request) := by
  obtain ⟨e, he, heq⟩ := List.mem_filterMap.1 h
  have hemits : (firstStage definition scope config around verbose).Emits fun e =>
      ∀ r, e = .request r → ∃ endpoint, prepare definition endpoint scope config = .ok (.ok r) := by
    refine emits_firstStage (fun _ => nofun) (fun _ => nofun) (fun _ => nofun)
      (fun _ _ => nofun) fun endpoint r hprepare => ?_
    rintro _ ⟨⟩
    exact ⟨endpoint, hprepare⟩
  cases e with
  | request r =>
    cases heq
    exact hemits _ he _ rfl
  | _ => cases heq

theorem payload_of_prepare
    (h : prepare definition endpoint scope config = .ok (.ok request)) :
    payload scope definition.body = .ok (.ok request.payload) := by
  rw [prepare] at h
  obtain ⟨prepared, hpayload, h⟩ := exists_of_bind_eq_ok h
  cases prepared with
  | error e => cases h
  | ok body =>
    have hrequest := Except.ok.inj (Except.ok.inj h)
    rw [← hrequest]
    exact hpayload

theorem payload_of_prepare_error {e : RequestError}
    (h : prepare definition endpoint scope config = .ok (.error e)) :
    payload scope definition.body = .ok (.error e) := by
  rw [prepare] at h
  obtain ⟨prepared, hpayload, h⟩ := exists_of_bind_eq_ok h
  cases prepared with
  | error e' =>
    cases h
    exact hpayload
  | ok body => cases h

theorem prepare_eq_error_iff {e : RequestError} :
    prepare definition endpoint scope config = .ok (.error e) ↔
      payload scope definition.body = .ok (.error e) := by
  constructor
  · exact payload_of_prepare_error
  · intro h
    rw [prepare, h]
    rfl

/-! ## The body -/

/-- A value that was read, unless it is null. -/
def unlessNull (v : Json) : Option Json := if v matches .null then none else some v

theorem map_shape_unlessNull (v : Json) : (unlessNull v).map Json.shape = unlessNull v.shape := by
  cases v <;> rfl

theorem payload_cases {body : Value} {out : Option Json}
    (h : payload scope body = .ok (.ok out)) :
    body.isNull ∧ out = none ∨ body.isNull = false ∧ ∃ json v, body.toJson? = .ok json ∧
      Json.readChars (resolveChars scope json.renderChars) = .ok v ∧ out = unlessNull v := by
  unfold payload at h
  split at h
  · next hnull =>
    cases h
    exact Or.inl ⟨hnull, rfl⟩
  next hnull =>
  split at h
  · cases h
  next json hjson =>
  dsimp only at h
  split at h
  · next v hread =>
    cases h
    exact Or.inr ⟨by simpa using hnull, json, v, hjson, hread, rfl⟩
  · cases h
  · cases h

/-- Where a body can be made, its shape is the same in all scopes. -/
theorem exists_shape_payload (body : Value) : ∃ o, ∀ scope : Scope,
    body.Each (IsGuarded scope) HasNoDollar →
      ∀ out, payload scope body = .ok (.ok out) → out.map Json.shape = o := by
  cases hnull : body.isNull with
  | true =>
    refine ⟨none, fun scope _ out hout => ?_⟩
    rcases payload_cases hout with ⟨-, rfl⟩ | ⟨hsome, -⟩
    · rfl
    · exact absurd hnull (by simp [hsome])
  | false =>
    cases hjson : body.toJson? with
    | error f =>
      refine ⟨none, fun scope _ out hout => ?_⟩
      rcases payload_cases hout with ⟨-, rfl⟩ | ⟨-, json, v, hok, -⟩
      · rfl
      · rw [hjson] at hok
        cases hok
    | ok json =>
      obtain ⟨o, ho⟩ := exists_shape_resolveChars json
      refine ⟨unlessNull o, fun scope hbody out hout => ?_⟩
      rcases payload_cases hout with ⟨hsome, -⟩ | ⟨-, json', v, hok, hread, rfl⟩
      · exact absurd hnull (by simp [hsome])
      · rw [hjson] at hok
        cases hok
        rw [map_shape_unlessNull, ho scope (Value.each_toJson? body hjson hbody) v hread]

/-- When the body of a request is no JSON. -/
theorem payload_eq_error_iff {body : Value} {e : RequestError} :
    payload scope body = .ok (.error e) ↔
      body.isNull = false ∧ ∃ json cause offset, body.toJson? = .ok json ∧
        Json.readChars (resolveChars scope json.renderChars) =
          .error (.malformed cause offset) ∧
        ∃ problem, (Json.ReadError.locate cause (resolveChars scope json.renderChars)
            offset).message = problem ∧
          e = { message := s!"Request body is not valid JSON after substitution: {problem}" } := by
  unfold payload
  cases hnull : body.isNull with
  | true => simp
  | false =>
    cases hjson : body.toJson? with
    | error f => simp
    | ok json =>
      cases hread : Json.readChars (resolveChars scope json.renderChars) with
      | ok v => simp [hread]
      | error failure =>
        cases failure with
        | numeralTooLong => simp [hread]
        | malformed cause offset =>
          simp only [Bool.false_eq_true, if_false, hread, Except.ok.injEq, Except.error.injEq,
            true_and]
          constructor
          · rintro rfl
            exact ⟨json, cause, offset, rfl, hread, _, rfl, rfl⟩
          · rintro ⟨json', cause', offset', rfl, hread', problem, rfl, rfl⟩
            rw [hread] at hread'
            cases hread'
            rfl

/-- A body that cannot be made is no JSON after substitution. -/
theorem payload_error {body : Value} {e : RequestError} (h : payload scope body = .ok (.error e)) :
    ∃ problem : String,
      e = { message := s!"Request body is not valid JSON after substitution: {problem}" } := by
  obtain ⟨-, json, cause, offset, -, -, problem, -, he⟩ := payload_eq_error_iff.1 h
  exact ⟨problem, he⟩

/-- **Values cannot reshape a body.** Where one request of a command was sent, another one in a second
scope has a body of the same shape, as long as what the placeholders of the body stand for has no
quote but directly behind a backslash, and no placeholder can begin in a name. If the second one is
not sent, the body is no JSON after substitution, and that is reported, unless an integer in it is
too long to read. -/
theorem shape_payload {scope₁ scope₂ : Scope}
    (hendpoint : given? definition.endpoint = some endpoint)
    (h₁ : definition.body.Each (IsGuarded scope₁) HasNoDollar)
    (h₂ : definition.body.Each (IsGuarded scope₂) HasNoDollar) {config₁ config₂ : RunConfig}
    {around₁ around₂ : Surroundings} {verbose₁ verbose₂ : Bool} {request₁ : Request}
    (hsent : request₁ ∈
      Effect.requests (firstStage definition scope₁ config₁ around₁ verbose₁).effects) :
    (∃ request₂,
      Effect.requests (firstStage definition scope₂ config₂ around₂ verbose₂).effects = [request₂] ∧
        request₂.payload.map Json.shape = request₁.payload.map Json.shape) ∨
      Effect.requests (firstStage definition scope₂ config₂ around₂ verbose₂).effects = [] ∧
        (IsReadable scope₂ definition.body → ∃ problem : String,
          firstStage definition scope₂ config₂ around₂ verbose₂ =
            ⟨[.err s!"ERROR: Request body is not valid JSON after substitution: {problem}"],
              .ok (false, scope₂)⟩) := by
  obtain ⟨o, ho⟩ := exists_shape_payload definition.body
  obtain ⟨endpoint₁, hprepare₁⟩ := prepare_of_mem_requests hsent
  have hshape₁ := ho scope₁ h₁ _ (payload_of_prepare hprepare₁)
  cases hprepare₂ : prepare definition endpoint scope₂ config₂ with
  | error reason =>
    rw [firstStage_of_prepare_stop hendpoint hprepare₂]
    refine Or.inr ⟨rfl, fun hreadable => ?_⟩
    obtain ⟨r, hr⟩ := prepare_eq_ok_iff.2 hreadable
    rw [hprepare₂] at hr
    cases hr
  | ok prepared =>
    cases prepared with
    | error e =>
      rw [firstStage_of_prepare_error hendpoint hprepare₂]
      refine Or.inr ⟨rfl, fun _ => ?_⟩
      obtain ⟨problem, rfl⟩ := payload_error (payload_of_prepare_error hprepare₂)
      exact ⟨problem, rfl⟩
    | ok request₂ =>
      refine Or.inl ⟨request₂, requests_of_prepare hendpoint hprepare₂, ?_⟩
      rw [hshape₁, ho scope₂ h₂ _ (payload_of_prepare hprepare₂)]

/-- A command whose body has a placeholder in a text. -/
def signup : CommandDefinition where
  name := "signup"
  endpoint := some "POST http://localhost"
  body := .map [(.str "user", .leaf (.str "$u"))]

/-- A scope in which `u` is the name of a user. -/
def userScope (u : String) : Scope := .ofList [("u", .str u)]

/-- The request of `signup` with a body. -/
def signupRequest (body : Json) : Request :=
  .make "POST" "http://localhost" (some []) (some body) ({} : RunConfig).timeout

/-- What is around `signup`: no files and no answer. -/
def silence : Surroundings where
  files := ⟨.empty, [], []⟩
  store := ⟨.absolute ["session.json"]⟩
  exchange := .timedOut
  shell := fun _ _ => .error .nulInCommand

theorem each_signup {u : String} (h : Json.Guarded u.toList) :
    signup.body.Each (IsGuarded (userScope u)) HasNoDollar := by
  have hname : HasNoDollar "user" := by
    show '$' ∉ "user".toList
    decide
  have hreferences : references placeholder "$u".toList = ["u"] := rfl
  refine ⟨hname, fun name hn => ?_, trivial⟩
  rw [hreferences, List.mem_singleton] at hn
  subst hn
  show Json.Guarded (if (u != "") = true then u.toList else [])
  split
  · exact h
  · exact .nil

/-- Two requests of `signup`. The name of the second user is in quotes, each behind a backslash. -/
theorem shape_payload_signup :
    let plain := signupRequest (.obj [("user", .str "bob")])
    let quoted := signupRequest (.obj [("user", .str "\"Al\"")])
    given? signup.endpoint = some "POST http://localhost" ∧
      signup.body.Each (IsGuarded (userScope "bob")) HasNoDollar ∧
      signup.body.Each (IsGuarded (userScope "\\\"Al\\\"")) HasNoDollar ∧
      plain ∈ Effect.requests (firstStage signup (userScope "bob") {} silence false).effects ∧
      Effect.requests (firstStage signup (userScope "\\\"Al\\\"") {} silence false).effects =
        [quoted] ∧
      quoted.payload.map Json.shape = plain.payload.map Json.shape := by
  intro plain quoted
  have hplain := each_signup (u := "bob") (Json.guarded_of_not_mem (by decide))
  have hquoted := each_signup (u := "\\\"Al\\\"")
    (.quote (.char (by decide) (.char (by decide) (.quote .nil))))
  have hsent : plain ∈
      Effect.requests (firstStage signup (userScope "bob") {} silence false).effects :=
    List.mem_singleton.2 rfl
  have hsent' : Effect.requests
      (firstStage signup (userScope "\\\"Al\\\"") {} silence false).effects = [quoted] := rfl
  refine ⟨rfl, hplain, hquoted, hsent, hsent', ?_⟩
  rcases @shape_payload signup "POST http://localhost" _ _ rfl hplain hquoted {} {} silence silence
    false false plain hsent with ⟨request, hrequest, hshape⟩ | ⟨hnone, -⟩
  · rw [hsent'] at hrequest
    cases hrequest
    exact hshape
  · rw [hsent'] at hnone
    cases hnone

/-- Quotes without backslashes in front of them make a member of what stands between them. -/
theorem shape_payload_injected :
    let plain := signupRequest (.obj [("user", .str "bob")])
    let reshaped := signupRequest (.obj [("user", .str "a"), ("admin", .str "b")])
    signup.body.Each (fun _ => True) HasNoDollar ∧
      Effect.requests (firstStage signup (userScope "bob") {} silence false).effects = [plain] ∧
      Effect.requests
        (firstStage signup (userScope "a\", \"admin\": \"b") {} silence false).effects = [reshaped] ∧
      plain.payload.map Json.shape ≠ reshaped.payload.map Json.shape := by
  intro plain reshaped
  have hname : HasNoDollar "user" := by
    show '$' ∉ "user".toList
    decide
  refine ⟨⟨hname, trivial, trivial⟩, rfl, rfl, ?_⟩
  simp [plain, reshaped, signupRequest, Request.make, Json.shape, Json.shapeMembers]

end Invocation

end CommandBook
