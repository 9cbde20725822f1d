import CommandBook.Proofs.Invocation.History
import CommandBook.Proofs.Response.Filling
import CommandBook.Proofs.Template.Placeholder

/-!
# References that are captured

A template that is one reference to the answer captures the text of the value there: a text as it
is, nothing where there is null or no value, and the JSON of any other value. Like every captured
text it is resolved before it is saved, in the scope with all that was captured before it. So what
is saved is the text of the value where that text has no placeholder in it, and the resolved text
in general.

## Main statements

* `get?_after_of_set`, `get?_after_of_reference` — what a template, and a lone reference, leave in
  the session
-/

namespace CommandBook

namespace Invocation

/-- What is captured for a name, where everything can be captured. -/
theorem captured?_of_lookup {body : Json} {final : Scope} {name template : String} :
    ∀ {entries : List (String × String)} {scope : Scope},
      captureAll body entries scope = .ok final → entries.lookup name = some template →
        ∃ earlier text, captureAll body (entries.takeWhile (·.1 != name)) scope = .ok earlier ∧
          Response.capture template body = .ok text ∧
          captured? body entries scope name = some (Template.resolve earlier text)
  | (first, t) :: rest, scope, hall, hlookup => by
    obtain ⟨text, hcapture, hrest⟩ := captureAll_cons hall
    by_cases hname : name = first
    · subst hname
      obtain rfl : t = template := by simpa using hlookup
      refine ⟨scope, text, ?_, hcapture, captured?_cons_self hcapture⟩
      rw [List.takeWhile_cons_of_neg (by simp)]
      rfl
    · rw [List.lookup_cons, beq_false_of_ne hname] at hlookup
      obtain ⟨earlier, own, hearlier, hown, hcaptured⟩ := captured?_of_lookup hrest hlookup
      refine ⟨earlier, own, ?_, hown, (captured?_cons_of_ne hname hcapture).trans hcaptured⟩
      rw [List.takeWhile_cons_of_pos (by simpa using Ne.symm hname), captureAll, hcapture]
      exact hearlier

variable {store : SessionStore} {files : FileTree} {call : Call} {session : Session}

/-- **What a template leaves in the session**: its text from the answer, resolved in the scope with
all that was captured before it. -/
theorem get?_after_of_set {saving : Saving} {final : Scope} {name template : String}
    (h : call.Undisturbed store files) (hload : store.load files = .ok session)
    (hsaving : call.saving? store files = some (saving, final))
    (hset : call.definition.set.get? name = some template) :
    ∃ later earlier text, store.load (call.after store files) = .ok later ∧
      captureAll saving.body (call.definition.set.entries.takeWhile (·.1 != name)) saving.scope =
        .ok earlier ∧
      Response.capture template saving.body = .ok text ∧
      later.get? name = some (Template.resolve earlier text) := by
  obtain ⟨later, hlater, hget⟩ := load_after_of_saving h hload hsaving
  obtain ⟨reply, hreaches, rfl⟩ := (saving?_eq_some_iff hload).1 hsaving
  obtain ⟨earlier, text, hearlier, hcapture, hcaptured⟩ :=
    captured?_of_lookup hreaches.captured hset
  refine ⟨later, earlier, text, hlater, hearlier, hcapture, ?_⟩
  -- a captured value goes over whatever else a session has under the name
  rw [hget, Saving.given?, hcaptured]
  rfl

/-- **What a lone reference leaves in the session**: the text of the value that it names, resolved
like any other, and so the very text if no placeholder is in it. -/
theorem get?_after_of_reference {saving : Saving} {final : Scope} {name : String}
    {path : List Char} (h : call.Undisturbed store files) (hload : store.load files = .ok session)
    (hsaving : call.saving? store files = some (saving, final)) (hpath : Response.IsPath path)
    (hset : call.definition.set.get? name = some (Response.reference path)) :
    ∃ later value earlier, store.load (call.after store files) = .ok later ∧
      Response.valueAt saving.body path = .ok value ∧
      captureAll saving.body (call.definition.set.entries.takeWhile (·.1 != name)) saving.scope =
        .ok earlier ∧
      later.get? name =
        some (Template.resolve earlier (String.ofList (Response.textOf value))) ∧
      (Template.references Template.placeholder (Response.textOf value) = [] →
        later.get? name = some (String.ofList (Response.textOf value))) := by
  obtain ⟨later, earlier, text, hlater, hearlier, hcapture, hname⟩ :=
    get?_after_of_set h hload hsaving hset
  rw [Response.capture_reference hpath] at hcapture
  obtain ⟨value, hvalue, rfl⟩ : ∃ value, Response.valueAt saving.body path = .ok value ∧
      String.ofList (Response.textOf value) = text := by
    cases hvalue : Response.valueAt saving.body path with
    | error f => rw [hvalue] at hcapture; cases hcapture
    | ok value => rw [hvalue] at hcapture; exact ⟨value, rfl, Except.ok.inj hcapture⟩
  refine ⟨later, value, earlier, hlater, hvalue, hearlier, hname, fun hnone => ?_⟩
  rw [hname, Template.resolve_of_references_eq_nil earlier (by rwa [String.toList_ofList])]

/-- A command that captures the member `p` of the answer, which is a text. -/
def captureCall (p : String) : Call where
  definition :=
    { name := "login"
      endpoint := some "GET http://localhost"
      set := .ofList [("token", Response.reference ['p'])] }
  arguments := .empty
  config := {}
  exchange := .answered ⟨200, [], (Json.obj [("p", .str p)]).renderIndented, 0, 0⟩
  shell := fun _ _ => .error .nulInCommand
  verbose := false

/-- What is answered to `captureCall`. -/
def captureReply (p : String) : Reply where
  status := 200
  body := .obj [("p", .str p)]
  elapsedMs := (0 - 0) * 1000
  text := (Json.obj [("p", .str p)]).renderIndented

theorem reply_captureCall (p : String) (timeout : Seconds) :
    (captureCall p).exchange.reply timeout = .ok (captureReply p) := by
  have hbody : bodyOf (Json.obj [("p", .str p)]).renderIndented = .obj [("p", .str p)] := by
    rw [bodyOf, Json.read_renderIndented rfl]
    rfl
  exact congrArg (fun body => Except.ok { captureReply p with body }) hbody

/-- The scope that `captureCall` saves. -/
def captureScope (p : String) : Scope :=
  ((captureCall p).scope .empty).insert "token"
    (.str (Template.resolve ((captureCall p).scope .empty) p))

theorem saving?_captureCall (p : String) :
    (captureCall p).saving? ⟨.absolute ["session.json"]⟩ ⟨.empty, [], []⟩ =
      some (⟨captureCall p, (captureCall p).scope .empty, (captureReply p).body⟩,
        captureScope p) := by
  have hcapture : Response.capture (Response.reference ['p']) (captureReply p).body = .ok p := by
    rw [Response.capture_reference ⟨by simp, List.all_eq_true.1 rfl⟩]
    exact congrArg Except.ok String.ofList_toList
  have hcaptured : captureAll (captureReply p).body (captureCall p).definition.set.entries
      ((captureCall p).scope .empty) = .ok (captureScope p) := by
    show captureAll _ [("token", Response.reference ['p'])] _ = _
    rw [captureAll, hcapture]
    rfl
  refine (saving?_eq_some_iff rfl).2 ⟨captureReply p,
    ⟨⟨_, _, rfl, rfl, reply_captureCall p _⟩, rfl, ?_, ?_, rfl, hcaptured⟩, rfl⟩
  · intro hverbose
    cases hverbose
  · intro _ htemplate
    cases htemplate

theorem undisturbed_captureCall (p : String) :
    (captureCall p).Undisturbed ⟨.absolute ["session.json"]⟩ ⟨.empty, [], []⟩ := by
  refine ⟨Effect.spares_of_not_mem (command_not_mem_run rfl _ _ _ _), fun saving final h => ?_⟩
  obtain ⟨-, rfl⟩ := Prod.mk.inj (Option.some.inj ((saving?_captureCall p).symm.trans h))
  rfl

/-- A text without a dollar sign is saved as it is. -/
theorem get?_after_of_reference_token :
    let store : SessionStore := ⟨.absolute ["session.json"]⟩
    let files : FileTree := ⟨.empty, [], []⟩
    let call := captureCall "a-1"
    call.Undisturbed store files ∧ store.load files = .ok .empty ∧
      ∃ later, store.load (call.after store files) = .ok later ∧
        later.get? "token" = some "a-1" := by
  have hload : SessionStore.load ⟨.absolute ["session.json"]⟩ ⟨.empty, [], []⟩ = .ok .empty := rfl
  obtain ⟨later, value, earlier, hlater, hvalue, -, -, hget⟩ :=
    @get?_after_of_reference _ _ _ _ _ _ "token" ['p'] (undisturbed_captureCall "a-1") hload
      (saving?_captureCall "a-1") ⟨by simp, List.all_eq_true.1 rfl⟩ rfl
  obtain rfl : Json.str "a-1" = value := Except.ok.inj hvalue
  exact ⟨undisturbed_captureCall "a-1", hload, later, hlater, hget rfl⟩

/-- A text with a placeholder in it is saved without it. -/
theorem get?_after_password :
    let store : SessionStore := ⟨.absolute ["session.json"]⟩
    let files : FileTree := ⟨.empty, [], []⟩
    let call := captureCall "pa$word"
    call.Undisturbed store files ∧ store.load files = .ok .empty ∧
    ∃ saving final later, call.saving? store files = some (saving, final) ∧
      call.definition.set.get? "token" = some (Response.reference ['p']) ∧
      Response.valueAt saving.body ['p'] = .ok (.str "pa$word") ∧
      store.load (call.after store files) = .ok later ∧ later.get? "token" = some "pa" := by
  have hload : SessionStore.load ⟨.absolute ["session.json"]⟩ ⟨.empty, [], []⟩ = .ok .empty := rfl
  have hsaving := saving?_captureCall "pa$word"
  obtain ⟨later, earlier, text, hlater, hearlier, hcapture, hget⟩ :=
    @get?_after_of_set _ _ _ _ _ _ "token" _ (undisturbed_captureCall "pa$word") hload hsaving rfl
  -- nothing is captured before, and the text of the member is what is captured
  obtain rfl : (captureCall "pa$word").scope .empty = earlier := Except.ok.inj hearlier
  obtain rfl : "pa$word" = text :=
    Except.ok.inj ((Response.capture_reference ⟨by simp, List.all_eq_true.1 rfl⟩ _).symm.trans hcapture)
  refine ⟨undisturbed_captureCall "pa$word", hload, _, _, later, hsaving, rfl, rfl, hlater, ?_⟩
  rw [hget]
  decide +kernel

end Invocation

end CommandBook
