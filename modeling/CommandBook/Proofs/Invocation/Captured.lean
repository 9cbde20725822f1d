import CommandBook.Invocation

/-!
# Captured values

Values are captured in order, and each template sees the values captured before it. The names that
are captured are distinct, so a name has the value of its own template, evaluated with what the
entries in front of it captured, and any other name has the value it had.

## Main statements

* `get?_captureAll` — the values of a scope after capturing
-/

namespace CommandBook.Invocation

/-- The value that is captured for a name: its template, filled from the answer and resolved in the
scope with all that is captured before it. -/
def captured? (body : Json) (entries : List (String × String)) (scope : Scope) (name : String) :
    Option String :=
  match captureAll body (entries.takeWhile (·.1 != name)) scope, entries.lookup name with
  | .ok earlier, some template =>
    (Response.capture template body).toOption.map (Template.resolve earlier)
  | _, _ => none

variable {body : Json} {entries : List (String × String)} {scope final : Scope}

theorem captureAll_cons {name template : String}
    (h : captureAll body ((name, template) :: entries) scope = .ok final) :
    ∃ text, Response.capture template body = .ok text ∧
      captureAll body entries (scope.insert name (.str (Template.resolve scope text))) =
        .ok final := by
  rw [captureAll] at h
  cases hcapture : Response.capture template body with
  | error f => rw [hcapture] at h; cases h
  | ok text =>
    rw [hcapture] at h
    exact ⟨text, rfl, h⟩

theorem captured?_of_not_mem {name : String} (h : name ∉ entries.map Prod.fst) :
    captured? body entries scope name = none := by
  rw [captured?, lookup_of_not_mem h]
  split
  · next heq => cases heq
  · rfl

/-- The first entry captures the value of its name. -/
theorem captured?_cons_self {name template text : String}
    (h : Response.capture template body = .ok text) :
    captured? body ((name, template) :: entries) scope name =
      some (Template.resolve scope text) := by
  have hbefore : ((name, template) :: entries).takeWhile (·.1 != name) = [] := by simp
  have hlookup : ((name, template) :: entries).lookup name = some template := by simp
  rw [captured?, hbefore, hlookup, captureAll]
  simp only [h, Except.toOption, Option.map_some]

/-- Other names are captured in the scope that the first entry leaves. -/
theorem captured?_cons_of_ne {name other template text : String} (hne : other ≠ name)
    (h : Response.capture template body = .ok text) :
    captured? body ((name, template) :: entries) scope other =
      captured? body entries (scope.insert name (.str (Template.resolve scope text))) other := by
  have hbefore : ((name, template) :: entries).takeWhile (·.1 != other) =
      (name, template) :: entries.takeWhile (·.1 != other) := by
    simp [Ne.symm hne]
  have hlookup : ((name, template) :: entries).lookup other = entries.lookup other := by
    rw [List.lookup_cons, beq_false_of_ne hne]
  rw [captured?, hbefore, hlookup, captureAll, h]
  rfl

/-- **The values of a scope after capturing.** -/
theorem get?_captureAll (name : String) : ∀ {entries : List (String × String)} {scope : Scope},
    (entries.map Prod.fst).Nodup → captureAll body entries scope = .ok final →
      final.get? name = ((captured? body entries scope name).map .str).or (scope.get? name)
  | [], scope, _, h => by
    rw [captureAll] at h
    cases h
    rw [captured?_of_not_mem (by simp)]
    rfl
  | (first, template) :: rest, scope, hnodup, h => by
    obtain ⟨text, hcapture, hrest⟩ := captureAll_cons h
    rw [List.map_cons, List.nodup_cons] at hnodup
    rw [get?_captureAll name hnodup.2 hrest, OrderedMap.get?_insert]
    by_cases hname : name = first
    -- no later entry captures the name again
    · subst hname
      rw [captured?_of_not_mem hnodup.1, captured?_cons_self hcapture, if_pos (by simp)]
      rfl
    · rw [captured?_cons_of_ne hname hcapture, if_neg (by simpa using hname)]

end CommandBook.Invocation
