import CommandBook.Proofs.Config.Sections
import CommandBook.Proofs.Template.Environment
import CommandBook.Proofs.Template.Placeholder

/-!
# Variables of a document

The value of a variable is settled when the document is read: references to the environment are
replaced then, and those to variables that are not set stay as they are written. A placeholder for
the variable stands for that value as it is. A reference that was left in it looks like a
placeholder, but it is none, whatever the scope has for its name.

## Main statements

* `Config.resolve_variable` — a placeholder for a variable of a document
-/

namespace CommandBook.Config

open Template

variable {env : Environment} {files : FileTree} {path : FilePath} {config : Config}

/-- **A placeholder for a variable of a document** stands for the value of the variable with the
references to the environment replaced, in every scope that has the variable of the document. So a
reference to a variable that is not set in the environment stays in the text, with what is in front
of it and behind it, whatever the scope has for its name. -/
theorem resolve_variable (hload : load env files (some path) = .ok config) :
    ∃ directory fields environment given, documentAt files path = .ok (directory, fields) ∧
      environmentOf env files directory fields = .ok environment ∧
      HasTexts path.toString "variables" fields given ∧
      ∀ x raw, IsName x.toList → given.get? x = some raw →
        ∀ scope : Scope, scope.get? x = config.run.defaults.get? x →
          resolve scope ("$" ++ x) = expand environment raw ∧
          ∀ s y t, raw = s ++ "$" ++ y ++ t → IsIdentifier y.toList → EndsIdentifier t.toList →
            IsApart s.toList ("$" ++ y ++ t).toList → environment.get? y = none →
              resolve scope ("$" ++ x) =
                expand environment s ++ "$" ++ y ++ expand environment t := by
  obtain ⟨directory, fields, environment, given, hdocument, hholds⟩ := load_eq_ok_iff.1 hload
  refine ⟨directory, fields, environment, given, hdocument, hholds.environmentOf_eq,
    hholds.hasVariables, ?_⟩
  intro x raw hx hraw scope hscope
  have hvalue : scope.get? x = some (.str (expand environment raw)) := by
    rw [hscope, hholds.defaults_eq, OrderedMap.get?_mapValues, hraw]
    rfl
  have hresolve := resolve_text x hx hvalue
  refine ⟨hresolve, ?_⟩
  rintro s y t rfl hy ht happart hunset
  rw [hresolve, expand_unset hy ht hunset happart]

/-! ## A reference to an argument -/

/-- A document with a variable whose value looks like one with a placeholder for an argument. -/
def urlFiles : FileTree :=
  FileTree.write ⟨.empty, [], ["home"]⟩ ["yamlcmd.yaml"]
    "variables:\n  url: $host/x\ncommands:\n  go <host>:\n    response: $url\n"

def urlPath : FilePath := .ofString "yamlcmd.yaml"

theorem isName_url : IsName "url".toList := ⟨by decide, List.all_eq_true.1 (by decide)⟩

theorem exists_load_url : ∃ config, load .empty urlFiles (some urlPath) = .ok config := by
  have hread : (load .empty urlFiles (some urlPath)).toOption.isSome := by decide +kernel
  obtain ⟨config, hconfig⟩ := Option.isSome_iff_exists.1 hread
  exact ⟨config, eq_ok_of_toOption hconfig⟩

/-- What the document holds, read without an environment. -/
theorem eq_of_documentAt_url {directory : Location} {fields : Fields} {environment : Environment}
    {given : OrderedMap String String}
    (hdocument : documentAt urlFiles urlPath = .ok (directory, fields))
    (henvironment : environmentOf .empty urlFiles directory fields = .ok environment)
    (htexts : HasTexts urlPath.toString "variables" fields given) :
    environment = .empty ∧ given = .ofList [("url", "$host/x")] := by
  have hread : (documentAt urlFiles urlPath).toOption.map (fun document =>
      ((environmentOf .empty urlFiles document.1 document.2).toOption.map (·.entries),
        (sectionOf urlPath.toString "variables" document.2).toOption.map fun content =>
          content.entries.map fun e => (e.1, e.2.text))) =
        some (some [], some [("url", "$host/x")]) := by decide +kernel
  obtain ⟨content, hcontent, -, rfl⟩ := htexts
  rw [hdocument] at hread
  simp only [Except.toOption, Option.map_some, henvironment, hcontent, Option.some.injEq,
    Prod.mk.injEq] at hread
  exact ⟨OrderedMap.ext hread.1, OrderedMap.ext hread.2⟩

/-- The value stays what it is in every scope that has it. -/
theorem resolve_variable_url : ∃ config, load .empty urlFiles (some urlPath) = .ok config ∧
    ∀ scope : Scope, scope.get? "url" = config.run.defaults.get? "url" →
      resolve scope "$url" = "$host/x" := by
  obtain ⟨config, hload⟩ := exists_load_url
  obtain ⟨directory, fields, environment, given, hdocument, henvironment, htexts, hvariable⟩ :=
    resolve_variable hload
  obtain ⟨rfl, rfl⟩ := eq_of_documentAt_url hdocument henvironment htexts
  refine ⟨config, hload, fun scope hscope => ?_⟩
  have hhost : IsIdentifier "host".toList := by
    refine ⟨by decide, ?_, List.all_eq_true.1 (by decide)⟩
    rintro c ⟨⟩
    rfl
  have happart : IsApart "".toList ("$" ++ "host" ++ "/x").toList := by
    rintro (_ | ⟨c, before⟩) name heq <;> cases heq
  obtain ⟨-, hunset⟩ := hvariable "url" "$host/x" isName_url rfl scope hscope
  have hends : EndsIdentifier "/x".toList := by
    rintro c ⟨⟩
    rfl
  exact hunset "" "host" "/x" rfl hhost hends happart rfl

/-- With an argument of that name the value still has the reference, and not the argument. -/
theorem resolve_variable_ne : ∃ config scope, load .empty urlFiles (some urlPath) = .ok config ∧
    scope = Scope.layered config.run.defaults .empty (.ofList [("host", .str "h")]) ∧
    scope.get? "host" = some (.str "h") ∧ resolve scope "$url" = "$host/x" ∧
      resolve scope "$url" ≠ "h/x" := by
  obtain ⟨config, hload⟩ := exists_load_url
  obtain ⟨directory, fields, environment, given, hdocument, hholds⟩ := load_eq_ok_iff.1 hload
  obtain ⟨rfl, rfl⟩ :=
    eq_of_documentAt_url hdocument hholds.environmentOf_eq hholds.hasVariables
  have hexpand : expand .empty "$host/x" = "$host/x" := by decide +kernel
  have hdefault : config.run.defaults.get? "url" = some (.str "$host/x") := by
    rw [hholds.defaults_eq, OrderedMap.get?_mapValues]
    exact congrArg (fun text => some (Value.str text)) hexpand
  have hget : ∀ name, (Scope.layered config.run.defaults .empty (.ofList [("host", .str "h")])).get?
      name = ((OrderedMap.ofList [("host", Value.str "h")]).get? name).or
        (config.run.defaults.get? name) := by
    intro name
    rw [Scope.layered, OrderedMap.get?_union, OrderedMap.get?_union]
    rfl
  have hurl : resolve (Scope.layered config.run.defaults .empty (.ofList [("host", .str "h")]))
      "$url" = "$host/x" := by
    refine resolve_text "url" isName_url ?_
    rw [hget, hdefault]
    rfl
  refine ⟨config, _, hload, rfl, ?_, hurl, ?_⟩
  · rw [hget]
    rfl
  · rw [hurl]
    decide

end CommandBook.Config
