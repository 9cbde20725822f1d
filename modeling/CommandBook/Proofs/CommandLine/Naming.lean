import CommandBook.Proofs.Command.Name
import CommandBook.Proofs.CommandLine.Arguments
import Mathlib.Data.List.Nodup

/-!
# Names of arguments, and the command line

The name of a command is accepted only if its arguments have distinct names. The command line does
not go by these names but by folded ones, and it keeps one name for what the program hands to a
command. So an accepted name may still have arguments that meet there. `Parameter.AreApart` says
that none do, and then, and only then, does each argument get the word that is meant for it.

## Main statements

* `CommandName.nodup_arguments` — the arguments of an accepted name
* `Place.binds_of_areApart`, `Place.areApart_of_binds` — both ways of the equivalence
* `Place.binds_iff_areApart` — when every argument gets its word
-/

namespace CommandBook

namespace CommandName

variable {text : String} {n : CommandName}

/-- **The arguments of an accepted name** have distinct names, none of them empty. -/
theorem nodup_arguments (h : parse text = .ok n) :
    n.arguments.Nodup ∧ ∀ a ∈ n.arguments, a ≠ "" := by
  obtain ⟨parent, ts, ⟨ws, -, -, hgrammatical⟩, rfl⟩ := parse_eq_ok_iff.1 h
  have hinj : Function.Injective String.ofList := fun _ _ => String.ofList_inj.1
  have harguments : (ofTokens text parent ts).arguments =
      (mandatoryNames ts ++ optionalNames ts).map String.ofList := List.map_append.symm
  rw [harguments]
  refine ⟨hgrammatical.nodup.map hinj, fun a ha => ?_⟩
  obtain ⟨name, hname, rfl⟩ := List.mem_map.1 ha
  simpa using hgrammatical.ne_nil name hname

end CommandName

namespace Slots

variable {slots : Slots}

theorem mem_of_last? {name : String} {s : Parameter × Option String}
    (h : slots.last? name = some s) : s ∈ slots ∧ s.1.folded = name := by
  have hmem := List.mem_of_mem_getLast? h
  rw [List.mem_filter, beq_iff_eq] at hmem
  exact hmem

theorem fill_replicate (ps : List Parameter) (w : String) :
    fill ps (List.replicate ps.length w) = ps.map (·, some w) := by
  induction ps with
  | nil => rfl
  | cons p ps ih => rw [List.length_cons, List.replicate_succ, fill, ih, List.map_cons]

/-- What slots give to a variable they give by the last slot with some folded name. -/
theorem exists_last?_of_mem_bind {values : OrderedMap String String} {name : String}
    (h : slots.bind = .ok values) (hname : name ∈ values.keys) :
    ∃ s, s.1.variableName = name ∧ slots.last? s.1.folded = some s := by
  rw [bind] at h
  split at h
  · cases h
  cases h
  obtain ⟨e, he, rfl⟩ := List.mem_map.1 hname
  obtain ⟨t, -, hbinding⟩ := List.mem_filterMap.1 (OrderedMap.mem_of_mem_ofList he)
  obtain ⟨s, hlast, hvalue⟩ := Option.bind_eq_some_iff.1 hbinding
  obtain ⟨v, -, rfl⟩ := Option.map_eq_some_iff.1 hvalue
  refine ⟨s, rfl, ?_⟩
  rw [(mem_of_last? hlast).2, hlast]

/-- **Slots that all give something do not meet.** -/
theorem nodup_of_bind {values : OrderedMap String String}
    (hnames : (slots.map (·.1.variableName)).Nodup) (h : slots.bind = .ok values)
    (hall : ∀ s ∈ slots, s.1.variableName ∈ values.keys) : (slots.map (·.1.folded)).Nodup := by
  have hlast : ∀ s ∈ slots, slots.last? s.1.folded = some s := by
    intro s hs
    obtain ⟨t, hname, hlast⟩ := exists_last?_of_mem_bind h (hall s hs)
    obtain rfl : t = s :=
      List.inj_on_of_nodup_map hnames (mem_of_last? hlast).1 hs hname
    exact hlast
  refine hnames.of_map.map_on fun s hs t ht heq => ?_
  have hsame := hlast s hs
  rw [heq, hlast t ht] at hsame
  exact (Option.some.inj hsame).symm

end Slots

namespace Place

variable {p : Place} {n : CommandName} {text : String} {words : List String}

/-- A place gives every argument of a name the word that is meant for it, whenever the number of
words fits, and hands them to the command. -/
def Binds (p : Place) (n : CommandName) : Prop :=
  ∀ mixed words, (∀ w ∈ words, IsBareWord w) → n.Takes words →
    ∃ values : OrderedMap String String, values.entries = n.arguments.zip words ∧
      p.read mixed words = .ok { values, rest := [] } ∧ p.handOver = .ok ()

/-- Where reading goes through, the slots gave all values. -/
theorem bind_of_result_read {mixed : Bool} {r : PlaceWords} (h : ∀ w ∈ words, IsBareWord w)
    (hread : (p.read mixed words).result = .ok r) :
    (Slots.fill p.parameters words).bind = .ok r.values := by
  rw [read_of_bare rfl mixed h, Step.result_bind_eq_ok_iff] at hread
  obtain ⟨values, hvalues, hread⟩ := hread
  cases hread
  cases hbind : (Slots.fill p.parameters words).bind with
  | error flaw =>
    rw [hbind] at hvalues
    cases hvalues
  | ok values' =>
    rw [hbind] at hvalues
    cases hvalues
    rfl

/-- **Arguments that do not meet** get their words. -/
theorem binds_of_areApart (hp : p.parameters = Parameter.ofName n) (hnames : n.arguments.Nodup)
    (h : Parameter.AreApart (Parameter.ofName n)) : p.Binds n := by
  intro mixed words hwords htakes
  have hread := read_of_takes hp h.nodup mixed hwords htakes
  have hentries := OrderedMap.entries_ofList (nodup_map_fst_zip words hnames)
  exact ⟨_, hentries, hread, handOver_of_not_mem (hp ▸ h.reserved)⟩

/-- **Arguments that get their words do not meet.** -/
theorem areApart_of_binds (hp : p.parameters = Parameter.ofName n) (hnames : n.arguments.Nodup)
    (h : p.Binds n) : Parameter.AreApart (Parameter.ofName n) := by
  -- every argument gets the same word
  have hlength : n.arguments.length = (Parameter.ofName n).length := by
    simp [CommandName.arguments, Parameter.ofName]
  have htakes : n.Takes (List.replicate (Parameter.ofName n).length "x") := by
    simp [CommandName.Takes, Parameter.ofName]
  have hbare : ∀ w ∈ List.replicate (Parameter.ofName n).length "x", IsBareWord w := by
    intro w hw
    rw [List.eq_of_mem_replicate hw]
    decide
  obtain ⟨values, hvalues, hread, hhand⟩ := h true _ hbare htakes
  have hbind := bind_of_result_read hbare (congrArg Step.result hread)
  rw [hp, Slots.fill_replicate] at hbind
  have hkeys : values.keys = n.arguments := by
    rw [OrderedMap.keys, hvalues, List.map_fst_zip (by simp [hlength])]
  constructor
  case nodup =>
    have hvariables : ((Parameter.ofName n).map (·, some "x")).map (·.1.variableName) =
        n.arguments := by
      rw [← Slots.map_variableName_ofName, List.map_map]
      rfl
    have hslots : (((Parameter.ofName n).map (·, some "x")).map (·.1.folded)).Nodup := by
      refine Slots.nodup_of_bind (by rw [hvariables]; exact hnames) hbind fun s hs => ?_
      rw [hkeys, ← hvariables]
      exact List.mem_map_of_mem hs
    rw [List.map_map] at hslots
    exact hslots
  case reserved =>
    intro hmem
    obtain ⟨q, hq, hfolded⟩ := List.mem_map.1 hmem
    have hany : p.parameters.any (·.folded == reservedName) = true :=
      List.any_eq_true.2 ⟨q, hp ▸ hq, beq_iff_eq.2 hfolded⟩
    rw [handOver, if_pos hany] at hhand
    cases hhand

/-- **When every argument gets its word.** The arguments of an accepted name have distinct names,
none of them empty. Whether it is the name of a subcommand or of a parent, its command gives each
argument the word that is meant for it exactly if the arguments do not meet on the command line. -/
theorem binds_iff_areApart {e : CommandEntry} (hparse : CommandName.parse text = .ok e.name) :
    (e.name.arguments.Nodup ∧ ∀ a ∈ e.name.arguments, a ≠ "") ∧
      (∀ path, (ofEntry path e).Binds e.name ↔ Parameter.AreApart (Parameter.ofName e.name)) ∧
      ∀ path node, node.own = some e →
        ((ofNode path node).Binds e.name ↔ Parameter.AreApart (Parameter.ofName e.name)) := by
  have hnames := (CommandName.nodup_arguments hparse).1
  refine ⟨CommandName.nodup_arguments hparse, fun path => ?_, fun path node hown => ?_⟩
  · have hp := parameters_ofEntry path e
    exact ⟨areApart_of_binds hp hnames, binds_of_areApart hp hnames⟩
  · have hp := parameters_ofNode hown path
    exact ⟨areApart_of_binds hp hnames, binds_of_areApart hp hnames⟩

/-- An entry with two mandatory arguments and no definition. -/
def pairEntry (left right : String) : CommandEntry where
  name := ⟨s!"pair <{left}> <{right}>", "pair", none, [left, right], []⟩
  definition := { name := s!"pair <{left}> <{right}>" }

/-- Arguments with names that differ by more than case get their words. -/
theorem binds_pair :
    CommandName.parse "pair <left> <right>" = .ok (pairEntry "left" "right").name ∧
      (ofEntry "yamlcmd pair" (pairEntry "left" "right")).Binds
        (pairEntry "left" "right").name := by
  have hparse : CommandName.parse "pair <left> <right>" = .ok (pairEntry "left" "right").name := by
    cbv
  have hapart : Parameter.AreApart (Parameter.ofName (pairEntry "left" "right").name) :=
    ⟨by decide +kernel, by decide +kernel⟩
  obtain ⟨-, hentry, -⟩ := binds_iff_areApart hparse
  exact ⟨hparse, (hentry "yamlcmd pair").2 hapart⟩

/-- A name whose arguments differ by case is accepted, but the word for the first one is lost. -/
theorem read_pair_of_case :
    CommandName.parse "pair <a> <A>" = .ok (pairEntry "a" "A").name ∧
      (pairEntry "a" "A").name.arguments = ["a", "A"] ∧
      ((Parameter.ofName (pairEntry "a" "A").name).map Parameter.folded) = ["a", "a"] ∧
      ((ofEntry "yamlcmd pair" (pairEntry "a" "A")).read true ["1", "2"]).result.toOption.map
        (·.values.entries) = some [("A", "2")] :=
  ⟨by cbv, rfl, by decide +kernel, by decide +kernel⟩

end Place

end CommandBook
