import CommandBook.Command.Name
import CommandBook.Proofs.Text.Words
import Mathlib.Data.List.Forall2

/-!
# The grammar of command names

A name is a row of words, the first of which is the parent. Each word behind it spells a token: an
argument between brackets, or a plain word, which is all that is no argument. A row of tokens is a
name if no mandatory argument stands behind an optional one and the arguments, question marks at
their ends taken off, are distinct and not empty. Reading accepts these names and no others, and
what it gives depends on the tokens alone: how plain words and arguments are mixed, and which blanks
stand between them, makes no difference.

## Main statements

* `Token.spells_iff` — the token that a word spells
* `ofTokens?_eq_ok_iff`, `checkArguments_eq_ok_iff` — the two checks
* `parse_eq_ok_iff` — the names that are accepted, and their parts
* `parse_of_writes` — parts that are written and read again
* `parse_grammar` — all of this
-/

namespace CommandBook

/-! ## Tokens -/

/-- A text between two brackets that it does not hold itself. -/
structure IsEnclosed (opening closing : Char) (inner w : List Char) : Prop where
  eq : w = opening :: inner ++ [closing]
  ne_nil : inner ≠ []
  opening_not_mem : opening ∉ inner
  closing_not_mem : closing ∉ inner

theorem enclosed?_eq_some_iff {opening closing : Char} {inner w : List Char} :
    enclosed? opening closing w = some inner ↔ IsEnclosed opening closing inner w := by
  have hany : ∀ {cs : List Char}, (cs.any fun d => d == opening || d == closing) = false ↔
      opening ∉ cs ∧ closing ∉ cs := by
    intro cs
    simp only [List.any_eq_false, Bool.or_eq_true, beq_iff_eq, not_or]
    constructor
    · intro h
      exact ⟨fun hmem => (h _ hmem).1 rfl, fun hmem => (h _ hmem).2 rfl⟩
    · rintro ⟨hopening, hclosing⟩ d hd
      exact ⟨fun heq => hopening (heq ▸ hd), fun heq => hclosing (heq ▸ hd)⟩
  cases w with
  | nil =>
    constructor
    · intro h
      cases h
    · intro h
      cases h.eq
  | cons c rest =>
    rw [enclosed?]
    constructor
    · intro h
      split at h
      · next hc =>
        obtain ⟨rfl, hlast⟩ := hc
        dsimp only at h
        split at h
        · cases h
        next hinner =>
        cases h
        simp only [Bool.not_eq_true, Bool.or_eq_false_iff] at hinner
        obtain ⟨hopening, hclosing⟩ := hany.1 hinner.2
        refine ⟨?_, by simpa using hinner.1, hopening, hclosing⟩
        rw [List.cons_append, ← List.dropLast_append_getLast? _ hlast, List.dropLast_concat]
      · cases h
    · rintro ⟨heq, hne, hopening, hclosing⟩
      obtain ⟨rfl, rfl⟩ : c = opening ∧ rest = inner ++ [closing] := by simpa using heq
      have hnone := hany.2 ⟨hopening, hclosing⟩
      simp [hne, hnone]

/-- What a word has to be in order to spell a token. -/
inductive Token.Spells : Token → List Char → Prop
  | mandatory {group w : List Char} (h : IsEnclosed '<' '>' group w) : Spells (.mandatory group) w
  | optional {group w : List Char} (h : IsEnclosed '[' ']' group w) : Spells (.optional group) w
  | word {w : List Char} (hmandatory : ∀ group, ¬IsEnclosed '<' '>' group w)
      (hoptional : ∀ group, ¬IsEnclosed '[' ']' group w) : Spells (.word w) w

/-- **The token that a word spells.** -/
theorem Token.spells_iff {t : Token} {w : List Char} : t.Spells w ↔ Token.ofWord w = t := by
  have hnone : ∀ {opening closing : Char}, enclosed? opening closing w = none ↔
      ∀ group, ¬IsEnclosed opening closing group w := by
    intro opening closing
    simp only [← enclosed?_eq_some_iff, Option.eq_none_iff_forall_ne_some, ne_eq]
  constructor
  · intro h
    cases h with
    | mandatory h => simp only [Token.ofWord, enclosed?_eq_some_iff.2 h]
    | optional h =>
      -- a word that ends with one bracket does not end with another
      have hmandatory : enclosed? '<' '>' w = none := by
        refine hnone.2 fun group h' => ?_
        have hhead := h.eq.symm.trans h'.eq
        simp at hhead
      simp only [Token.ofWord, hmandatory, enclosed?_eq_some_iff.2 h]
    | word hmandatory hoptional =>
      simp only [Token.ofWord, hnone.2 hmandatory, hnone.2 hoptional]
  · rintro rfl
    unfold Token.ofWord
    cases hmandatory : enclosed? '<' '>' w with
    | some group => exact .mandatory (enclosed?_eq_some_iff.1 hmandatory)
    | none =>
      cases hoptional : enclosed? '[' ']' w with
      | some group => exact .optional (enclosed?_eq_some_iff.1 hoptional)
      | none => exact .word (hnone.1 hmandatory) (hnone.1 hoptional)

theorem Token.forall₂_spells_iff {ts : List Token} {ws : List (List Char)} :
    List.Forall₂ Token.Spells ts ws ↔ ws.map Token.ofWord = ts := by
  constructor
  · intro h
    induction h with
    | nil => rfl
    | cons hspells _ ih => rw [List.map_cons, Token.spells_iff.1 hspells, ih]
  · rintro rfl
    exact List.forall₂_map_left_iff.2 (List.forall₂_same.2 fun w _ => Token.spells_iff.2 rfl)

namespace Token

def isMandatory : Token → Bool
  | .mandatory _ => true
  | _ => false

def isOptional : Token → Bool
  | .optional _ => true
  | _ => false

end Token

/-- The plain words of a row of tokens, in order. -/
def plainWords (ts : List Token) : List (List Char) :=
  ts.filterMap fun
    | .word w => some w
    | _ => none

/-- The names of the mandatory arguments, in order. -/
def mandatoryNames (ts : List Token) : List (List Char) :=
  ts.filterMap fun
    | .mandatory group => some (argumentName group)
    | _ => none

/-- The names of the optional arguments, in order. -/
def optionalNames (ts : List Token) : List (List Char) :=
  ts.filterMap fun
    | .optional group => some (argumentName group)
    | _ => none

/-- A row of tokens that makes a name. -/
structure IsGrammatical (ts : List Token) : Prop where
  ordered : ts.Pairwise fun s t => s.isOptional → t.isMandatory = false
  ne_nil : ∀ a ∈ mandatoryNames ts ++ optionalNames ts, a ≠ []
  nodup : (mandatoryNames ts ++ optionalNames ts).Nodup

namespace CommandName

variable {text : String} {ts : List Token}

/-- The name that a parent and the tokens behind it make. -/
def ofTokens (text : String) (parent : List Char) (ts : List Token) : CommandName where
  text
  parent := String.ofList parent
  subcommand :=
    if plainWords ts = [] then none
    else some (String.ofList (List.intercalate ['-'] (plainWords ts)))
  mandatory := (mandatoryNames ts).map String.ofList
  optional := (optionalNames ts).map String.ofList

/-! ## The two checks -/

/-- **Sorting tokens** succeeds if no mandatory argument comes behind an optional one. -/
theorem ofTokens?_eq_ok_iff {g g' : Groups} : Groups.ofTokens? text g ts = .ok g' ↔
    ((g.optional ≠ [] → ∀ t ∈ ts, t.isMandatory = false) ∧
      ts.Pairwise fun s t => s.isOptional → t.isMandatory = false) ∧
    g' = ⟨g.words ++ plainWords ts, g.mandatory ++ mandatoryNames ts,
      g.optional ++ optionalNames ts⟩ := by
  induction ts generalizing g with
  | nil =>
    simp only [Groups.ofTokens?, plainWords, mandatoryNames, optionalNames, List.filterMap_nil,
      List.append_nil, Except.ok.injEq, eq_comm]
    simp
  | cons t ts ih =>
    cases t with
    | word w =>
      rw [Groups.ofTokens?, ih]
      simp [Token.isMandatory, Token.isOptional, plainWords, mandatoryNames, optionalNames]
    | optional group =>
      rw [Groups.ofTokens?, ih]
      simp only [List.pairwise_cons, Token.isOptional, List.mem_cons, forall_eq_or_imp,
        Token.isMandatory]
      constructor
      · rintro ⟨⟨hnone, hordered⟩, rfl⟩
        have hnone := hnone (by simp)
        exact ⟨⟨fun _ => ⟨trivial, hnone⟩, fun t ht _ => hnone t ht, hordered⟩,
          by simp [plainWords, mandatoryNames, optionalNames]⟩
      · rintro ⟨⟨-, hnone, hordered⟩, rfl⟩
        exact ⟨⟨fun _ t ht => hnone t ht trivial, hordered⟩,
          by simp [plainWords, mandatoryNames, optionalNames]⟩
    | mandatory group =>
      rw [Groups.ofTokens?]
      by_cases hoptional : g.optional = []
      · rw [if_pos (by simp [hoptional]), ih]
        simp [hoptional, Token.isMandatory, Token.isOptional, plainWords, mandatoryNames,
          optionalNames]
      · rw [if_neg (by simpa using hoptional)]
        simp [hoptional, Token.isMandatory]

/-- **The check of the names** passes distinct ones that are not empty, and no others. -/
theorem checkArguments_eq_ok_iff {args : List (List Char)} : ∀ {seen : List (List Char)},
    checkArguments text seen args = .ok () ↔
      args.Nodup ∧ (∀ a ∈ args, a ≠ []) ∧ ∀ a ∈ args, a ∉ seen := by
  induction args with
  | nil => simp [checkArguments]
  | cons a rest ih =>
    intro seen
    rw [checkArguments]
    by_cases hempty : a = []
    · simp [hempty]
    rw [if_neg (by simpa using hempty)]
    by_cases hseen : a ∈ seen
    · simp [hseen]
    rw [if_neg (by simpa using hseen), ih]
    simp only [List.nodup_cons, List.forall_mem_cons, List.mem_append, List.mem_singleton, not_or]
    constructor
    · rintro ⟨hnodup, hnonempty, hunseen⟩
      exact ⟨⟨fun ha => (hunseen a ha).2 rfl, hnodup⟩, ⟨hempty, hnonempty⟩, hseen,
        fun b hb => (hunseen b hb).1⟩
    · rintro ⟨⟨ha, hnodup⟩, ⟨-, hnonempty⟩, -, hunseen⟩
      exact ⟨hnodup, hnonempty, fun b hb => ⟨hunseen b hb, fun heq => ha (heq ▸ hb)⟩⟩

/-! ## Reading -/

/-- A text that writes a parent and words that spell a grammatical row of tokens. -/
def IsName (text : String) (parent : List Char) (ts : List Token) : Prop :=
  ∃ ws, Text.Writes (parent :: ws) text.toList ∧ List.Forall₂ Token.Spells ts ws ∧ IsGrammatical ts

theorem parse_of_isName {parent : List Char} (h : IsName text parent ts) :
    parse text = .ok (ofTokens text parent ts) := by
  obtain ⟨ws, hwrites, hspells, hgrammatical⟩ := h
  obtain rfl := Token.forall₂_spells_iff.1 hspells
  have hsorted : Groups.ofTokens? text {} (ws.map Token.ofWord) =
      .ok ⟨plainWords (ws.map Token.ofWord), mandatoryNames (ws.map Token.ofWord),
        optionalNames (ws.map Token.ofWord)⟩ :=
    ofTokens?_eq_ok_iff.2 ⟨⟨fun h => absurd rfl h, hgrammatical.ordered⟩, rfl⟩
  have hpassed : checkArguments text [] (mandatoryNames (ws.map Token.ofWord) ++
      optionalNames (ws.map Token.ofWord)) = .ok () :=
    checkArguments_eq_ok_iff.2
      ⟨hgrammatical.nodup, hgrammatical.ne_nil, fun _ _ => List.not_mem_nil⟩
  rw [parse, Text.writes_iff.1 hwrites]
  simp only [hsorted, bind, Except.bind, hpassed]
  simp [ofTokens, pure, Except.pure]

/-- **The names that are accepted, and their parts.** -/
theorem parse_eq_ok_iff {n : CommandName} :
    parse text = .ok n ↔ ∃ parent ts, IsName text parent ts ∧ n = ofTokens text parent ts := by
  constructor
  · intro h
    have hparse := h
    rw [parse] at h
    split at h
    · cases h
    next parent ws hwords =>
    cases hgroups : Groups.ofTokens? text {} (ws.map Token.ofWord) with
    | error e =>
      rw [hgroups] at h
      cases h
    | ok g =>
      obtain ⟨⟨-, hordered⟩, rfl⟩ := ofTokens?_eq_ok_iff.1 hgroups
      simp only [hgroups, bind, Except.bind, List.nil_append] at h
      split at h
      · cases h
      next hcheck =>
      obtain ⟨hnodup, hnonempty, -⟩ := checkArguments_eq_ok_iff.1 hcheck
      have hname : IsName text parent (ws.map Token.ofWord) :=
        ⟨ws, Text.writes_iff.2 hwords, Token.forall₂_spells_iff.2 rfl, hordered, hnonempty, hnodup⟩
      rw [parse_of_isName hname] at hparse
      exact ⟨parent, _, hname, (Except.ok.inj hparse).symm⟩
  · rintro ⟨parent, ts, hname, rfl⟩
    exact parse_of_isName hname

/-! ## Writing -/

/-- The parts of a name. -/
structure Parts where
  parent : List Char
  words : List (List Char)
  mandatory : List (List Char)
  optional : List (List Char)

namespace Parts

variable {p : Parts}

/-- The tokens behind the parent: plain words, mandatory arguments, optional ones. -/
def tokens (p : Parts) : List Token :=
  p.words.map .word ++ p.mandatory.map .mandatory ++ p.optional.map .optional

/-- The words of the name as they are written. -/
def spelled (p : Parts) : List (List Char) :=
  p.parent :: (p.words ++ p.mandatory.map (fun a => '<' :: a ++ ['>']) ++
    p.optional.map fun a => '[' :: a ++ [']'])

/-- The name as it is written, with single blanks between the words. -/
def write (p : Parts) : String := String.ofList (List.intercalate [' '] p.spelled)

/-- The name with these parts. -/
def name (text : String) (p : Parts) : CommandName where
  text
  parent := String.ofList p.parent
  subcommand :=
    if p.words = [] then none else some (String.ofList (List.intercalate ['-'] p.words))
  mandatory := p.mandatory.map String.ofList
  optional := p.optional.map String.ofList

/-- An argument that can stand between two brackets as it is. -/
structure IsArgument (opening closing : Char) (a : List Char) : Prop where
  isWord : Text.IsWord a
  opening_not_mem : opening ∉ a
  closing_not_mem : closing ∉ a
  unmarked : a.getLast? ≠ some '?'

/-- Parts that can be written: the parent is a word, plain words are words but no arguments, and the
names of the arguments are distinct. -/
structure IsValid (p : Parts) : Prop where
  parent : Text.IsWord p.parent
  words : ∀ w ∈ p.words, Text.IsWord w ∧ Token.Spells (.word w) w
  mandatory : ∀ a ∈ p.mandatory, IsArgument '<' '>' a
  optional : ∀ a ∈ p.optional, IsArgument '[' ']' a
  nodup : (p.mandatory ++ p.optional).Nodup

/-- A name that does not end with a question mark is kept whole. -/
theorem IsArgument.argumentName_eq {opening closing : Char} {a : List Char}
    (h : IsArgument opening closing a) : argumentName a = a := by
  have hhead := h.unmarked
  rw [← List.head?_reverse] at hhead
  rw [argumentName, Text.dropTrailing]
  cases hreverse : a.reverse with
  | nil => simpa using hreverse.symm
  | cons c rest =>
    rw [hreverse] at hhead
    rw [List.dropWhile_cons_of_neg (by simpa using hhead), ← hreverse, List.reverse_reverse]

theorem IsArgument.isEnclosed {opening closing : Char} {a : List Char}
    (h : IsArgument opening closing a) :
    IsEnclosed opening closing a (opening :: a ++ [closing]) :=
  ⟨rfl, h.isWord.ne_nil, h.opening_not_mem, h.closing_not_mem⟩

theorem IsArgument.isWord_enclosed {opening closing : Char} {a : List Char}
    (h : IsArgument opening closing a) (hopening : Text.isBlank opening = false)
    (hclosing : Text.isBlank closing = false) : Text.IsWord (opening :: a ++ [closing]) := by
  refine ⟨by simp, fun c hc => ?_⟩
  simp only [List.cons_append, List.mem_cons, List.mem_append, List.not_mem_nil, or_false] at hc
  rcases hc with rfl | hc | rfl
  · exact hopening
  · exact h.isWord.not_isBlank c hc
  · exact hclosing

theorem map_argumentName_eq {opening closing : Char} {as : List (List Char)}
    (h : ∀ a ∈ as, IsArgument opening closing a) : as.map argumentName = as := by
  calc as.map argumentName = as.map id :=
        List.map_congr_left fun a ha => (h a ha).argumentName_eq
    _ = as := List.map_id as

theorem plainWords_tokens (p : Parts) : plainWords p.tokens = p.words := by
  simp [plainWords, tokens, List.filterMap_append, List.filterMap_map]

theorem IsValid.mandatoryNames_tokens (h : p.IsValid) : mandatoryNames p.tokens = p.mandatory := by
  simpa [mandatoryNames, tokens, List.filterMap_append, List.filterMap_map, Function.comp_def]
    using map_argumentName_eq h.mandatory

theorem IsValid.optionalNames_tokens (h : p.IsValid) : optionalNames p.tokens = p.optional := by
  simpa [optionalNames, tokens, List.filterMap_append, List.filterMap_map, Function.comp_def]
    using map_argumentName_eq h.optional

/-- Parts that can be written make a grammatical row of tokens. -/
theorem IsValid.isGrammatical (h : p.IsValid) : IsGrammatical p.tokens := by
  constructor
  case ordered =>
    -- the optional arguments come last
    have hfront : ∀ s ∈ p.words.map Token.word ++ p.mandatory.map Token.mandatory,
        s.isOptional = false := by
      intro s hs
      simp only [List.mem_append, List.mem_map] at hs
      rcases hs with ⟨w, -, rfl⟩ | ⟨a, -, rfl⟩ <;> rfl
    have hback : ∀ t ∈ p.optional.map Token.optional, t.isMandatory = false := by
      intro t ht
      obtain ⟨a, -, rfl⟩ := List.mem_map.1 ht
      rfl
    refine List.pairwise_append.2 ⟨?_, ?_, fun s hs t ht _ => hback t ht⟩
    · refine List.pairwise_of_forall_mem_list fun s hs t _ hoptional => ?_
      rw [hfront s hs] at hoptional
      cases hoptional
    · exact List.pairwise_of_forall_mem_list fun s _ t ht _ => hback t ht
  case ne_nil =>
    rw [h.mandatoryNames_tokens, h.optionalNames_tokens]
    intro a ha
    rcases List.mem_append.1 ha with ha | ha
    · exact (h.mandatory a ha).isWord.ne_nil
    · exact (h.optional a ha).isWord.ne_nil
  case nodup =>
    rw [h.mandatoryNames_tokens, h.optionalNames_tokens]
    exact h.nodup

theorem IsValid.ofTokens_eq (h : p.IsValid) (text : String) :
    ofTokens text p.parent p.tokens = p.name text := by
  rw [ofTokens, plainWords_tokens, h.mandatoryNames_tokens, h.optionalNames_tokens]
  rfl

/-- The written words spell the tokens. -/
theorem IsValid.spells (h : p.IsValid) : List.Forall₂ Token.Spells p.tokens p.spelled.tail := by
  have hrow : ∀ {ws : List (List Char)} {t : List Char → Token} {w : List Char → List Char},
      (∀ a ∈ ws, (t a).Spells (w a)) → List.Forall₂ Token.Spells (ws.map t) (ws.map w) := by
    intro ws t w hspells
    rw [List.forall₂_map_left_iff, List.forall₂_map_right_iff, List.forall₂_same]
    exact hspells
  have hwords := hrow (w := id) fun a ha => (h.words a ha).2
  rw [List.map_id] at hwords
  refine List.rel_append (List.rel_append hwords ?_) ?_
  · exact hrow fun a ha => .mandatory (h.mandatory a ha).isEnclosed
  · exact hrow fun a ha => .optional (h.optional a ha).isEnclosed

theorem IsValid.isWord (h : p.IsValid) : ∀ w ∈ p.spelled, Text.IsWord w := by
  intro w hw
  simp only [spelled, List.mem_cons, List.mem_append, List.mem_map] at hw
  rcases hw with rfl | (hw | ⟨a, ha, rfl⟩) | ⟨a, ha, rfl⟩
  · exact h.parent
  · exact (h.words w hw).1
  · exact (h.mandatory a ha).isWord_enclosed (by decide) (by decide)
  · exact (h.optional a ha).isWord_enclosed (by decide) (by decide)

/-- **Parts that are written and read again**, whatever blanks they are written with. -/
theorem parse_of_writes (h : p.IsValid) {text : String}
    (hwrites : Text.Writes p.spelled text.toList) : parse text = .ok (p.name text) := by
  rw [parse_of_isName ⟨p.spelled.tail, hwrites, h.spells, h.isGrammatical⟩, h.ofTokens_eq]

end Parts

/-- **The grammar of command names.** A text is accepted exactly if it writes a parent and words
that spell a grammatical row of tokens, and its parts are those of the tokens; every other text is
refused with an error of the document. So parts that are written in the order of the grammar, with
any blanks or with single ones, are read again as they were. -/
theorem parse_grammar :
    (∀ text n, parse text = .ok n ↔
      ∃ parent ts, IsName text parent ts ∧ n = ofTokens text parent ts) ∧
    (∀ text, (∃ e : ConfigError, parse text = .error e) ↔ ¬∃ parent ts, IsName text parent ts) ∧
    ∀ p : Parts, p.IsValid →
      (∀ text, Text.Writes p.spelled text.toList → parse text = .ok (p.name text)) ∧
      parse p.write = .ok (p.name p.write) := by
  refine ⟨fun text n => parse_eq_ok_iff, fun text => ?_, fun p hp => ⟨?_, ?_⟩⟩
  · cases hparse : parse text with
    | error e =>
      have hnone : ¬∃ parent ts, IsName text parent ts := by
        rintro ⟨parent, ts, hname⟩
        rw [parse_of_isName hname] at hparse
        cases hparse
      simp [hnone]
    | ok n =>
      obtain ⟨parent, ts, hname, -⟩ := parse_eq_ok_iff.1 hparse
      simpa using ⟨parent, ts, hname⟩
  · exact fun text hwrites => Parts.parse_of_writes hp hwrites
  · refine Parts.parse_of_writes hp ?_
    rw [Parts.write, String.toList_ofList]
    exact Text.writes_intercalate p.spelled hp.isWord

/-- The parts of a name with two plain words and arguments of both kinds. -/
def profileParts : Parts where
  parent := "get".toList
  words := ["user".toList, "<profile".toList]
  mandatory := ["id".toList]
  optional := ["a<b".toList]

/-- A plain word may look like an argument that is not closed, and an argument may hold brackets of
the other kind. -/
theorem parse_grammar_profile :
    profileParts.IsValid ∧
      profileParts.write = "get user <profile <id> [a<b]" ∧
      parse "get user <profile <id> [a<b]" =
        .ok ⟨"get user <profile <id> [a<b]", "get", some "user-<profile", ["id"], ["a<b"]⟩ := by
  have hword : ∀ w ∈ profileParts.parent :: (profileParts.words ++ profileParts.mandatory ++
      profileParts.optional), Text.IsWord w := by decide
  have hvalid : profileParts.IsValid := by
    constructor
    case parent => exact hword _ (by decide)
    case words =>
      intro w hw
      refine ⟨hword w (by revert w; decide), Token.spells_iff.2 ?_⟩
      revert w
      decide
    case mandatory =>
      intro a ha
      have hword := hword a (by revert a; decide)
      obtain rfl := List.mem_singleton.1 ha
      exact ⟨hword, by decide, by decide, by decide⟩
    case optional =>
      intro a ha
      have hword := hword a (by revert a; decide)
      obtain rfl := List.mem_singleton.1 ha
      exact ⟨hword, by decide, by decide, by decide⟩
    case nodup => decide
  have hwrite : profileParts.write = "get user <profile <id> [a<b]" := by decide +kernel
  refine ⟨hvalid, hwrite, ?_⟩
  have hparse := (parse_grammar.2.2 profileParts hvalid).2
  rw [hwrite] at hparse
  exact hparse

end CommandName

end CommandBook
