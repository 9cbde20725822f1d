import CommandBook.Proofs.Json.Integers
import CommandBook.Template.Basic

/-!
# The numbers of JSON

A number has a sign, a whole part without leading zeros, and perhaps a fraction and an exponent. The
reader finds the longest one at the start of a text: the parts it finds make up a number, and what is
behind them begins no part that could still belong to it. The other way round such parts with such a
text behind them are what it finds.

## Main definitions

* `Numeral`, `Numeral.IsProper`, `Numeral.EndsBefore` — numbers, and where they end
* `Numeral.value` — what a number is read as

## Main statements

* `numberAt?_text_append` — the reader finds a number that ends where it does
* `exists_numeral_of_numberAt?` — what the reader finds is such a number
-/

namespace CommandBook.Json

open Decimal Template

/-! ## The parts of a number -/

/-- A row of ASCII digits, one at least. -/
structure IsDigits (cs : List Char) : Prop where
  ne_nil : cs ≠ []
  isDigit : ∀ c ∈ cs, c.isDigit

/-- The power of ten of a number: the letter, a sign perhaps, and digits. -/
structure Exponent where
  mark : Char
  sign : List Char
  digits : List Char

namespace Exponent

def text (e : Exponent) : List Char := e.mark :: (e.sign ++ e.digits)

def value (e : Exponent) : Int :=
  if e.sign == ['-'] then -(Decimal.value e.digits : Int) else Decimal.value e.digits

structure IsProper (e : Exponent) : Prop where
  mark : e.mark = 'e' ∨ e.mark = 'E'
  sign : e.sign = [] ∨ e.sign = ['-'] ∨ e.sign = ['+']
  digits : IsDigits e.digits

end Exponent

/-- A number by its parts. -/
structure Numeral where
  negative : Bool
  whole : List Char
  /-- The digits behind the point; without any there is no point either. -/
  fraction : List Char
  exponent : Option Exponent

/-- A point and the digits behind it. -/
def fractionText (digits : List Char) : List Char := if digits.isEmpty then [] else '.' :: digits

def exponentText (e : Option Exponent) : List Char := (e.map Exponent.text).getD []

namespace Numeral

def signText (n : Numeral) : List Char := if n.negative then ['-'] else []

/-- The text of a number. -/
def text (n : Numeral) : List Char :=
  n.signText ++ (n.whole ++ (fractionText n.fraction ++ exponentText n.exponent))

/-- A number with neither fraction nor exponent is an integer. -/
def isInteger (n : Numeral) : Bool := n.fraction.isEmpty && n.exponent.isNone

/-- What a number is read as; an integer may be too long. -/
def value (n : Numeral) : Except ReadFailure Json :=
  if n.isInteger then
    if maxDigits < n.whole.length then .error .numeralTooLong
    else .ok (.int (if n.negative then -(Decimal.value n.whole : Int) else Decimal.value n.whole))
  else
    .ok (.real (ofDecimal n.negative (Decimal.value (n.whole ++ n.fraction))
      ((n.exponent.map Exponent.value).getD 0 - n.fraction.length)))

/-- Zero, or digits of which the first is not zero. -/
def IsWhole (cs : List Char) : Prop := cs = ['0'] ∨ IsDigits cs ∧ cs.head? ≠ some '0'

structure IsProper (n : Numeral) : Prop where
  whole : IsWhole n.whole
  fraction : ∀ c ∈ n.fraction, c.isDigit
  exponent : ∀ e ∈ n.exponent, e.IsProper

end Numeral

/-! ## Where a number ends -/

/-- A row of digits ends in front of the text. -/
def EndsDigits (rest : List Char) : Prop := ∀ c ∈ rest.head?, c.isDigit = false

/-- The text begins with a point and a digit. -/
def BeginsFraction (rest : List Char) : Prop :=
  ∃ c more, rest = '.' :: c :: more ∧ c.isDigit

/-- The text begins with an exponent. -/
def BeginsExponent (rest : List Char) : Prop :=
  ∃ e : Exponent, e.IsProper ∧ ∃ more, rest = e.text ++ more

/-- What is behind a number begins no part that would still belong to it. Behind a zero as the whole
part come no more digits in any case. -/
structure Numeral.EndsBefore (n : Numeral) (rest : List Char) : Prop where
  whole : n.whole ≠ ['0'] → n.fraction = [] → n.exponent = none → EndsDigits rest
  fraction : n.fraction = [] → n.exponent = none → ¬ BeginsFraction rest
  fractionDigits : n.fraction ≠ [] → n.exponent = none → EndsDigits rest
  exponent : n.exponent = none → ¬ BeginsExponent rest
  exponentDigits : n.exponent ≠ none → EndsDigits rest

/-! ## The parts that the reader finds -/

/-- The whole part at the start of a text. -/
def wholeOf (cs : List Char) : List Char :=
  if cs.head? == some '0' then ['0'] else cs.takeWhile Char.isDigit

/-- The digits of the fraction at the start of a text. -/
def fractionOf (cs : List Char) : List Char :=
  if cs.head? == some '.' then (cs.drop 1).takeWhile Char.isDigit else []

/-- The sign behind the letter of an exponent. -/
def exponentSign (cs : List Char) : List Char :=
  ((cs.drop 1).take 1).filter fun c => c == '-' || c == '+'

/-- The digits of the exponent at the start of a text. -/
def exponentDigits (cs : List Char) : List Char :=
  if cs.head? == some 'e' || cs.head? == some 'E' then
    (cs.drop (1 + (exponentSign cs).length)).takeWhile Char.isDigit
  else []

/-- The exponent at the start of a text. -/
def exponentOf? (cs : List Char) : Option Exponent :=
  if (exponentDigits cs).isEmpty then none
  else cs.head?.map fun mark => ⟨mark, exponentSign cs, exponentDigits cs⟩

/-- What is behind the whole part. -/
def behindWhole (body : List Char) : List Char := body.drop (wholeOf body).length

/-- What is behind the fraction. -/
def behindFraction (body : List Char) : List Char :=
  (behindWhole body).drop (fractionText (fractionOf (behindWhole body))).length

/-- What is behind the exponent. -/
def behindExponent (body : List Char) : List Char :=
  (behindFraction body).drop (exponentText (exponentOf? (behindFraction body))).length

/-- The number at the start of a text without a sign. -/
def partsOf (negative : Bool) (body : List Char) : Numeral :=
  { negative
    whole := wholeOf body
    fraction := fractionOf (behindWhole body)
    exponent := exponentOf? (behindFraction body) }

theorem drop_fractionText (fraction rest : List Char) :
    (if fraction.isEmpty then rest else rest.drop (fraction.length + 1)) =
      rest.drop (fractionText fraction).length := by
  unfold fractionText
  split
  · rfl
  · rfl

/-- An exponent that is found has digits, and the letter in front of them. -/
theorem exponentOf?_eq_some {cs : List Char} {e : Exponent} (h : exponentOf? cs = some e) :
    e.digits ≠ [] ∧ e.sign = exponentSign cs ∧ e.digits = exponentDigits cs ∧
      cs.head? = some e.mark := by
  unfold exponentOf? at h
  split at h
  · cases h
  · next hne =>
    obtain ⟨mark, hmark, rfl⟩ := Option.map_eq_some_iff.1 h
    exact ⟨by simpa using hne, rfl, rfl, hmark⟩

theorem exponentOf?_eq_none_iff {cs : List Char} :
    exponentOf? cs = none ↔ exponentDigits cs = [] := by
  unfold exponentOf?
  constructor
  · intro h
    split at h
    · next hempty => simpa using hempty
    · have hnil : cs = [] := by simpa using h
      rw [hnil]
      rfl
  · intro h
    rw [h]
    rfl

theorem drop_exponentText (rest : List Char) :
    (if (exponentDigits rest).isEmpty then rest
      else rest.drop (1 + (exponentSign rest).length + (exponentDigits rest).length)) =
      rest.drop (exponentText (exponentOf? rest)).length := by
  cases he : exponentOf? rest with
  | none =>
    rw [exponentOf?_eq_none_iff.1 he]
    rfl
  | some e =>
    obtain ⟨hne, hsign, hdigits, -⟩ := exponentOf?_eq_some he
    rw [← hsign, ← hdigits, if_neg (by simpa using hne)]
    simp [exponentText, Exponent.text]
    congr 1
    omega

theorem value_exponentOf? (rest : List Char) :
    ((exponentOf? rest).map Exponent.value).getD 0 =
      if exponentSign rest == ['-'] then -(value (exponentDigits rest) : Int)
      else value (exponentDigits rest) := by
  cases he : exponentOf? rest with
  | none =>
    rw [exponentOf?_eq_none_iff.1 he]
    split <;> rfl
  | some e =>
    obtain ⟨-, hsign, hdigits, -⟩ := exponentOf?_eq_some he
    rw [← hsign, ← hdigits]
    rfl

/-- **What the reader finds**, by its parts. -/
theorem numberAt?_eq (cs : List Char) : numberAt? cs =
    let negative := cs.head? == some '-'
    let body := if negative then cs.drop 1 else cs
    if (wholeOf body).isEmpty then none
    else some ((partsOf negative body).value, cs.length - (behindExponent body).length) := by
  unfold numberAt?
  extract_lets negative body whole rest₁ fraction rest₂ marked sign exponent rest₃ used n e₁ e₂
  have hrest₂ : rest₂ = behindFraction body := drop_fractionText _ _
  have hrest₃ : rest₃ = behindExponent body := by
    rw [behindExponent, ← hrest₂]
    exact drop_exponentText rest₂
  have hnone : (exponentOf? (behindFraction body)).isNone = exponent.isEmpty := by
    rw [Bool.eq_iff_iff, Option.isNone_iff_eq_none, exponentOf?_eq_none_iff, List.isEmpty_iff,
      ← hrest₂]
    rfl
  have he₂ : e₂ = ((exponentOf? (behindFraction body)).map Exponent.value).getD 0 -
      fraction.length := by
    rw [value_exponentOf?, ← hrest₂]
    rfl
  have hvalue : (partsOf negative body).value = if fraction.isEmpty && exponent.isEmpty then
      (if maxDigits < whole.length then .error .numeralTooLong
        else .ok (.int (if negative then -n else n)))
      else .ok (.real (ofDecimal negative (value (whole ++ fraction)) e₂)) := by
    rw [he₂, ← hnone]
    rfl
  rw [hvalue, ← hrest₃]
  show (if whole.isEmpty then none else _) = if whole.isEmpty then none else _
  split
  · rfl
  · split
    · split <;> rfl
    · rfl

/-! ## What is found is a number -/

theorem isPrefix_wholeOf (cs : List Char) : wholeOf cs <+: cs := by
  unfold wholeOf
  split
  · next h =>
    obtain ⟨rest, rfl⟩ := List.head?_eq_some_iff.1 (eq_of_beq h)
    exact ⟨rest, rfl⟩
  · exact List.takeWhile_prefix _

theorem isWhole_wholeOf {cs : List Char} (h : wholeOf cs ≠ []) : Numeral.IsWhole (wholeOf cs) := by
  unfold wholeOf at h ⊢
  split at h
  · next hzero =>
    rw [if_pos hzero]
    exact Or.inl rfl
  · next hzero =>
    rw [if_neg hzero]
    refine Or.inr ⟨⟨h, List.all_eq_true.1 List.all_takeWhile⟩, fun hhead => hzero ?_⟩
    obtain ⟨rest, hrest⟩ := List.head?_eq_some_iff.1 hhead
    obtain ⟨more, hmore⟩ := List.takeWhile_prefix (p := Char.isDigit) (l := cs)
    rw [← hmore, hrest]
    rfl

/-- Behind the longest row of digits there is none. -/
theorem endsDigits_takeWhile (cs : List Char) :
    EndsDigits (cs.drop (cs.takeWhile Char.isDigit).length) := by
  have hdrop : (cs.takeWhile Char.isDigit ++ cs.dropWhile Char.isDigit).drop
      (cs.takeWhile Char.isDigit).length = cs.dropWhile Char.isDigit := List.drop_left
  rw [List.takeWhile_append_dropWhile] at hdrop
  rw [hdrop]
  exact eq_false_of_mem_head?_dropWhile _ _

theorem endsDigits_wholeOf {cs : List Char} (h : wholeOf cs ≠ ['0']) :
    EndsDigits (cs.drop (wholeOf cs).length) := by
  unfold wholeOf at h ⊢
  split at h
  · exact absurd rfl h
  · next hzero =>
    rw [if_neg hzero]
    exact endsDigits_takeWhile cs

theorem isDigit_of_mem_fractionOf {cs : List Char} {c : Char} (h : c ∈ fractionOf cs) :
    c.isDigit := by
  unfold fractionOf at h
  split at h
  · exact List.all_eq_true.1 List.all_takeWhile c h
  · cases h

theorem fractionText_fractionOf (cs : List Char) :
    fractionText (fractionOf cs) ++ cs.drop (fractionText (fractionOf cs)).length = cs := by
  unfold fractionText
  split
  · rfl
  · next hne =>
    unfold fractionOf at hne ⊢
    split at hne
    · next hpoint =>
      obtain ⟨rest, rfl⟩ := List.head?_eq_some_iff.1 (eq_of_beq hpoint)
      rw [if_pos hpoint]
      have hprefix :=
        List.prefix_iff_eq_append.1 (List.takeWhile_prefix (p := Char.isDigit) (l := rest))
      simpa using hprefix
    · exact absurd rfl hne

theorem fractionOf_eq_nil_iff {cs : List Char} : fractionOf cs = [] ↔ ¬ BeginsFraction cs := by
  unfold fractionOf BeginsFraction
  split
  · next hpoint =>
    obtain ⟨rest, rfl⟩ := List.head?_eq_some_iff.1 (eq_of_beq hpoint)
    cases rest with
    | nil => simp
    | cons c more => by_cases hc : c.isDigit <;> simp [hc]
  · next hpoint =>
    refine iff_of_true rfl ?_
    rintro ⟨c, more, rfl, -⟩
    exact hpoint rfl

theorem endsDigits_fractionOf {cs : List Char} (h : fractionOf cs ≠ []) :
    EndsDigits (cs.drop (fractionText (fractionOf cs)).length) := by
  have htext : fractionText (fractionOf cs) = '.' :: fractionOf cs := by
    rw [fractionText, if_neg (by simpa using h)]
  rw [htext]
  unfold fractionOf at h ⊢
  split at h
  · next hpoint =>
    obtain ⟨rest, rfl⟩ := List.head?_eq_some_iff.1 (eq_of_beq hpoint)
    rw [if_pos hpoint]
    exact endsDigits_takeWhile rest
  · exact absurd rfl h

/-! ## The exponent -/

/-- The sign of an exponent is the character behind the letter, or nothing. -/
theorem exponentSign_cons (mark : Char) (rest : List Char) :
    (exponentSign (mark :: rest) = [] ∨ exponentSign (mark :: rest) = ['-'] ∨
      exponentSign (mark :: rest) = ['+']) ∧
    exponentSign (mark :: rest) ++ rest.drop (exponentSign (mark :: rest)).length = rest := by
  unfold exponentSign
  cases rest with
  | nil => simp
  | cons c more =>
    by_cases hminus : c = '-'
    · simp [hminus]
    · by_cases hplus : c = '+' <;> simp [hminus, hplus]

/-- **An exponent that is found** is one, and no more digits follow. -/
theorem exponentOf?_isProper {cs : List Char} {e : Exponent} (h : exponentOf? cs = some e) :
    e.IsProper ∧ e.text ++ cs.drop e.text.length = cs ∧ EndsDigits (cs.drop e.text.length) := by
  obtain ⟨hne, hsign, hdigits, hmark⟩ := exponentOf?_eq_some h
  obtain ⟨rest, rfl⟩ := List.head?_eq_some_iff.1 hmark
  obtain ⟨hcases, hprefix⟩ := exponentSign_cons e.mark rest
  rw [← hsign] at hcases hprefix
  have hdrop : (e.mark :: rest).drop e.text.length =
      (rest.drop e.sign.length).drop e.digits.length := by
    simp [Exponent.text]
  have hfound : (e.mark = 'e' ∨ e.mark = 'E') ∧
      e.digits = (rest.drop e.sign.length).takeWhile Char.isDigit := by
    rw [exponentDigits, ← hsign] at hdigits
    split at hdigits
    · next hletter =>
      refine ⟨by simpa using hletter, ?_⟩
      rw [hdigits, Nat.add_comm]
      rfl
    · exact absurd hdigits hne
  obtain ⟨hletter, htake⟩ := hfound
  refine ⟨⟨hletter, hcases, hne, ?_⟩, ?_, ?_⟩
  · rw [htake]
    exact List.all_eq_true.1 List.all_takeWhile
  · have hbehind := List.prefix_iff_eq_append.1
      (List.takeWhile_prefix (p := Char.isDigit) (l := rest.drop e.sign.length))
    rw [← htake] at hbehind
    rw [hdrop, Exponent.text, List.cons_append, List.append_assoc, hbehind, hprefix]
  · rw [hdrop, htake]
    exact endsDigits_takeWhile _

theorem exponentOf?_text_append {e : Exponent} (he : e.IsProper) {rest : List Char}
    (hrest : EndsDigits rest) : exponentOf? (e.text ++ rest) = some e := by
  obtain ⟨mark, sign, digits⟩ := e
  obtain ⟨hmark, hsign, hne, hdigits⟩ := he
  simp only at hmark hsign hne hdigits
  obtain ⟨d, ds, hds⟩ := List.exists_cons_of_ne_nil hne
  have hd : d.isDigit := hdigits d (by rw [hds]; exact List.mem_cons_self)
  have hminus : d ≠ '-' := by
    rintro rfl
    exact absurd hd (by decide)
  have hplus : d ≠ '+' := by
    rintro rfl
    exact absurd hd (by decide)
  have hfoundSign : exponentSign (mark :: (sign ++ digits ++ rest)) = sign := by
    unfold exponentSign
    rcases hsign with rfl | rfl | rfl
    · simp [hds, hminus, hplus]
    · rfl
    · rfl
  have htake : (digits ++ rest).takeWhile Char.isDigit = digits :=
    takeWhile_append_of_ends hdigits hrest
  have hfoundDigits : exponentDigits (mark :: (sign ++ digits ++ rest)) = digits := by
    rw [exponentDigits, hfoundSign, if_pos (by rcases hmark with rfl | rfl <;> rfl)]
    rw [Nat.add_comm, List.drop_succ_cons, List.append_assoc, List.drop_left, htake]
  show exponentOf? (mark :: (sign ++ digits ++ rest)) = _
  rw [exponentOf?, hfoundSign, hfoundDigits, if_neg (by simpa using hne)]
  rfl

theorem exponentOf?_eq_none_iff_not {cs : List Char} :
    exponentOf? cs = none ↔ ¬ BeginsExponent cs := by
  constructor
  · rintro hnone ⟨e, he, more, rfl⟩
    -- the digits that are found may be more than those of `e`
    have hlonger :
        (⟨e.mark, e.sign, e.digits ++ more.takeWhile Char.isDigit⟩ : Exponent).IsProper := by
      refine ⟨he.mark, he.sign, ⟨by simp [he.digits.ne_nil], ?_⟩⟩
      exact List.forall_mem_append.2 ⟨he.digits.isDigit, List.all_eq_true.1 List.all_takeWhile⟩
    have hends : EndsDigits (more.dropWhile Char.isDigit) := eq_false_of_mem_head?_dropWhile _ _
    have hfound := exponentOf?_text_append hlonger hends
    have htext : e.text ++ more = e.mark :: (e.sign ++ (e.digits ++ more.takeWhile Char.isDigit)) ++
        more.dropWhile Char.isDigit := by
      simp [Exponent.text, List.takeWhile_append_dropWhile]
    rw [htext] at hnone
    cases hnone.symm.trans hfound
  · intro hnot
    cases h : exponentOf? cs with
    | none => rfl
    | some e =>
      obtain ⟨he, hprefix, -⟩ := exponentOf?_isProper h
      exact absurd ⟨e, he, _, hprefix.symm⟩ hnot

/-! ## A whole number -/

/-- The parts that are found and what is behind them make up the text. -/
theorem append_behindExponent (body : List Char) :
    wholeOf body ++ (fractionText (fractionOf (behindWhole body)) ++
      (exponentText (exponentOf? (behindFraction body)) ++ behindExponent body)) = body := by
  have hexponent : ∀ cs, exponentText (exponentOf? cs) ++
      cs.drop (exponentText (exponentOf? cs)).length = cs := fun cs => by
    cases h : exponentOf? cs with
    | none => rfl
    | some e => exact (exponentOf?_isProper h).2.1
  rw [behindExponent, hexponent, behindFraction, fractionText_fractionOf, behindWhole]
  exact List.prefix_iff_eq_append.1 (isPrefix_wholeOf body)

theorem isProper_partsOf {negative : Bool} {body : List Char} (h : wholeOf body ≠ []) :
    (partsOf negative body).IsProper where
  whole := isWhole_wholeOf h
  fraction _ hc := isDigit_of_mem_fractionOf hc
  exponent _ he := (exponentOf?_isProper he).1

theorem endsBefore_partsOf (negative : Bool) (body : List Char) :
    (partsOf negative body).EndsBefore (behindExponent body) := by
  have hexponent : exponentOf? (behindFraction body) = none →
      behindExponent body = behindFraction body := fun h => by
    rw [behindExponent, h]
    rfl
  have hfraction : fractionOf (behindWhole body) = [] → behindFraction body = behindWhole body :=
    fun h => by
      rw [behindFraction, h]
      rfl
  refine ⟨fun hwhole hf he => ?_, fun hf he => ?_, fun hf he => ?_, fun he => ?_, fun he => ?_⟩
  · rw [hexponent he, hfraction hf]
    exact endsDigits_wholeOf hwhole
  · rw [hexponent he, hfraction hf]
    exact fractionOf_eq_nil_iff.1 hf
  · rw [hexponent he]
    exact endsDigits_fractionOf hf
  · rw [hexponent he]
    exact exponentOf?_eq_none_iff_not.1 he
  · obtain ⟨e, he⟩ := Option.ne_none_iff_exists'.1 he
    have hsome : exponentOf? (behindFraction body) = some e := he
    rw [behindExponent, hsome]
    exact (exponentOf?_isProper hsome).2.2

/-- **What the reader finds is a number**, and it ends there. -/
theorem exists_numeral_of_numberAt? {cs : List Char} {r : Except ReadFailure Json} {used : Nat}
    (h : numberAt? cs = some (r, used)) : ∃ (n : Numeral) (rest : List Char), n.IsProper ∧
      cs = n.text ++ rest ∧ n.EndsBefore rest ∧ r = n.value ∧ used = n.text.length := by
  rw [numberAt?_eq] at h
  extract_lets negative body at h
  split at h
  · cases h
  · next hwhole =>
    simp only [Option.some.injEq, Prod.mk.injEq] at h
    obtain ⟨rfl, rfl⟩ := h
    have hsigned : cs = (partsOf negative body).signText ++ body := by
      show cs = (if negative then ['-'] else []) ++ if negative then cs.drop 1 else cs
      split
      · next hminus =>
        obtain ⟨rest, rfl⟩ := List.head?_eq_some_iff.1 (eq_of_beq hminus)
        rfl
      · rfl
    have hbody : body = (partsOf negative body).whole ++
        (fractionText (partsOf negative body).fraction ++
          exponentText (partsOf negative body).exponent) ++ behindExponent body := by
      rw [List.append_assoc, List.append_assoc]
      exact (append_behindExponent body).symm
    have hcs : cs = (partsOf negative body).text ++ behindExponent body := by
      rw [Numeral.text, List.append_assoc, ← hbody]
      exact hsigned
    refine ⟨partsOf negative body, behindExponent body, isProper_partsOf (by simpa using hwhole), hcs,
      endsBefore_partsOf negative body, rfl, ?_⟩
    have hlength := congrArg List.length hcs
    rw [List.length_append] at hlength
    omega

/-! ## A number is found -/

theorem Numeral.IsWhole.ne_nil {cs : List Char} (h : IsWhole cs) : cs ≠ [] := by
  rcases h with rfl | ⟨h, -⟩
  · exact List.cons_ne_nil _ _
  · exact h.ne_nil

theorem Numeral.IsWhole.isDigit {cs : List Char} (h : IsWhole cs) : ∀ c ∈ cs, c.isDigit := by
  rcases h with rfl | ⟨h, -⟩
  · exact List.all_eq_true.1 rfl
  · exact h.isDigit

theorem wholeOf_append {whole rest : List Char} (h : Numeral.IsWhole whole)
    (hrest : whole ≠ ['0'] → EndsDigits rest) : wholeOf (whole ++ rest) = whole := by
  rcases h with rfl | ⟨hdigits, hzero⟩
  · rfl
  · obtain ⟨c, cs, rfl⟩ := List.exists_cons_of_ne_nil hdigits.ne_nil
    have hc : c ≠ '0' := by
      rintro rfl
      exact hzero rfl
    have hne : (c :: cs) ≠ ['0'] := fun h => hc (List.cons.inj h).1
    rw [wholeOf, if_neg (by simpa using hc)]
    exact takeWhile_append_of_ends hdigits.isDigit (hrest hne)

theorem fractionOf_append {fraction rest : List Char} (h : ∀ c ∈ fraction, c.isDigit)
    (hnil : fraction = [] → ¬ BeginsFraction rest) (hne : fraction ≠ [] → EndsDigits rest) :
    fractionOf (fractionText fraction ++ rest) = fraction := by
  by_cases hfraction : fraction = []
  · subst hfraction
    exact fractionOf_eq_nil_iff.2 (hnil rfl)
  · rw [fractionText, if_neg (by simpa using hfraction)]
    show (fraction ++ rest).takeWhile Char.isDigit = fraction
    exact takeWhile_append_of_ends h (hne hfraction)

theorem exponentOf?_append {e : Option Exponent} {rest : List Char} (h : ∀ x ∈ e, x.IsProper)
    (hnone : e = none → ¬ BeginsExponent rest) (hsome : e ≠ none → EndsDigits rest) :
    exponentOf? (exponentText e ++ rest) = e := by
  cases e with
  | none => exact exponentOf?_eq_none_iff_not.2 (hnone rfl)
  | some x => exact exponentOf?_text_append (h x rfl) (hsome (Option.some_ne_none x))

namespace Numeral

variable {n : Numeral} {rest : List Char}

/-- The digits in front of the exponent end there. -/
theorem IsProper.endsDigits_exponent (h : n.IsProper)
    (hrest : n.exponent = none → EndsDigits rest) :
    EndsDigits (exponentText n.exponent ++ rest) := by
  cases he : n.exponent with
  | none => exact hrest he
  | some e =>
    rintro c ⟨⟩
    rcases (h.exponent e he).mark with hmark | hmark <;> rw [hmark] <;> rfl

/-- The digits in front of the fraction end there. -/
theorem IsProper.endsDigits_fraction (h : n.IsProper) (hrest : n.EndsBefore rest)
    (hwhole : n.whole ≠ ['0']) :
    EndsDigits (fractionText n.fraction ++ (exponentText n.exponent ++ rest)) := by
  by_cases hf : n.fraction = []
  · rw [hf]
    exact h.endsDigits_exponent (hrest.whole hwhole hf)
  · rw [fractionText, if_neg (by simpa using hf)]
    rintro c ⟨⟩
    rfl

/-- Behind a whole part alone no fraction begins. -/
theorem IsProper.not_beginsFraction (h : n.IsProper) (hrest : n.EndsBefore rest)
    (hf : n.fraction = []) : ¬ BeginsFraction (exponentText n.exponent ++ rest) := by
  cases he : n.exponent with
  | none => exact hrest.fraction hf he
  | some e =>
    rintro ⟨c, more, heq, -⟩
    have hmark := (List.cons.inj heq).1
    rcases (h.exponent e he).mark with hletter | hletter <;> rw [hletter] at hmark <;>
      exact absurd hmark (by decide)

/-- **A number that ends where it does is what the reader finds.** -/
theorem numberAt?_text_append (h : n.IsProper) (hrest : n.EndsBefore rest) :
    numberAt? (n.text ++ rest) = some (n.value, n.text.length) := by
  obtain ⟨negative, whole, fraction, exponent⟩ := n
  have hwhole : wholeOf (whole ++ (fractionText fraction ++ (exponentText exponent ++ rest))) =
      whole := wholeOf_append h.whole (h.endsDigits_fraction hrest)
  have hfraction : fractionOf (fractionText fraction ++ (exponentText exponent ++ rest)) =
      fraction := fractionOf_append h.fraction (h.not_beginsFraction hrest) fun hf =>
        h.endsDigits_exponent (hrest.fractionDigits hf)
  have hexponent : exponentOf? (exponentText exponent ++ rest) = exponent :=
    exponentOf?_append h.exponent hrest.exponent hrest.exponentDigits
  generalize hbody : whole ++ (fractionText fraction ++ (exponentText exponent ++ rest)) = body at *
  have hbehindWhole :
      behindWhole body = fractionText fraction ++ (exponentText exponent ++ rest) := by
    rw [behindWhole, hwhole, ← hbody, List.drop_left]
  have hbehindFraction : behindFraction body = exponentText exponent ++ rest := by
    rw [behindFraction, hbehindWhole, hfraction, List.drop_left]
  have hbehindExponent : behindExponent body = rest := by
    rw [behindExponent, hbehindFraction, hexponent, List.drop_left]
  have hparts : partsOf negative body = ⟨negative, whole, fraction, exponent⟩ := by
    rw [partsOf, hwhole, hbehindWhole, hfraction, hbehindFraction, hexponent]
  have htext : (⟨negative, whole, fraction, exponent⟩ : Numeral).text ++ rest =
      (if negative then ['-'] else []) ++ body := by
    rw [← hbody]
    simp [Numeral.text, Numeral.signText]
  have hsign : (((if negative then ['-'] else []) ++ body).head? == some '-') = negative := by
    cases negative with
    | true => rfl
    | false =>
      obtain ⟨c, cs, hcons⟩ := List.exists_cons_of_ne_nil h.whole.ne_nil
      have hc : c ≠ '-' := by
        rintro rfl
        exact absurd (h.whole.isDigit '-' (hcons ▸ List.mem_cons_self)) (by decide)
      simp only at hcons
      rw [← hbody, hcons]
      simpa using hc
  have hlength : (⟨negative, whole, fraction, exponent⟩ : Numeral).text.length =
      ((if negative then ['-'] else []) ++ body).length - rest.length := by
    rw [← htext, List.length_append]
    omega
  rw [htext, numberAt?_eq, hsign, hlength]
  have hdrop : (if negative then ((if negative then ['-'] else []) ++ body).drop 1
      else (if negative then ['-'] else []) ++ body) = body := by
    cases negative <;> rfl
  simp only [hdrop, hparts, hwhole, hbehindExponent]
  rw [if_neg (by simpa using h.whole.ne_nil)]

end Numeral

/-! ## Numbers among other characters -/

theorem endsBefore_nil (n : Numeral) : n.EndsBefore [] where
  whole _ _ _ := by rintro c ⟨⟩
  fraction _ _ := by rintro ⟨c, more, ⟨⟩, -⟩
  fractionDigits _ _ := by rintro c ⟨⟩
  exponent _ := by rintro ⟨e, -, more, ⟨⟩⟩
  exponentDigits _ := by rintro c ⟨⟩

/-- **The texts of numbers** are those that the reader takes in full. -/
theorem numberAt?_eq_full_iff {cs : List Char} {r : Except ReadFailure Json} :
    numberAt? cs = some (r, cs.length) ↔ ∃ n : Numeral, n.IsProper ∧ cs = n.text ∧ r = n.value := by
  constructor
  · intro h
    obtain ⟨n, rest, hn, hcs, -, hr, hused⟩ := exists_numeral_of_numberAt? h
    have hrest : rest = [] := by
      rw [hcs, List.length_append] at hused
      exact List.eq_nil_of_length_eq_zero (by omega)
    rw [hrest, List.append_nil] at hcs
    exact ⟨n, hn, hcs, hr⟩
  · rintro ⟨n, hn, rfl, rfl⟩
    have hfound := n.numberAt?_text_append hn (endsBefore_nil n)
    rwa [List.append_nil] at hfound

theorem Exponent.IsProper.isNumberPart {e : Exponent} (h : e.IsProper) :
    ∀ c ∈ e.text, State.isNumberPart c := by
  have hsign : ∀ c ∈ e.sign, State.isNumberPart c := by
    rcases h.sign with hs | hs | hs <;> rw [hs]
    · exact fun c hc => absurd hc List.not_mem_nil
    · exact List.all_eq_true.1 rfl
    · exact List.all_eq_true.1 rfl
  refine List.forall_mem_cons.2 ⟨?_, List.forall_mem_append.2 ⟨hsign, ?_⟩⟩
  · rcases h.mark with hmark | hmark <;> rw [hmark] <;> rfl
  · exact fun c hc => isNumberPart_of_isDigit (h.digits.isDigit c hc)

/-- A number is written with the characters that may stand in one. -/
theorem Numeral.IsProper.isNumberPart {n : Numeral} (h : n.IsProper) :
    ∀ c ∈ n.text, State.isNumberPart c := by
  have hsign : ∀ c ∈ n.signText, State.isNumberPart c := by
    unfold Numeral.signText
    split
    · exact List.all_eq_true.1 rfl
    · exact fun c hc => absurd hc List.not_mem_nil
  have hfraction : ∀ c ∈ fractionText n.fraction, State.isNumberPart c := by
    unfold fractionText
    split
    · exact fun c hc => absurd hc List.not_mem_nil
    · exact List.forall_mem_cons.2 ⟨rfl, fun c hc => isNumberPart_of_isDigit (h.fraction c hc)⟩
  have hexponent : ∀ c ∈ exponentText n.exponent, State.isNumberPart c := by
    cases he : n.exponent with
    | none => exact fun c hc => absurd hc List.not_mem_nil
    | some e => exact (h.exponent e he).isNumberPart
  exact List.forall_mem_append.2 ⟨hsign, List.forall_mem_append.2
    ⟨fun c hc => isNumberPart_of_isDigit (h.whole.isDigit c hc),
      List.forall_mem_append.2 ⟨hfraction, hexponent⟩⟩⟩

/-- A number begins with a minus sign or a digit. -/
theorem Numeral.IsProper.exists_text_eq_cons {n : Numeral} (h : n.IsProper) :
    ∃ c cs, n.text = c :: cs ∧ (c.isDigit ∨ c = '-') := by
  obtain ⟨c, cs, hcons⟩ := List.exists_cons_of_ne_nil h.whole.ne_nil
  have hc : c.isDigit := h.whole.isDigit c (by rw [hcons]; exact List.mem_cons_self)
  unfold Numeral.text Numeral.signText
  split
  · exact ⟨'-', _, rfl, Or.inr rfl⟩
  · rw [hcons]
    exact ⟨c, _, rfl, Or.inl hc⟩

/-! ## Where a row of such characters ends -/

section Rows
variable {rest more : List Char}

/-- No character that may stand in a number comes next. -/
def EndsNumberParts (more : List Char) : Prop := ∀ c ∈ more.head?, State.isNumberPart c = false

theorem EndsNumberParts.endsDigits (h : EndsNumberParts more) : EndsDigits more := fun c hc => by
  have hpart := h c hc
  rw [← Bool.not_eq_true] at hpart ⊢
  exact fun hdigit => hpart (isNumberPart_of_isDigit hdigit)

theorem endsDigits_append_iff (h : EndsNumberParts more) :
    EndsDigits (rest ++ more) ↔ EndsDigits rest := by
  cases rest with
  | nil => exact iff_of_true h.endsDigits (by rintro c ⟨⟩)
  | cons c rest => exact Iff.rfl

/-- What begins with such characters does so without what is behind them. -/
theorem exists_append_of_isNumberPart {front tail : List Char}
    (hfront : ∀ c ∈ front, State.isNumberPart c) (h : EndsNumberParts more)
    (heq : rest ++ more = front ++ tail) : ∃ between, rest = front ++ between := by
  rcases List.append_eq_append_iff.1 heq with ⟨as, hrest, hmore⟩ | ⟨bs, hrest, -⟩
  · cases as with
    | nil => exact ⟨[], by rw [List.append_nil] at hrest ⊢; exact hrest.symm⟩
    | cons c as =>
      have hc := hfront c (by rw [hrest]; simp)
      rw [h c (by rw [hmore]; rfl)] at hc
      cases hc
  · exact ⟨bs, hrest⟩

theorem beginsFraction_append_iff (h : EndsNumberParts more) :
    BeginsFraction (rest ++ more) ↔ BeginsFraction rest := by
  constructor
  · rintro ⟨c, tail, heq, hc⟩
    have hfront : ∀ d ∈ ['.', c], State.isNumberPart d :=
      List.forall_mem_cons.2 ⟨rfl, List.forall_mem_singleton.2 (isNumberPart_of_isDigit hc)⟩
    obtain ⟨between, rfl⟩ := exists_append_of_isNumberPart hfront h heq
    exact ⟨c, between, rfl, hc⟩
  · rintro ⟨c, tail, rfl, hc⟩
    exact ⟨c, tail ++ more, rfl, hc⟩

theorem beginsExponent_append_iff (h : EndsNumberParts more) :
    BeginsExponent (rest ++ more) ↔ BeginsExponent rest := by
  constructor
  · rintro ⟨e, he, tail, heq⟩
    obtain ⟨between, rfl⟩ := exists_append_of_isNumberPart he.isNumberPart h heq
    exact ⟨e, he, between, rfl⟩
  · rintro ⟨e, he, tail, rfl⟩
    exact ⟨e, he, tail ++ more, List.append_assoc ..⟩

/-- Where a number ends depends only on the characters behind it that may stand in one. -/
theorem Numeral.endsBefore_append_iff {n : Numeral} (h : EndsNumberParts more) :
    n.EndsBefore (rest ++ more) ↔ n.EndsBefore rest := by
  constructor
  · rintro ⟨hwhole, hfraction, hfractionDigits, hexponent, hexponentDigits⟩
    simp only [endsDigits_append_iff h, beginsFraction_append_iff h, beginsExponent_append_iff h] at *
    exact ⟨hwhole, hfraction, hfractionDigits, hexponent, hexponentDigits⟩
  · rintro ⟨hwhole, hfraction, hfractionDigits, hexponent, hexponentDigits⟩
    constructor <;>
      simp only [endsDigits_append_iff h, beginsFraction_append_iff h, beginsExponent_append_iff h] <;>
      assumption

end Rows

end CommandBook.Json
