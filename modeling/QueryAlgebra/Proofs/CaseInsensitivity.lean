import QueryAlgebra.Validation
import QueryAlgebra.Proofs.LowerCase

/-!
# Queries in any case

A query is read in its small form, so its answers cannot depend on the case of its
letters.  The small form is not taken letter by letter: what becomes of a capital
sigma depends on the letters before and behind it, however far away they are.  It is
said here by rules of its own, which look at the whole text on both sides, and then
compared under two changes.  Changing the case of ASCII letters changes no character
around a sigma that its rule could tell from the one before, and a small form has no
capitals left.

Main results:

- Theorem `lowered_iff`: the small form of a text is the one that the rules give.
- Theorem `lower_of_recased`: texts that differ in the case of ASCII letters have the
  same small form.
- Theorem `answers_of_recased`: neither the faults nor the algebra of a query depend on
  the case of its letters.
-/

namespace QueryAlgebra
namespace LowerCase

/-! ## The rules of lower-casing -/

/-- The last character of a text that is not passed over is a letter with case. -/
def CasedBefore (before : Text) : Prop :=
  ∃ u c v, before = u ++ c :: v ∧ isCased c = true ∧ isIgnorable c = false ∧
    ∀ d ∈ v, isIgnorable d = true

/-- The first character of a text that is not passed over is a letter with case. -/
def CasedBehind (behind : Text) : Prop :=
  ∃ u c v, behind = u ++ c :: v ∧ isCased c = true ∧ isIgnorable c = false ∧
    ∀ d ∈ u, isIgnorable d = true

/-- A capital sigma between these texts ends a word. -/
def EndsWord (before behind : Text) : Prop :=
  CasedBefore before ∧ ¬ CasedBehind behind

/--
`Lowered before s t` says that the small form of `s` is `t` where `before` stands in
front of `s`.
-/
inductive Lowered : Text → Text → Text → Prop where
  | nil {before : Text} : Lowered before [] []
  | finalSigma {before rest t : Text} (hend : EndsWord before rest)
      (hrest : Lowered (before ++ ['Σ']) rest t) : Lowered before ('Σ' :: rest) ('ς' :: t)
  | innerSigma {before rest t : Text} (hinside : ¬ EndsWord before rest)
      (hrest : Lowered (before ++ ['Σ']) rest t) : Lowered before ('Σ' :: rest) ('σ' :: t)
  | dottedI {before rest t : Text} (hrest : Lowered (before ++ ['İ']) rest t) :
      Lowered before ('İ' :: rest) ('i' :: '̇' :: t)
  | other {before rest t : Text} {c : Char} (hsigma : c ≠ 'Σ') (hdotted : c ≠ 'İ')
      (hrest : Lowered (before ++ [c]) rest t) : Lowered before (c :: rest) (small c :: t)

/-- Ignorable characters are skipped in looking for a cased one. -/
theorem casedNext_cons (c : Char) (rest : Text) :
    casedNext (c :: rest) = if isIgnorable c then casedNext rest else isCased c := by
  cases hc : isIgnorable c <;> simp [casedNext, hc]

/-- The search finds a cased character just if one stands behind ignorable ones. -/
theorem casedNext_eq_true_iff {s : Text} : casedNext s = true ↔ CasedBehind s := by
  constructor
  · intro hnext
    induction s with
    | nil => simp [casedNext] at hnext
    | cons c s ih =>
        rw [casedNext_cons] at hnext
        split at hnext
        · rename_i hc
          rcases ih hnext with ⟨u, d, v, rfl, hcased, hd, hu⟩
          exact ⟨c :: u, d, v, rfl, hcased, hd, List.forall_mem_cons.mpr ⟨hc, hu⟩⟩
        · rename_i hc
          exact ⟨[], c, s, rfl, hnext, by simpa using hc, by simp⟩
  · rintro ⟨u, c, v, rfl, hcased, hc, hu⟩
    induction u with
    | nil => simp [casedNext_cons, hc, hcased]
    | cons d u ih =>
        rcases List.forall_mem_cons.mp hu with ⟨hd, hu⟩
        rw [List.cons_append, casedNext_cons, if_pos hd, ih hu]

/-- Looking back from the end of a text is looking ahead from the start of its reverse. -/
theorem casedNext_reverse_eq_true_iff {s : Text} :
    casedNext s.reverse = true ↔ CasedBefore s := by
  rw [casedNext_eq_true_iff]
  constructor
  · rintro ⟨u, c, v, hcut, hcased, hc, hu⟩
    refine ⟨v.reverse, c, u.reverse, ?_, hcased, hc, ?_⟩
    · rw [← List.reverse_reverse s, hcut]
      simp
    · intro d hd
      exact hu d (List.mem_reverse.mp hd)
  · rintro ⟨u, c, v, rfl, hcased, hc, hv⟩
    refine ⟨v.reverse, c, u.reverse, by simp, hcased, hc, ?_⟩
    intro d hd
    exact hv d (List.mem_reverse.mp hd)

/-- What is known of the text before a character leads to what is known behind it. -/
theorem casedAfter_casedNext (before : Text) (c : Char) :
    casedAfter (casedNext before.reverse) c = casedNext (before ++ [c]).reverse := by
  rw [List.reverse_append, List.reverse_singleton, List.singleton_append, casedNext_cons]
  rfl

/-- A place ends a word if a cased character stands before it and none behind. -/
theorem endsWord_iff {before behind : Text} :
    EndsWord before behind ↔ (casedNext before.reverse && !casedNext behind) = true := by
  rw [EndsWord, ← casedNext_reverse_eq_true_iff, ← casedNext_eq_true_iff]
  simp

/-- A single pass, which keeps one flag, follows the rules for the text on both sides. -/
theorem lowered_lowerFrom (before s : Text) :
    Lowered before s (lowerFrom (casedNext before.reverse) s) := by
  induction s generalizing before with
  | nil => exact .nil
  | cons c rest ih =>
      have hrest := ih (before ++ [c])
      rw [← casedAfter_casedNext] at hrest
      rw [lowerFrom, smallAt]
      split
      · rename_i hsigma
        subst hsigma
        split
        · rename_i hend
          exact .finalSigma (endsWord_iff.mpr hend) hrest
        · rename_i hinside
          exact .innerSigma (fun hend => hinside (endsWord_iff.mp hend)) hrest
      · split
        · rename_i hdotted
          subst hdotted
          exact .dottedI hrest
        · rename_i hsigma hdotted
          exact .other hsigma hdotted hrest

/-- The rules leave no choice. -/
theorem Lowered.unique {before s t t' : Text} (ht : Lowered before s t)
    (ht' : Lowered before s t') : t = t' := by
  induction ht generalizing t' with
  | nil =>
      cases ht'
      rfl
  | finalSigma hend _ ih =>
      cases ht' with
      | finalSigma _ hrest => rw [ih hrest]
      | innerSigma hinside _ => exact absurd hend hinside
      | other hsigma _ _ => exact absurd rfl hsigma
  | innerSigma hinside _ ih =>
      cases ht' with
      | finalSigma hend _ => exact absurd hend hinside
      | innerSigma _ hrest => rw [ih hrest]
      | other hsigma _ _ => exact absurd rfl hsigma
  | dottedI _ ih =>
      cases ht' with
      | dottedI hrest => rw [ih hrest]
      | other _ hdotted _ => exact absurd rfl hdotted
  | other hsigma hdotted _ ih =>
      cases ht' with
      | finalSigma _ _ => exact absurd rfl hsigma
      | innerSigma _ _ => exact absurd rfl hsigma
      | dottedI _ => exact absurd rfl hdotted
      | other _ _ hrest => rw [ih hrest]

/-- The small form of a text is the one that the rules give. -/
theorem lowered_iff {s t : Text} : Lowered [] s t ↔ t = Text.lower s := by
  have hlower : Lowered [] s (Text.lower s) := lowered_lowerFrom [] s
  constructor
  · intro ht
    exact ht.unique hlower
  · rintro rfl
    exact hlower

/-! ## Changes of case -/

/-- The second character is the first one, or the same ASCII letter in another case. -/
def CaseVariant (c d : Char) : Prop :=
  d = c ∨ d = c.toUpper ∨ d = c.toLower

instance (c d : Char) : Decidable (CaseVariant c d) :=
  inferInstanceAs (Decidable (d = c ∨ d = c.toUpper ∨ d = c.toLower))

/-- The second text is the first one with the case of some of its ASCII letters changed. -/
def Recased (s t : Text) : Prop :=
  List.Forall₂ CaseVariant s t

/-- Only letters have more than one case. -/
theorem CaseVariant.cases {c d : Char} (hvariant : CaseVariant c d) :
    d = c ∨ c.isAlpha = true ∧ d.isAlpha = true ∧ d.toLower = c.toLower := by
  by_cases hletter : c.isAlpha = true
  · rcases hvariant with rfl | rfl | rfl
    · exact Or.inl rfl
    · exact Or.inr ⟨hletter, by simpa using hletter, Char.toLower_toUpper_eq_toLower c⟩
    · exact Or.inr ⟨hletter, by simpa using hletter, Char.toLower_toLower_eq_toLower c⟩
  · have hcases : ¬ c.isUpper = true ∧ ¬ c.isLower = true := by
      simpa [Char.isAlpha] using hletter
    rcases hvariant with hsame | hupper | hlower
    · exact Or.inl hsame
    · exact Or.inl (hupper.trans (Char.toUpper_eq_of_not_isLower hcases.2))
    · exact Or.inl (hlower.trans (Char.toLower_eq_of_not_isUpper hcases.1))

/-- The characters that are passed over are not among the ASCII letters. -/
theorem ignorableRanges_letters : ∀ r ∈ ignorableRanges,
    r.2 < 65 ∨ 90 < r.1 ∧ r.2 < 97 ∨ 122 < r.1 := by
  decide +kernel

theorem ascii_of_isAlpha {c : Char} (hc : c.isAlpha = true) : c.toNat < 0x80 := by
  have hrange := isAlpha_iff.mp hc
  omega

/-- An ASCII letter is a letter with case and is never passed over. -/
theorem context_of_isAlpha {c : Char} (hc : c.isAlpha = true) :
    isIgnorable c = false ∧ isCased c = true := by
  have hrange := isAlpha_iff.mp hc
  constructor
  · rw [isIgnorable, inRanges, List.any_eq_false]
    intro r hr
    have hletters := ignorableRanges_letters r hr
    simp only [Bool.and_eq_true, decide_eq_true_eq]
    omega
  · rw [isCased, if_pos (ascii_of_isAlpha hc), hc]

section CaseVariant

variable {c d : Char}

theorem CaseVariant.isIgnorable_eq (hvariant : CaseVariant c d) :
    isIgnorable d = isIgnorable c := by
  rcases hvariant.cases with rfl | ⟨hc, hd, -⟩
  · rfl
  · rw [(context_of_isAlpha hc).1, (context_of_isAlpha hd).1]

theorem CaseVariant.isCased_eq (hvariant : CaseVariant c d) : isCased d = isCased c := by
  rcases hvariant.cases with rfl | ⟨hc, hd, -⟩
  · rfl
  · rw [(context_of_isAlpha hc).2, (context_of_isAlpha hd).2]

theorem CaseVariant.casedAfter_eq (hvariant : CaseVariant c d) (cased : Bool) :
    casedAfter cased d = casedAfter cased c := by
  rw [casedAfter, casedAfter, hvariant.isIgnorable_eq, hvariant.isCased_eq]

/-- A change of case is undone by lower-casing, if the text behind looks alike to a sigma. -/
theorem CaseVariant.smallAt_eq (hvariant : CaseVariant c d) {rest rest' : Text}
    (hnext : casedNext rest' = casedNext rest) (cased : Bool) :
    smallAt cased rest' d = smallAt cased rest c := by
  rcases hvariant.cases with rfl | ⟨hc, hd, hlower⟩
  · rw [smallAt, smallAt, hnext]
  · have hcascii := ascii_of_isAlpha hc
    have hdascii := ascii_of_isAlpha hd
    rcases ne_of_ascii hcascii with ⟨hcsigma, hcdotted⟩
    rcases ne_of_ascii hdascii with ⟨hdsigma, hddotted⟩
    rw [smallAt, if_neg hdsigma, if_neg hddotted, smallAt, if_neg hcsigma, if_neg hcdotted,
      small, if_pos hdascii, small, if_pos hcascii, hlower]

end CaseVariant

/-- Changing case keeps whether a cased character follows. -/
theorem Recased.casedNext_eq {s t : Text} (hcase : Recased s t) : casedNext t = casedNext s := by
  induction hcase with
  | nil => rfl
  | cons hvariant _ ih =>
      rw [casedNext_cons, casedNext_cons, hvariant.isIgnorable_eq, hvariant.isCased_eq, ih]

/-- Changing case keeps the lower case of a text, whatever stood before it. -/
theorem Recased.lowerFrom_eq {s t : Text} (hcase : Recased s t) (cased : Bool) :
    lowerFrom cased t = lowerFrom cased s := by
  induction hcase generalizing cased with
  | nil => rfl
  | cons hvariant hrest ih =>
      rw [lowerFrom, lowerFrom, hvariant.smallAt_eq (Recased.casedNext_eq hrest),
        hvariant.casedAfter_eq, ih]

/-- Texts that differ in the case of ASCII letters have the same small form. -/
theorem lower_of_recased {s t : Text} (hcase : Recased s t) : Text.lower t = Text.lower s :=
  hcase.lowerFrom_eq false

end LowerCase

/-! ## Answers -/

namespace Query

open LowerCase

/-- The answers to two queries with the same small form are the same. -/
theorem answers_of_lower_eq (schema : Schema) {query other : Text}
    (hlower : Text.lower other = Text.lower query) :
    isValid schema other = isValid schema query ∧ faults schema other = faults schema query ∧
      algebraText other = algebraText query := by
  refine ⟨?_, ?_, ?_⟩
  · rw [isValid, isValid, check, check, hlower]
  · rw [faults, faults, hlower]
  · rw [algebraText, algebraText, parts, parts, hlower]

/--
The answers to a query depend neither on the case of its ASCII letters nor on whether
it is given in its small form.  The small form is the one of the rules: a capital sigma
follows the letters around it, and the capital I with a dot becomes two characters.
-/
theorem answers_of_recased (schema : Schema) (query : Text) :
    (∀ small, Lowered [] query small ↔ small = Text.lower query) ∧
    ∀ other, Recased query other ∨ Lowered [] query other →
      isValid schema other = isValid schema query ∧
        faults schema other = faults schema query ∧ algebraText other = algebraText query := by
  refine ⟨fun _ => lowered_iff, ?_⟩
  rintro other (hcase | hlowered)
  · exact answers_of_lower_eq schema (lower_of_recased hcase)
  · rw [lowered_iff] at hlowered
    rw [hlowered]
    exact answers_of_lower_eq schema (lower_lower query)

/-- A query with a capital sigma at the end of a word of ASCII letters. -/
def sigmaColumn : Text :=
  "Select nAΣ, İd From cliente".toList

/-- The same query with every ASCII letter in the other case. -/
def sigmaColumnTurned : Text :=
  "sELECT NaΣ, İD fROM CLIENTE".toList

/-- A final sigma and a dotted capital in a column, with the other letters changed in case. -/
theorem answers_of_sigmaColumnTurned :
    Recased sigmaColumn sigmaColumnTurned ∧
      faults .shop sigmaColumnTurned = faults .shop sigmaColumn ∧
      algebraText sigmaColumnTurned = "\\pi_\x7bnaς, i̇d\x7d(cliente)".toList := by
  have hcase : Recased sigmaColumn sigmaColumnTurned := by
    unfold Recased
    decide +kernel
  rcases (answers_of_recased .shop sigmaColumn).2 sigmaColumnTurned (Or.inl hcase) with
    ⟨-, hfaults, halgebra⟩
  refine ⟨hcase, hfaults, halgebra.trans ?_⟩
  decide +kernel

end Query
end QueryAlgebra
