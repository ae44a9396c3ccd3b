import QueryAlgebra.Proofs.Agreement

/-!
# Joined tables of a translated query

Validation takes the table behind every `join`; translation attaches only the
tables of the join clauses that it finds, each with a comparison.  A table can be
lost in two ways: no comparison of two names follows it, or its `join` is the end
of the comparison of an earlier clause, which the search for clauses has used up.

To tell exactly when nothing is lost, both searches are compared with the finds at
all places of the text, overlapping or not.

Main results:

- Theorem `all_eq_everywhere_iff`: a repeated search misses nothing exactly if no
  find covers another.
- Theorem `ends_of_covered`: a join clause covers a further one only with the end of
  its comparison.
- Theorem `attached_eq_joined_iff`: when the translation of a valid query attaches
  all its joined tables.
-/

namespace QueryAlgebra

/-! ## Finds at all places -/

namespace Scan

variable {α : Type} {f : Text → Option (α × Text)}

/-- What a recogniser finds at all places of a text, whether or not the finds overlap. -/
def everywhere (f : Text → Option (α × Text)) : Text → List α
  | [] => []
  | c :: rest => ((f (c :: rest)).map Prod.fst).toList ++ everywhere f rest

/-- A place without a match adds nothing. -/
theorem everywhere_cons_of_none {c : Char} {s : Text} (hnone : f (c :: s) = none) :
    everywhere f (c :: s) = everywhere f s := by
  simp [everywhere, hnone]

/-- A match is added, and the search goes on at the next place. -/
theorem everywhere_cons_of_some {c : Char} {s rest : Text} {a : α}
    (hfound : f (c :: s) = some (a, rest)) : everywhere f (c :: s) = a :: everywhere f s := by
  simp [everywhere, hfound]

/-- No find of the recogniser starts strictly within another one. -/
def Apart (f : Text → Option (α × Text)) (s : Text) : Prop :=
  ∀ t a rest u, t <:+ s → f t = some (a, rest) → u <:+ t → u ≠ t → rest.length < u.length →
    f u = none

/-- The recogniser finds nothing at the places among the first `covered` characters. -/
def Bare (f : Text → Option (α × Text)) (covered : Nat) (s : Text) : Prop :=
  ∀ u, u <:+ s → s.length - covered < u.length → f u = none

@[simp] theorem bare_zero (s : Text) : Bare f 0 s := by
  intro u hu hlength
  have := hu.length_le
  omega

/-- No match starts at the first places just if none starts at the first and the others. -/
theorem bare_succ_iff {n : Nat} {c : Char} {s : Text} :
    Bare f (n + 1) (c :: s) ↔ f (c :: s) = none ∧ Bare f n s := by
  constructor
  · intro hbare
    constructor
    · exact hbare _ (List.suffix_refl _) (by simp only [List.length_cons]; omega)
    · intro u hu hlength
      exact hbare u (hu.trans (List.suffix_cons c s)) (by simpa using hlength)
  · rintro ⟨hnone, hbare⟩ u hu hlength
    rcases List.suffix_cons_iff.mp hu with rfl | hu
    · exact hnone
    · exact hbare u hu (by simpa using hlength)

/-- What a find covers holds no further one. -/
theorem apart_cons_iff_of_some {c : Char} {s rest : Text} {a : α}
    (hfound : f (c :: s) = some (a, rest)) :
    Apart f (c :: s) ↔ Bare f (s.length - rest.length) s ∧ Apart f s := by
  constructor
  · intro hapart
    constructor
    · intro u hu hlength
      have hle := hu.length_le
      have hne : u ≠ c :: s := by
        rintro rfl
        simp at hle
      exact hapart _ a rest u (List.suffix_refl _) hfound (hu.trans (List.suffix_cons c s)) hne
        (by omega)
    · intro t b after u ht
      exact hapart t b after u (ht.trans (List.suffix_cons c s))
  · rintro ⟨hbare, hapart⟩ t b after u ht hfind hu hne hlength
    rcases List.suffix_cons_iff.mp ht with rfl | ht
    · rw [hfound] at hfind
      cases hfind
      rcases List.suffix_cons_iff.mp hu with rfl | hu
      · contradiction
      · have hle := hu.length_le
        exact hbare u hu (by omega)
    · exact hapart t b after u ht hfind hu hne hlength

/-- A place without a match keeps matches apart. -/
theorem apart_cons_iff_of_none {c : Char} {s : Text} (hnone : f (c :: s) = none) :
    Apart f (c :: s) ↔ Apart f s := by
  constructor
  · intro hapart t b after u ht
    exact hapart t b after u (ht.trans (List.suffix_cons c s))
  · intro hapart t b after u ht hfind
    rcases List.suffix_cons_iff.mp ht with rfl | ht
    · rw [hnone] at hfind
      contradiction
    · exact hapart t b after u ht hfind

/-- A repeated search keeps the order of the finds and adds none. -/
theorem allFrom_sublist_everywhere (n : Nat) (s : Text) :
    (allFrom f n s).Sublist (everywhere f s) := by
  induction s generalizing n with
  | nil => cases n <;> exact List.Sublist.refl _
  | cons c s ih =>
      cases n with
      | succ n => exact (ih n).trans (List.sublist_append_right _ _)
      | zero =>
          cases hhere : f (c :: s) with
          | none =>
              rw [everywhere_cons_of_none hhere]
              simpa [allFrom, hhere] using ih 0
          | some find =>
              rw [everywhere_cons_of_some hhere]
              simpa [allFrom, hhere] using ih _

/-- The matches that do not overlap are some of all matches. -/
theorem all_sublist_everywhere (s : Text) : (all f s).Sublist (everywhere f s) :=
  allFrom_sublist_everywhere 0 s

/--
A repeated search that starts behind some covered characters misses nothing exactly
if there is nothing to find among them and no find covers another.
-/
theorem allFrom_eq_everywhere_iff (n : Nat) (s : Text) :
    allFrom f n s = everywhere f s ↔ Bare f n s ∧ Apart f s := by
  induction s generalizing n with
  | nil =>
      have hapart : Apart f [] := by
        intro t a rest u ht _ hu hne
        rw [List.suffix_nil.mp ht] at hu hne
        exact absurd (List.suffix_nil.mp hu) hne
      have hbare : Bare f n [] := by
        intro u hu hlength
        rw [List.suffix_nil.mp hu] at hlength
        simp at hlength
      cases n <;> simp [allFrom, everywhere, hapart, hbare]
  | cons c s ih =>
      cases n with
      | succ n =>
          rw [bare_succ_iff]
          cases hhere : f (c :: s) with
          | none =>
              rw [everywhere_cons_of_none hhere, apart_cons_iff_of_none hhere]
              simpa [allFrom] using ih n
          | some find =>
              -- The covered find is one that the search cannot make up for.
              have hshort := (allFrom_sublist_everywhere (f := f) n s).length_le
              rw [everywhere_cons_of_some hhere]
              constructor
              · intro heq
                have hlength := congrArg List.length heq
                simp only [allFrom, List.length_cons] at hlength
                omega
              · rintro ⟨⟨hnone, -⟩, -⟩
                contradiction
      | zero =>
          cases hhere : f (c :: s) with
          | none =>
              rw [everywhere_cons_of_none hhere, apart_cons_iff_of_none hhere]
              simpa [allFrom, hhere] using ih 0
          | some find =>
              rw [everywhere_cons_of_some hhere, apart_cons_iff_of_some hhere]
              simpa [allFrom, hhere] using ih _

/-- A repeated search misses nothing exactly if no find covers another. -/
theorem all_eq_everywhere_iff {s : Text} : all f s = everywhere f s ↔ Apart f s := by
  rw [all, allFrom_eq_everywhere_iff]
  simp

end Scan

/-! ## Join clauses as cuts of the text -/

namespace Clause

open Scan

/-- A comparison is a name, an operator and a name, with any blanks between them. -/
theorem exists_of_comparison {s condition rest : Text}
    (hfound : comparison s = some (condition, rest)) :
    ∃ left before operator after right,
      condition = left ++ (before ++ (operator ++ (after ++ right))) ∧ s = condition ++ rest ∧
        IsQualified left ∧ (∀ c ∈ before, isBlank c = true) ∧ IsOperator operator ∧
        (∀ c ∈ after, isBlank c = true) ∧ IsQualified right ∧ Halts isQualifiedChar rest := by
  simp only [comparison, run, Option.bind_eq_bind, Option.bind_eq_some_iff] at hfound
  rcases hfound with ⟨⟨left, t⟩, hleft, ⟨operator, u⟩, hoperator, ⟨right, v⟩, hright, heq⟩
  rcases someRun_eq_some_iff.mp hleft with ⟨rfl, hleftNe, hleftAll, -⟩
  rcases someRun_eq_some_iff.mp hoperator with ⟨ht, hopNe, hopAll, -⟩
  rcases someRun_eq_some_iff.mp hright with ⟨hu, hrightNe, hrightAll, hrest⟩
  simp only [Option.some.injEq, Prod.mk.injEq] at heq
  rcases heq with ⟨rfl, rfl⟩
  refine ⟨left, t.takeWhile isBlank, operator, u.takeWhile isBlank, right, by simp, ?_,
    ⟨hleftNe, hleftAll⟩, fun _ => List.mem_takeWhile_imp, ⟨hopNe, hopAll⟩,
    fun _ => List.mem_takeWhile_imp, ⟨hrightNe, hrightAll⟩, hrest⟩
  have hcut : t = t.takeWhile isBlank ++ (operator ++ (u.takeWhile isBlank ++ (right ++ v))) := by
    calc
      t = t.takeWhile isBlank ++ t.dropWhile isBlank := List.takeWhile_append_dropWhile.symm
      _ = t.takeWhile isBlank ++ (operator ++ (u.takeWhile isBlank ++ u.dropWhile isBlank)) := by
        rw [ht, List.takeWhile_append_dropWhile]
      _ = _ := by rw [hu]
  simpa using hcut

/-- A join clause is a joined table, `on`, and a comparison behind it. -/
theorem exists_of_joinHere {s rest : Text} {j : Join} (hfound : joinHere s = some (j, rest)) :
    ∃ v u after, joinedHere s = some (j.table, v ++ (onWord ++ (u ++ after))) ∧ Blanks v ∧
      Blanks u ∧ comparison after = some (j.condition, rest) := by
  simp only [joinHere, Option.bind_eq_bind, Option.bind_eq_some_iff] at hfound
  rcases hfound with ⟨⟨table, behind⟩, hjoined, t, hblanks, t', hon, after, hblanks',
    ⟨condition, rest'⟩, hcondition, hjoin⟩
  simp only [Option.some.injEq, Prod.mk.injEq] at hjoin
  rcases hjoin with ⟨rfl, rfl⟩
  rcases afterBlanks_eq_some_iff.mp hblanks with ⟨v, rfl, hv, -⟩
  rcases afterBlanks_eq_some_iff.mp hblanks' with ⟨u, rfl, hu, -⟩
  rw [afterWord_eq_some_iff.mp hon] at hjoined
  exact ⟨v, u, after, hjoined, hv, hu, hcondition⟩

/-- The comparison of a join clause is not empty. -/
theorem condition_ne_nil_of_joinHere {s rest : Text} {j : Join}
    (hfound : joinHere s = some (j, rest)) : j.condition ≠ [] := by
  rcases exists_of_joinHere hfound with ⟨-, -, after, -, -, -, hcomparison⟩
  rcases exists_of_comparison hcomparison with ⟨left, _, _, _, _, hcondition, -, hleft, -⟩
  rw [hcondition]
  simp [hleft.1]

/-- A join clause ends with its comparison, before which its table stands. -/
theorem exists_append_of_joinHere {s rest : Text} {j : Join}
    (hfound : joinHere s = some (j, rest)) : ∃ p, p ≠ [] ∧ s = p ++ (j.condition ++ rest) := by
  rcases exists_of_joinHere hfound with ⟨v, u, after, hjoined, -, -, hcomparison⟩
  rcases exists_of_comparison hcomparison with ⟨-, -, -, -, -, -, hafter, -⟩
  rcases joinedHere_eq_some_iff.mp hjoined with ⟨w, rfl, -, -, -⟩
  refine ⟨joinWord ++ w ++ j.table ++ v ++ onWord ++ u, by simp [joinWord], ?_⟩
  rw [hafter]
  simp

/-! ## Joins within joins -/

/-- The letter with which `join` starts is not blank. -/
theorem j_not_mem_blanks {w : Text} (hw : ∀ c ∈ w, isBlank c = true) : 'j' ∉ w := by
  intro hmem
  have hblank := hw 'j' hmem
  contradiction

/-- A run of characters of names that starts with `join` and blanks is that word alone. -/
theorem joinWord_eq_of_run {w x p rest : Text} (hw : Blanks w)
    (heq : joinWord ++ (w ++ x) = p ++ rest) (hp : ∀ c ∈ p, isQualifiedChar c = true)
    (hrest : Halts isQualifiedChar rest) : joinWord = p := by
  have hjoin : ∀ c ∈ joinWord, isQualifiedChar c = true := fun c hc =>
    isQualifiedChar_of_isNameChar (isWord_joinWord.2 c hc)
  calc
    joinWord = (joinWord ++ (w ++ x)).takeWhile isQualifiedChar :=
      (takeWhile_append_of_halts hjoin (separated_append hw x).halts_qualified).symm
    _ = (p ++ rest).takeWhile isQualifiedChar := congrArg _ heq
    _ = p := takeWhile_append_of_halts hp hrest

/--
A table is joined within a comparison only where the second name ends with `join`:
behind the first name stands the operator, and no table.
-/
theorem ends_of_comparison {after condition rest t : Text}
    (hcomparison : comparison after = some (condition, rest)) (hsuffix : t <:+ after)
    (hjoined : (joinedHere t).isSome = true) (hlength : rest.length < t.length) :
    joinWord <:+ condition ∧ t = joinWord ++ rest := by
  rcases Option.isSome_iff_exists.mp hjoined with ⟨⟨name, beyond⟩, hname⟩
  rcases joinedHere_eq_some_iff.mp hname with ⟨w, rfl, hw, hword, -⟩
  rcases exists_of_comparison hcomparison with ⟨left, before, operator, gap, right, rfl, rfl,
    hleft, hbefore, hoperator, hgap, hright, hrest⟩
  have hoperatorJ : 'j' ∉ operator := by
    intro hmem
    have hop := hoperator.2 'j' hmem
    contradiction
  simp only [List.append_assoc] at hsuffix
  rcases suffix_append_cases hsuffix with hlater | ⟨p, -, hp, heq⟩
  · have hlast := suffix_of_not_mem (j_not_mem_blanks hgap)
      (suffix_of_not_mem hoperatorJ (suffix_of_not_mem (j_not_mem_blanks hbefore) hlater))
    rcases suffix_append_cases hlast with hpast | ⟨p, -, hp, heq⟩
    · exact absurd hpast.length_le (Nat.not_le_of_gt hlength)
    · have hrun := joinWord_eq_of_run hw heq (fun c hc => hright.2 c (hp.subset hc)) hrest
      rw [← hrun] at hp heq
      exact ⟨hp.trans ⟨left ++ before ++ operator ++ gap, by simp⟩, heq⟩
  · exfalso
    have hop := (hoperator.halts (gap ++ (right ++ rest))).1
    have hmiddle := halts_gap hbefore (fun _ => isQualifiedChar_of_isBlank) hop
    have hrun := joinWord_eq_of_run hw heq (fun c hc => hleft.2 c (hp.subset hc)) hmiddle
    rw [← hrun] at heq
    -- Behind the blanks, the name of a table would be the operator.
    have hsame : name ++ beyond = operator ++ (gap ++ (right ++ rest)) := by
      have hdrop := congrArg (List.dropWhile isBlank) (List.append_cancel_left heq)
      rwa [dropWhile_append_of_halts hw.2 (halts_blank_word hword beyond),
        dropWhile_append_of_halts hbefore (hoperator.halts _).2] at hdrop
    rcases List.exists_cons_of_ne_nil hword.1 with ⟨c, more, rfl⟩
    have hqualified := hop c (by rw [← hsame]; rfl)
    rw [isQualifiedChar_of_isNameChar (hword.2 c List.mem_cons_self)] at hqualified
    contradiction

/--
A join clause covers a further joined table only with the end of its comparison, if
the name of its own table does not end with `join`.
-/
theorem ends_of_covered {q t rest : Text} {j : Join} (hq : q ≠ [])
    (hfound : joinHere (q ++ t) = some (j, rest)) (hjoined : (joinedHere t).isSome = true)
    (hlength : rest.length < t.length) (htable : ¬ joinWord <:+ j.table) :
    joinWord <:+ j.condition ∧ t = joinWord ++ rest := by
  rcases Option.isSome_iff_exists.mp hjoined with ⟨⟨name, beyond⟩, hname⟩
  rcases joinedHere_eq_some_iff.mp hname with ⟨w, ht, hw, -, -⟩
  rcases exists_of_joinHere hfound with ⟨v, u, after, hhere, hv, hu, hcomparison⟩
  have hbehind : t <:+ v ++ (onWord ++ (u ++ after)) := by
    rcases joinedHere_eq_some_iff.mp hhere with ⟨w', heq, -⟩
    apply List.suffix_of_suffix_length_le (List.suffix_append q t)
    · exact ⟨joinWord ++ w' ++ j.table, by rw [heq]; simp⟩
    · by_contra hlong
      exact htable (ends_of_hidden hq ht hw hhere (by omega))
  have hcompared : t <:+ after := by
    rw [ht] at hbehind ⊢
    exact suffix_of_not_mem (j_not_mem_blanks hu.2) (suffix_of_not_mem (by decide)
      (suffix_of_not_mem (j_not_mem_blanks hv.2) hbehind))
  exact ends_of_comparison hcomparison hcompared hjoined hlength

/-! ## Every joined table with a comparison -/

/--
Every table that is joined is compared: a comparison follows each name behind `join`,
and no comparison ends with a `join` that joins a further table.
-/
structure AllCompared (s : Text) : Prop where
  compared : ∀ t, t <:+ s → (joinedHere t).isSome = true → (joinHere t).isSome = true
  apart : ∀ t j rest, t <:+ s → joinHere t = some (j, rest) → joinWord <:+ j.condition →
    joinedHere (joinWord ++ rest) = none

/-- Where a join is found, so is its table. -/
theorem joinedHere_isSome_of_joinHere {t rest : Text} {j : Join}
    (hfound : joinHere t = some (j, rest)) : (joinedHere t).isSome = true := by
  rcases joinedHere_of_joinHere hfound with ⟨behind, hjoined⟩
  simp [hjoined]

/-- The tables of all join clauses are tables that are joined, in their order. -/
theorem everywhere_joinHere_sublist (s : Text) :
    ((everywhere joinHere s).map Join.table).Sublist (everywhere joinedHere s) := by
  induction s with
  | nil => exact List.Sublist.refl _
  | cons c s ih =>
      cases hhere : joinHere (c :: s) with
      | none =>
          rw [everywhere_cons_of_none hhere]
          exact ih.trans (List.sublist_append_right _ _)
      | some find =>
          rcases joinedHere_of_joinHere hhere with ⟨behind, hjoined⟩
          rw [everywhere_cons_of_some hhere, everywhere_cons_of_some hjoined]
          exact ih.cons_cons _

/-- They are all of these exactly if a comparison follows each name. -/
theorem everywhere_joinHere_eq_iff {s : Text} :
    (everywhere joinHere s).map Join.table = everywhere joinedHere s ↔
      ∀ t, t <:+ s → (joinedHere t).isSome = true → (joinHere t).isSome = true := by
  induction s with
  | nil =>
      simp [everywhere, joinedHere, afterWord, joinWord]
  | cons c s ih =>
      have hsplit : (∀ t, t <:+ c :: s → (joinedHere t).isSome = true →
          (joinHere t).isSome = true) ↔
          ((joinedHere (c :: s)).isSome = true → (joinHere (c :: s)).isSome = true) ∧
            ∀ t, t <:+ s → (joinedHere t).isSome = true → (joinHere t).isSome = true := by
        simp only [List.suffix_cons_iff, or_imp, forall_and, forall_eq]
      rw [hsplit, ← ih]
      cases hhere : joinHere (c :: s) with
      | some find =>
          rcases joinedHere_of_joinHere hhere with ⟨behind, hjoined⟩
          rw [everywhere_cons_of_some hhere, everywhere_cons_of_some hjoined]
          simp
      | none =>
          rw [everywhere_cons_of_none hhere]
          cases hjoined : joinedHere (c :: s) with
          | none =>
              rw [everywhere_cons_of_none hjoined]
              simp
          | some find =>
              -- A table without a comparison is missing, and nothing later makes up for it.
              have hshort := (everywhere_joinHere_sublist s).length_le
              rw [everywhere_cons_of_some hjoined]
              constructor
              · intro heq
                have hlength := congrArg List.length heq
                simp only [List.length_cons] at hlength
                omega
              · rintro ⟨hsome, -⟩
                simp at hsome

/-- Where no name of a joined table ends with `join`, all joined tables are found. -/
theorem joined_eq_everywhere {s : Text} (hnames : ∀ name ∈ joined s, ¬ joinWord <:+ name) :
    joined s = everywhere joinedHere s ∧
      ∀ t name rest, t <:+ s → joinedHere t = some (name, rest) → ¬ joinWord <:+ name := by
  have hplaces : ∀ t name rest, t <:+ s → joinedHere t = some (name, rest) →
      ¬ joinWord <:+ name := by
    intro t name rest hsuffix hfound
    -- A place that was passed over is within an earlier name, which then ends with `join`.
    rcases joinedHere_eq_some_iff.mp hfound with ⟨w, ht, hw, -, -⟩
    have hne : t ≠ [] := by
      rw [ht]
      simp [joinWord]
    rcases mem_all_or_hidden hne hsuffix hfound with
      hmem | ⟨q, other, after, hq, hhidden, hmem, hlength⟩
    · exact hnames name hmem
    · exact absurd (ends_of_hidden hq ht hw hhidden hlength) (hnames other hmem)
  refine ⟨all_eq_everywhere_iff.mpr ?_, hplaces⟩
  intro t name rest u ht hfound hu hne hlength
  by_contra hsome
  rcases Option.ne_none_iff_exists'.mp hsome with ⟨⟨other, after⟩, hother⟩
  rcases joinedHere_eq_some_iff.mp hother with ⟨w, hcut, hw, -, -⟩
  rcases hu with ⟨q, rfl⟩
  have hq : q ≠ [] := by
    rintro rfl
    exact hne rfl
  exact hplaces _ name rest ht hfound (ends_of_hidden hq hcut hw hfound hlength)

/-- No join clause covers another exactly if no comparison ends with a further `join`. -/
theorem apart_joinHere_iff {s : Text}
    (hcompared : ∀ t, t <:+ s → (joinedHere t).isSome = true → (joinHere t).isSome = true)
    (hnames : ∀ t name rest, t <:+ s → joinedHere t = some (name, rest) → ¬ joinWord <:+ name) :
    Apart joinHere s ↔ ∀ t j rest, t <:+ s → joinHere t = some (j, rest) →
      joinWord <:+ j.condition → joinedHere (joinWord ++ rest) = none := by
  constructor
  · rintro hapart t j rest ht hfound ⟨p, hp⟩
    rcases exists_append_of_joinHere hfound with ⟨p', hne, heq⟩
    have hcut : t = (p' ++ p) ++ (joinWord ++ rest) := by
      rw [heq, ← hp]
      simp
    have hinside : joinWord ++ rest <:+ t := ⟨p' ++ p, hcut.symm⟩
    have hshorter : joinWord ++ rest ≠ t := by
      intro hsame
      rw [← hsame] at hcut
      exact hne (List.append_eq_nil_iff.mp (List.self_eq_append_left.mp hcut)).1
    have hlonger : rest.length < (joinWord ++ rest).length := by
      rw [List.length_append]
      simp [joinWord]
    -- A further join there would start inside the clause and reach beyond it.
    by_contra hsome
    have hfurther := hcompared _ (hinside.trans ht) (Option.isSome_iff_ne_none.mpr hsome)
    rw [hapart t j rest _ ht hfound hinside hshorter hlonger] at hfurther
    contradiction
  · intro hends t j rest u ht hfound hu hne hlength
    by_contra hsome
    rcases Option.ne_none_iff_exists'.mp hsome with ⟨⟨k, after⟩, hfurther⟩
    have hjoined := joinedHere_isSome_of_joinHere hfurther
    rcases joinedHere_of_joinHere hfound with ⟨behind, htable⟩
    rcases hu with ⟨q, rfl⟩
    have hq : q ≠ [] := by
      rintro rfl
      exact hne rfl
    rcases ends_of_covered hq hfound hjoined hlength (hnames _ _ _ ht htable) with ⟨hword, rfl⟩
    rw [hends _ j rest ht hfound hword] at hjoined
    contradiction

end Clause

/-! ## Attached tables -/

namespace Algebra

open Clause

/-- The tables that an expression attaches by joins or products, from the inside out. -/
def attached : Algebra → List Text
  | relation _ => []
  | thetaJoin left _ right => left.attached ++ [right]
  | product left right => left.attached ++ [right]
  | selection _ rows => rows.attached
  | projection _ rows => rows.attached

/-- A further join attaches its table. -/
theorem attached_attach (left : Algebra) (j : Join) :
    (left.attach j).attached = left.attached ++ [j.table] := by
  rw [attach]
  split <;> rfl

/-- Joins attach their tables in order. -/
theorem attached_foldl_attach (joins : List Join) (left : Algebra) :
    (joins.foldl attach left).attached = left.attached ++ joins.map Join.table := by
  induction joins generalizing left with
  | nil => simp
  | cons j joins ih => simp [ih, attached_attach]

/-- A join with a comparison is no product. -/
theorem thetaTables_foldl_attach {joins : List Join} (hne : ∀ j ∈ joins, j.condition ≠ [])
    (left : Algebra) :
    (joins.foldl attach left).thetaTables = left.thetaTables ++ joins.map Join.table := by
  induction joins generalizing left with
  | nil => simp
  | cons j joins ih =>
      rcases List.forall_mem_cons.mp hne with ⟨hj, hne⟩
      simp [ih hne, attach, hj, thetaTables]

/-- A translated query attaches the tables of its join clauses from left to right. -/
theorem attached_algebra (p : Query.Parts) : p.algebra.attached = p.joins.map Join.table := by
  have hjoined : p.joined.attached = p.joins.map Join.table := by
    rw [Query.Parts.joined, attached_foldl_attach]
    rfl
  rw [Query.Parts.algebra, attached, Query.Parts.rows]
  split
  · exact hjoined
  · exact hjoined

/-- If all joins have a comparison, theirs are the tables of the theta joins. -/
theorem thetaTables_algebra {p : Query.Parts} (hne : ∀ j ∈ p.joins, j.condition ≠ []) :
    p.algebra.thetaTables = p.joins.map Join.table := by
  have hjoined : p.joined.thetaTables = p.joins.map Join.table := by
    rw [Query.Parts.joined, thetaTables_foldl_attach hne]
    rfl
  rw [Query.Parts.algebra, thetaTables, Query.Parts.rows]
  split
  · exact hjoined
  · exact hjoined

end Algebra

namespace Query

open Scan Clause

/-- No name of a joined table of a query that is valid in the shop ends with `join`. -/
theorem not_ends_of_mem_joined {s : Text}
    (hknown : ∀ name ∈ mentioned s, Schema.shop.has name = true) :
    ∀ name ∈ joined s, ¬ joinWord <:+ name := by
  intro name hname
  have hshop : ∀ table ∈ Schema.shop.tables, ¬ joinWord <:+ table.name.toList := by decide +kernel
  have hhas := hknown _ (mem_mentioned.mpr (Or.inr ⟨name, hname, rfl⟩))
  rcases Schema.exists_of_has hhas with ⟨table, htable, heq⟩
  have hnot := hshop table htable
  rwa [heq, String.toList_ofList] at hnot

/--
Of the joined tables of a valid query, the translation attaches some in their order,
and each of these on a comparison.  It attaches all of them exactly if a comparison
follows every name behind `join`, and no comparison ends with the `join` of a
further table.
-/
theorem attached_eq_joined_iff (query : Text) (hvalid : isValid .shop query = true) :
    (parts query).algebra.thetaTables = (parts query).algebra.attached ∧
    ((parts query).algebra.attached).Sublist (joined (Text.lower query)) ∧
    ((parts query).algebra.attached = joined (Text.lower query) ↔
      AllCompared (Text.lower query)) := by
  rw [isValid_eq_isEmpty, List.isEmpty_iff, faults] at hvalid
  rcases faultsOf_eq_nil_iff.mp hvalid with ⟨-, -, hknown, -⟩
  rcases joined_eq_everywhere (not_ends_of_mem_joined hknown) with ⟨hjoined, hplaces⟩
  have hattached : (parts query).algebra.attached =
      (all joinHere (Text.lower query)).map Join.table := Algebra.attached_algebra (parts query)
  have hclauses := (all_sublist_everywhere (f := joinHere) (Text.lower query)).map Join.table
  have htables := everywhere_joinHere_sublist (Text.lower query)
  refine ⟨?_, ?_, ?_⟩
  · rw [Algebra.attached_algebra]
    apply Algebra.thetaTables_algebra
    intro j hj
    rcases exists_of_mem_all hj with ⟨t, rest, -, hfound⟩
    exact condition_ne_nil_of_joinHere hfound
  · rw [hattached, hjoined]
    exact hclauses.trans htables
  · rw [hattached, hjoined]
    constructor
    · intro heq
      -- Between two equal lists, the tables of all clauses are the same list too.
      have hall : (everywhere joinHere (Text.lower query)).map Join.table =
          everywhere joinedHere (Text.lower query) := by
        apply htables.eq_of_length_le
        rw [← heq]
        exact hclauses.length_le
      have hfound : all joinHere (Text.lower query) = everywhere joinHere (Text.lower query) := by
        apply (all_sublist_everywhere _).eq_of_length
        have hlength := congrArg List.length (heq.trans hall.symm)
        simpa using hlength
      have hcompared := everywhere_joinHere_eq_iff.mp hall
      exact ⟨hcompared,
        (apart_joinHere_iff hcompared hplaces).mp (all_eq_everywhere_iff.mp hfound)⟩
    · rintro ⟨hcompared, hapart⟩
      rw [all_eq_everywhere_iff.mpr ((apart_joinHere_iff hcompared hplaces).mpr hapart)]
      exact everywhere_joinHere_eq_iff.mpr hcompared

/-- The one join of the orders of customers is compared. -/
theorem allCompared_customerOrders :
    isValid .shop Statement.customerOrdersTyped = true ∧
      (parts Statement.customerOrdersTyped).algebra.attached = ["pedido".toList] ∧
      AllCompared (Text.lower Statement.customerOrdersTyped) := by
  have hattached : (parts Statement.customerOrdersTyped).algebra.attached =
      ["pedido".toList] := by
    rw [parts, Statement.lower_customerOrdersTyped]
    decide +kernel
  have hjoined : joined (Text.lower Statement.customerOrdersTyped) = ["pedido".toList] := by
    rw [Statement.lower_customerOrdersTyped]
    decide +kernel
  exact ⟨customerOrders_valid, hattached,
    (attached_eq_joined_iff _ customerOrders_valid).2.2.mp (hattached.trans hjoined.symm)⟩

/-- A query that joins a table without any condition. -/
def bareJoin : Text :=
  "SELECT nome, status FROM cliente JOIN pedido".toList

/-- A table that is joined without a condition is checked, and then lost. -/
theorem attached_bareJoin :
    isValid .shop bareJoin = true ∧ joined (Text.lower bareJoin) = ["pedido".toList] ∧
      (parts bareJoin).algebra.attached = [] := by
  have hlower : Text.lower bareJoin = "select nome, status from cliente join pedido".toList := by
    decide +kernel
  rw [isValid_eq_isEmpty, faults, parts, hlower]
  decide +kernel

-- The second `join` is used up by the comparison before it.
example :
    let s := "select nome from cliente join pedido on a = join produto on b = c".toList
    joined s = ["pedido".toList, "produto".toList] ∧
      (Parts.ofText s).algebra.attached = ["pedido".toList] := by
  decide +kernel

end Query
end QueryAlgebra
