import QueryAlgebra.Algebra
import QueryAlgebra.Proofs.Scanning

/-!
# Laws of the clauses

Each clause is found where it is written: behind its word and blanks, up to the
first character that cannot belong to it.  The words of a query consist of name
characters, so no word reaches across a blank or a comma.

Main results:

- Theorem `projection_append`: the projected columns stand between `select` and
  the first `from` behind them.
- Theorem `projection_trimmed`: whatever the query, its columns have no blanks at
  either end.
- Theorems `sourceHere_eq_some_iff` and `joinedHere_eq_some_iff`: the clauses of
  tables as cuts of the text.
- Theorem `joinHere_append`: a join clause with its condition is read as written.
- Theorem `condition_append`: a condition reaches to the first later clause.
- Theorem `table_mem_joined_or_ends`: a table joined on a condition is among all
  joined tables, unless one of these ends with the word `join`.
-/

namespace QueryAlgebra
namespace Clause

open Scan

/-! ## Character classes -/

theorem isQualifiedChar_iff {c : Char} :
    isQualifiedChar c = true ↔
      (97 ≤ c.toNat ∧ c.toNat ≤ 122) ∨ (48 ≤ c.toNat ∧ c.toNat ≤ 57) ∨
        c.toNat = 95 ∨ c.toNat = 46 := by
  simp only [isQualifiedChar, isNameChar, Char.le_def, UInt32.le_iff_toNat_le, ← Char.toNat_inj,
    Bool.or_eq_true, Bool.and_eq_true, decide_eq_true_eq, beq_iff_eq, Char.toNat_val]
  simp
  omega

theorem isOperatorChar_iff {c : Char} :
    isOperatorChar c = true ↔ c = '=' ∨ c = '<' ∨ c = '>' ∨ c = '!' := by
  simp [isOperatorChar, or_assoc]

theorem isQualifiedChar_of_isNameChar {c : Char} (hc : isNameChar c = true) :
    isQualifiedChar c = true := by
  simp [isQualifiedChar, hc]

/-- No character of a qualified name is blank. -/
theorem isBlank_of_isQualifiedChar {c : Char} (hc : isQualifiedChar c = true) :
    isBlank c = false := by
  rw [isQualifiedChar_iff] at hc
  simp only [isBlank, Bool.or_eq_false_iff, Bool.and_eq_false_iff, decide_eq_false_iff_not,
    beq_eq_false_iff_ne]
  omega

/-- No character of an operator belongs to a name or is blank. -/
theorem classes_of_isOperatorChar {c : Char} (hc : isOperatorChar c = true) :
    isQualifiedChar c = false ∧ isBlank c = false := by
  rcases isOperatorChar_iff.mp hc with rfl | rfl | rfl | rfl <;> decide

theorem isQualifiedChar_of_isBlank {c : Char} (hc : isBlank c = true) :
    isQualifiedChar c = false := by
  cases hq : isQualifiedChar c with
  | false => rfl
  | true =>
      rw [isBlank_of_isQualifiedChar hq] at hc
      contradiction

theorem isOperatorChar_of_isQualifiedChar {c : Char} (hc : isQualifiedChar c = true) :
    isOperatorChar c = false := by
  cases ho : isOperatorChar c with
  | false => rfl
  | true =>
      rw [(classes_of_isOperatorChar ho).1] at hc
      contradiction

theorem isOperatorChar_of_isBlank {c : Char} (hc : isBlank c = true) :
    isOperatorChar c = false := by
  cases ho : isOperatorChar c with
  | false => rfl
  | true =>
      rw [(classes_of_isOperatorChar ho).2] at hc
      contradiction

/-! ## Words between blanks -/

/-- A word of name characters. -/
def IsWord (word : Text) : Prop :=
  word ≠ [] ∧ ∀ c ∈ word, isNameChar c = true

instance (word : Text) : Decidable (IsWord word) :=
  inferInstanceAs (Decidable (_ ∧ _))

/-- A text that is empty or starts with a blank. -/
def Separated (t : Text) : Prop :=
  ∀ c, t.head? = some c → isBlank c = true

@[simp] theorem separated_nil : Separated [] := by
  intro c hc
  simp at hc

/-- What starts apart ends a qualified name. -/
theorem Separated.halts_qualified {t : Text} (ht : Separated t) : Halts isQualifiedChar t := by
  intro c hc
  exact isQualifiedChar_of_isBlank (ht c hc)

/-- What starts apart ends a name. -/
theorem Separated.halts_name {t : Text} (ht : Separated t) : Halts isNameChar t :=
  ht.halts_qualified.mono fun _ hc => isQualifiedChar_of_isNameChar hc

theorem separated_append {w : Text} (hw : Blanks w) (t : Text) : Separated (w ++ t) := by
  rcases hw with ⟨hne, hw⟩
  cases w with
  | nil => contradiction
  | cons b w =>
      intro c hc
      rw [List.cons_append, List.head?_cons, Option.some.injEq] at hc
      rw [← hc]
      exact hw b List.mem_cons_self

/-- No word begins before a character that is outside names and ends behind it. -/
theorem cut_of_halts {word u t : Text} (hword : IsWord word) (ht : Halts isNameChar t) :
    Cut word u t := by
  right
  intro c hc hmem
  have hname := hword.2 c hmem
  rw [ht c hc] at hname
  contradiction

/-- One or more characters outside of names, as between two words. -/
def Spacer (m : Text) : Prop :=
  m ≠ [] ∧ ∀ c ∈ m, isNameChar c = false

theorem isNameChar_of_isBlank {c : Char} (hc : isBlank c = true) : isNameChar c = false := by
  have hqualified := isQualifiedChar_of_isBlank hc
  simp only [isQualifiedChar, Bool.or_eq_false_iff] at hqualified
  exact hqualified.1

theorem spacer_of_blanks {w : Text} (hw : Blanks w) : Spacer w :=
  ⟨hw.1, fun c hc => isNameChar_of_isBlank (hw.2 c hc)⟩

theorem Spacer.halts_name {m : Text} (hm : Spacer m) (t : Text) : Halts isNameChar (m ++ t) :=
  (halts_of_forall hm.2).append hm.1 t

/-- No word begins among characters outside of names. -/
theorem cut_of_spacer {word m t : Text} (hword : IsWord word) (hm : Spacer m) : Cut word m t := by
  left
  intro c hc hmem
  have hname := hword.2 c hmem
  rw [hm.2 c (List.mem_of_getLast? hc)] at hname
  contradiction

/-- What keeps keywords apart contains none. -/
theorem Spacer.lacks {word m : Text} (hm : Spacer m) (hword : IsWord word) : Lacks word m := by
  rcases hword with ⟨hne, hword⟩
  cases word with
  | nil => contradiction
  | cons d word =>
      apply lacks_of_not_mem (c := d) List.mem_cons_self
      intro hmem
      have hname := hword d List.mem_cons_self
      rw [hm.2 d hmem] at hname
      contradiction

/-- A word that is not behind a spacer is not in the text with it either. -/
theorem lacks_spacer_append {word m v : Text} (hword : IsWord word) (hm : Spacer m)
    (hv : Lacks word v) : Lacks word (m ++ v) :=
  (hm.lacks hword).append hv (cut_of_spacer hword hm)

/-- A word occurs in two texts with a spacer between them only if it occurs in one of them. -/
theorem lacks_append_spacer {word u m v : Text} (hword : IsWord word) (hu : Lacks word u)
    (hm : Spacer m) (hv : Lacks word v) : Lacks word (u ++ (m ++ v)) :=
  hu.append (lacks_spacer_append hword hm hv) (cut_of_halts hword (hm.halts_name v))

/-! ## Texts without blanks at their ends -/

/-- A text that neither starts nor ends with a blank. -/
def Trimmed (s : Text) : Prop :=
  Halts isBlank s ∧ Halts isBlank s.reverse

instance (s : Text) : Decidable (Trimmed s) :=
  inferInstanceAs (Decidable (_ ∧ _))

/-- Trimming leaves a text as it is that has no blanks at either end. -/
theorem Trimmed.trim_eq {s : Text} (hs : Trimmed s) : Text.trim s = s := by
  have hstart : s.dropWhile isBlank = s := dropWhile_append_of_halts (u := []) (by simp) hs.1
  have hend : s.reverse.dropWhile isBlank = s.reverse :=
    dropWhile_append_of_halts (u := []) (by simp) hs.2
  rw [Text.trim, Text.trimStart, hstart, Text.trimEnd, hend, List.reverse_reverse]

/-- The end of a text is the end of each of its last stretches. -/
theorem halts_reverse_of_suffix {p : Char → Bool} {u v : Text} (huv : v <:+ u)
    (hu : Halts p u.reverse) : Halts p v.reverse := by
  rcases huv with ⟨q, rfl⟩
  intro c hc
  apply hu c
  rw [List.reverse_append, List.head?_append, hc]
  rfl

/--
Blanks at the start of two texts lie within the first one, if that does not end
with a blank.
-/
theorem exists_of_blanks_append {w x y t : Text} (hx : x ≠ []) (hend : Halts isBlank x.reverse)
    (hw : ∀ c ∈ w, isBlank c = true) (heq : x ++ t = w ++ y) :
    ∃ v, v ≠ [] ∧ x = w ++ v ∧ y = v ++ t := by
  have hlast : isBlank (x.getLast hx) = false := by
    apply hend
    rw [List.head?_reverse, List.getLast?_eq_some_getLast hx]
  rcases List.append_eq_append_iff.mp heq with ⟨v, rfl, -⟩ | ⟨v, rfl, rfl⟩
  · rw [hw _ (List.mem_append_left v (List.getLast_mem hx))] at hlast
    contradiction
  · refine ⟨v, ?_, rfl, rfl⟩
    rintro rfl
    rw [hw _ (by simp)] at hlast
    contradiction

/-! ## Projection -/

theorem isWord_fromWord : IsWord fromWord := by decide

theorem halts_blank_word {word : Text} (hword : IsWord word) (t : Text) :
    Halts isBlank (word ++ t) := by
  refine (halts_of_forall ?_).append hword.1 t
  intro c hc
  exact isBlank_of_isQualifiedChar (isQualifiedChar_of_isNameChar (hword.2 c hc))

/-- What stands between a word and a stop is found at the word only. -/
theorem awaits_between (word : Text) (stops : Text → Bool) :
    Awaits word (between word stops) := by
  intro s hs
  simp [between, hs]

/-- The table clause may follow after blanks. -/
theorem fromNext_append {w : Text} (hw : Blanks w) (rest : Text) :
    fromNext (w ++ (fromWord ++ rest)) = true := by
  simp [fromNext, afterFrom, afterBlanks_append hw (halts_blank_word isWord_fromWord rest)]

/-- `from` does not come next within a text that lacks it and does not end with a blank. -/
theorem fromNext_eq_false {x t : Text} (hx : x ≠ []) (hend : Halts isBlank x.reverse)
    (hlacks : Lacks fromWord x) (ht : Halts isNameChar t) : fromNext (x ++ t) = false := by
  rw [fromNext, Option.isSome_eq_false_iff, Option.isNone_iff_eq_none]
  cases hfound : afterFrom (x ++ t) with
  | none => rfl
  | some rest =>
      simp only [afterFrom, Option.bind_eq_some_iff] at hfound
      rcases hfound with ⟨y, hblanks, hfrom⟩
      rcases afterBlanks_eq_some_iff.mp hblanks with ⟨w, heq, hw, -⟩
      rcases exists_of_blanks_append hx hend hw.2 heq with ⟨v, hv, rfl, rfl⟩
      have hstarts : fromWord <+: v ++ t := ⟨rest, (afterWord_eq_some_iff.mp hfrom).symm⟩
      have hinside := prefix_of_prefix_append hv (cut_of_halts isWord_fromWord ht) hstarts
      exact absurd (hinside.isInfix.trans (List.suffix_append w v).isInfix) hlacks

/--
The projected columns of a query that starts with `select`: all up to the blanks
before `from`, if they stand in one line and do not contain the word `from`.
-/
theorem projection_append {w v columns t : Text} (hw : Blanks w) (hv : Blanks v)
    (htrimmed : Trimmed columns) (hne : columns ≠ []) (hinline : ∀ c ∈ columns, c ≠ '\n')
    (hlacks : Lacks fromWord columns) :
    projection (selectWord ++ (w ++ (columns ++ (v ++ (fromWord ++ t))))) = some columns := by
  have hsearch : upTo fromNext (columns ++ (v ++ (fromWord ++ t))) = some columns := by
    apply upTo_append (fromNext_append hv t) hinline
    intro x hx hxne
    exact fromNext_eq_false hxne (halts_reverse_of_suffix hx htrimmed.2)
      (hlacks.within hx.isInfix) (separated_append hv _).halts_name
  exact first_of_eq_some (between_append hw (htrimmed.1.append hne _) hsearch)

/-- Whatever the query, its columns have no blanks at either end. -/
theorem projection_trimmed {s columns : Text} (hfound : projection s = some columns) :
    Trimmed columns := by
  rcases exists_of_first hfound with ⟨t, -, hhere⟩
  rcases exists_of_between hhere with ⟨w, text, -, -, htext, hsearch | ⟨-, -, -, rfl⟩⟩
  · rcases exists_of_upTo hsearch with ⟨after, rfl, hstops, -, hshortest⟩
    constructor
    · intro c hc
      apply htext c
      rw [List.head?_append, hc]
      rfl
    · intro c hc
      by_contra hblank
      -- A blank at the end would itself be followed by `from`, so the search had stopped before.
      have hsuffix : [c] <:+ columns := by
        rw [List.head?_reverse] at hc
        exact List.singleton_suffix_iff_getLast?_eq_some.mpr hc
      have hgoes := hshortest [c] hsuffix (by simp)
      have hcomes : fromNext (c :: after) = true := by
        rw [fromNext, Option.isSome_iff_exists] at hstops ⊢
        rcases hstops with ⟨rest, hrest⟩
        simp only [afterFrom, Option.bind_eq_some_iff] at hrest
        rcases hrest with ⟨y, hblanks, hfrom⟩
        refine ⟨rest, ?_⟩
        simp [afterFrom, afterBlanks_cons (by simpa using hblank) hblanks, hfrom]
      rw [List.singleton_append, hcomes] at hgoes
      contradiction
  · simp [Trimmed]

/-! ## Tables -/

theorem isWord_joinWord : IsWord joinWord := by decide

theorem isWord_onWord : IsWord onWord := by decide

theorem lacks_joinWord_nil : Lacks joinWord [] := by decide

/-- A table is found at its keyword only. -/
theorem awaits_sourceHere : Awaits fromWord sourceHere := by
  intro s hs
  simp [sourceHere, hs]

/-- A joined table is found at its keyword only. -/
theorem awaits_joinedHere : Awaits joinWord joinedHere := by
  intro s hs
  simp [joinedHere, hs]

/-- A join is found at its keyword only. -/
theorem awaits_joinHere : Awaits joinWord joinHere := by
  intro s hs
  simp [joinHere, awaits_joinedHere s hs]

/-- A source clause is `from`, blanks, and a name that goes as far as it can. -/
theorem sourceHere_eq_some_iff {s name : Text} :
    sourceHere s = some name ↔
      ∃ w t, s = fromWord ++ (w ++ (name ++ t)) ∧ Blanks w ∧ IsWord name ∧
        Halts isNameChar t := by
  constructor
  · intro hfound
    simp only [sourceHere, Option.bind_eq_bind, Option.bind_eq_some_iff] at hfound
    rcases hfound with ⟨rest, hfrom, rest', hblanks, ⟨name', t⟩, hrun, hname⟩
    cases hname
    rcases afterBlanks_eq_some_iff.mp hblanks with ⟨w, rfl, hw, -⟩
    rcases someRun_eq_some_iff.mp hrun with ⟨rfl, hne, hall, ht⟩
    exact ⟨w, t, afterWord_eq_some_iff.mp hfrom, hw, ⟨hne, hall⟩, ht⟩
  · rintro ⟨w, t, rfl, hw, hname, ht⟩
    simp [sourceHere, afterBlanks_append hw (halts_blank_word hname t),
      someRun_append hname.1 hname.2 ht]

/-- A joined table is `join`, blanks, and a name that goes as far as it can. -/
theorem joinedHere_eq_some_iff {s name t : Text} :
    joinedHere s = some (name, t) ↔
      ∃ w, s = joinWord ++ (w ++ (name ++ t)) ∧ Blanks w ∧ IsWord name ∧
        Halts isNameChar t := by
  constructor
  · intro hfound
    simp only [joinedHere, Option.bind_eq_bind, Option.bind_eq_some_iff] at hfound
    rcases hfound with ⟨rest, hjoin, rest', hblanks, hrun⟩
    rcases afterBlanks_eq_some_iff.mp hblanks with ⟨w, rfl, hw, -⟩
    rcases someRun_eq_some_iff.mp hrun with ⟨rfl, hne, hall, ht⟩
    exact ⟨w, afterWord_eq_some_iff.mp hjoin, hw, ⟨hne, hall⟩, ht⟩
  · rintro ⟨w, rfl, hw, hname, ht⟩
    simp [joinedHere, afterBlanks_append hw (halts_blank_word hname t),
      someRun_append hname.1 hname.2 ht]

/-- A word of the characters of qualified names. -/
def IsQualified (name : Text) : Prop :=
  name ≠ [] ∧ ∀ c ∈ name, isQualifiedChar c = true

instance (name : Text) : Decidable (IsQualified name) :=
  inferInstanceAs (Decidable (_ ∧ _))

/-- A comparison operator. -/
def IsOperator (operator : Text) : Prop :=
  operator ≠ [] ∧ ∀ c ∈ operator, isOperatorChar c = true

instance (operator : Text) : Decidable (IsOperator operator) :=
  inferInstanceAs (Decidable (_ ∧ _))

theorem IsQualified.halts_blank {name : Text} (hname : IsQualified name) (t : Text) :
    Halts isBlank (name ++ t) := by
  refine (halts_of_forall ?_).append hname.1 t
  intro c hc
  exact isBlank_of_isQualifiedChar (hname.2 c hc)

/-- Neither names nor blanks go on into an operator. -/
theorem IsOperator.halts {operator : Text} (hoperator : IsOperator operator) (t : Text) :
    Halts isQualifiedChar (operator ++ t) ∧ Halts isBlank (operator ++ t) := by
  have hclasses : ∀ c ∈ operator, isQualifiedChar c = false ∧ isBlank c = false := by
    intro c hc
    exact classes_of_isOperatorChar (hoperator.2 c hc)
  constructor
  · exact (halts_of_forall fun c hc => (hclasses c hc).1).append hoperator.1 t
  · exact (halts_of_forall fun c hc => (hclasses c hc).2).append hoperator.1 t

/-- What ends before a text also ends before blanks and that text. -/
theorem halts_gap {p : Char → Bool} {gap t : Text} (hgap : ∀ c ∈ gap, isBlank c = true)
    (hp : ∀ c, isBlank c = true → p c = false) (ht : Halts p t) : Halts p (gap ++ t) := by
  cases gap with
  | nil => exact ht
  | cons b gap =>
      rw [List.cons_append, halts_cons]
      exact hp b (hgap b List.mem_cons_self)

/-- A comparison is read as it is written, with the blanks around its operator. -/
theorem comparison_append {left before operator after right t : Text}
    (hleft : IsQualified left) (hbefore : ∀ c ∈ before, isBlank c = true)
    (hoperator : IsOperator operator) (hafter : ∀ c ∈ after, isBlank c = true)
    (hright : IsQualified right) (ht : Halts isQualifiedChar t) :
    comparison (left ++ (before ++ (operator ++ (after ++ (right ++ t))))) =
      some (left ++ before ++ operator ++ after ++ right, t) := by
  have hop := hoperator.halts (after ++ (right ++ t))
  have hrightOperator : Halts isOperatorChar (right ++ t) := by
    refine (halts_of_forall ?_).append hright.1 t
    intro c hc
    exact isOperatorChar_of_isQualifiedChar (hright.2 c hc)
  have hleftRun := someRun_append hleft.1 hleft.2
    (halts_gap hbefore (fun _ => isQualifiedChar_of_isBlank) hop.1)
  have hoperatorRun := someRun_append hoperator.1 hoperator.2
    (halts_gap hafter (fun _ => isOperatorChar_of_isBlank) hrightOperator)
  simp [comparison, hleftRun, run, takeWhile_append_of_halts hbefore hop.2,
    dropWhile_append_of_halts hbefore hop.2, hoperatorRun,
    takeWhile_append_of_halts hafter (hright.halts_blank t),
    dropWhile_append_of_halts hafter (hright.halts_blank t),
    someRun_append hright.1 hright.2 ht]

/-- A join clause with its condition is read as it is written. -/
theorem joinHere_append {w v u table condition rest t : Text} (hw : Blanks w)
    (htable : IsWord table) (hv : Blanks v) (hu : Blanks u) (hrest : Halts isBlank rest)
    (hcondition : comparison rest = some (condition, t)) :
    joinHere (joinWord ++ (w ++ (table ++ (v ++ (onWord ++ (u ++ rest)))))) =
      some (⟨table, condition⟩, t) := by
  have hjoined : joinedHere (joinWord ++ (w ++ (table ++ (v ++ (onWord ++ (u ++ rest)))))) =
      some (table, v ++ (onWord ++ (u ++ rest))) :=
    joinedHere_eq_some_iff.mpr ⟨w, rfl, hw, htable, (separated_append hv _).halts_name⟩
  simp [joinHere, hjoined, afterBlanks_append hv (halts_blank_word isWord_onWord _),
    afterBlanks_append hu hrest, hcondition]

/-- A table that is joined on a condition is a joined table. -/
theorem joinedHere_of_joinHere {s t : Text} {j : Join} (hfound : joinHere s = some (j, t)) :
    ∃ rest, joinedHere s = some (j.table, rest) := by
  simp only [joinHere, Option.bind_eq_bind, Option.bind_eq_some_iff] at hfound
  rcases hfound with ⟨⟨table, rest⟩, hjoined, _, _, _, _, _, _, ⟨condition, _⟩, _, hjoin⟩
  cases hjoin
  exact ⟨rest, hjoined⟩

/--
A joined table whose text covers a later `join` clause has a name that ends with
the word `join`: the later word begins in the name, which goes on to its end.
-/
theorem ends_of_hidden {q t name after w x : Text} (hq : q ≠ [])
    (ht : t = joinWord ++ (w ++ x)) (hw : Blanks w)
    (hfound : joinedHere (q ++ t) = some (name, after)) (hlength : after.length < t.length) :
    joinWord <:+ name := by
  rcases joinedHere_eq_some_iff.mp hfound with ⟨v, heq, hv, hname, hafter⟩
  cases q with
  | nil => contradiction
  | cons c q =>
      have hrest : q ++ t = (['o', 'i', 'n'] ++ v) ++ (name ++ after) := by
        simpa [joinWord] using (List.cons.inj heq).2
      -- The later word cannot begin before the name, where no `j` stands.
      have hnotMem : 'j' ∉ ['o', 'i', 'n'] ++ v := by
        intro hmem
        rcases List.mem_append.mp hmem with hmem | hmem
        · simp at hmem
        · have hblank := hv.2 'j' hmem
          contradiction
      have hinName : ∃ p, p ++ t = name ++ after := by
        rcases List.append_eq_append_iff.mp hrest with ⟨p, hp, hpt⟩ | ⟨p, -, hp⟩
        · cases p with
          | nil => exact ⟨[], hpt⟩
          | cons d p =>
              have hd : d = 'j' := by
                rw [ht] at hpt
                exact (List.cons.inj hpt).1.symm
              exact absurd (by rw [hp, hd]; simp) hnotMem
        · exact ⟨p, hp.symm⟩
      rcases hinName with ⟨p, hp⟩
      rcases List.append_eq_append_iff.mp hp with ⟨r, rfl, hr⟩ | ⟨r, rfl, rfl⟩
      · have hletters : ∀ d ∈ r, isNameChar d = true := by
          intro d hd
          exact hname.2 d (List.mem_append_right p hd)
        have hrun : r = joinWord := by
          calc
            r = t.takeWhile isNameChar := by
              rw [hr, takeWhile_append_of_halts hletters hafter]
            _ = joinWord := by
              rw [ht]
              exact takeWhile_append_of_halts isWord_joinWord.2 (separated_append hw x).halts_name
        rw [hrun]
        exact List.suffix_append p joinWord
      · rw [List.length_append] at hlength
        omega

/--
A table that is joined on a condition is among all joined tables, unless one of
these has a name that ends with the word `join`.
-/
theorem table_mem_joined_or_ends {s : Text} {j : Join} (hj : j ∈ joins s) :
    j.table ∈ joined s ∨ ∃ name ∈ joined s, joinWord <:+ name := by
  rcases exists_of_mem_all hj with ⟨t, rest, hsuffix, hfound⟩
  rcases joinedHere_of_joinHere hfound with ⟨after, hjoined⟩
  rcases joinedHere_eq_some_iff.mp hjoined with ⟨w, ht, hw, -, -⟩
  have hne : t ≠ [] := by
    rw [ht]
    simp [joinWord]
  rcases mem_all_or_hidden hne hsuffix hjoined with
    hmem | ⟨q, name, after', hq, hhidden, hmem, hlength⟩
  · exact Or.inl hmem
  · exact Or.inr ⟨name, hmem, ends_of_hidden hq ht hw hhidden hlength⟩

/-! ## Condition -/

theorem isWord_whereWord : IsWord whereWord := by decide

theorem isWord_byWord : IsWord byWord := by decide

/-- A word that opens a later clause. -/
def OpensLater (word : Text) : Prop :=
  word = groupWord ∨ word = orderWord

theorem opensLater_orderWord : OpensLater orderWord :=
  Or.inr rfl

theorem OpensLater.isWord {word : Text} (hword : OpensLater word) : IsWord word := by
  rcases hword with rfl | rfl <;> decide

/-- The two words of a later clause do not occur in the text with blanks before and between. -/
def LacksLater (s : Text) : Prop :=
  ∀ word w v, OpensLater word → Blanks w → Blanks v → Lacks (w ++ (word ++ (v ++ byWord))) s

/-- Both words that open a later clause have an `r`. -/
theorem lacksLater_of_not_mem {s : Text} (hs : 'r' ∉ s) : LacksLater s := by
  intro word w v hword _ _
  rcases hword with rfl | rfl
  · exact lacks_of_not_mem (by simp [groupWord]) hs
  · exact lacks_of_not_mem (by simp [orderWord]) hs

/-- What may follow a condition: nothing, or a later clause. -/
def Closes (t : Text) : Prop :=
  t = [] ∨ ∃ w word v tail, t = w ++ (word ++ (v ++ (byWord ++ tail))) ∧
    Blanks w ∧ OpensLater word ∧ Blanks v

/-- A later clause opens with its word, blanks and the second word. -/
theorem opensWith_eq_true_iff {word s : Text} :
    opensWith word s = true ↔ ∃ v tail, s = word ++ (v ++ (byWord ++ tail)) ∧ Blanks v := by
  constructor
  · intro hopens
    simp only [opensWith, Option.isSome_iff_exists, Option.bind_eq_some_iff] at hopens
    rcases hopens with ⟨tail, rest, ⟨rest', hword, hblanks⟩, hby⟩
    rcases afterBlanks_eq_some_iff.mp hblanks with ⟨v, rfl, hv, -⟩
    refine ⟨v, tail, ?_, hv⟩
    rw [afterWord_eq_some_iff.mp hword, afterWord_eq_some_iff.mp hby]
  · rintro ⟨v, tail, rfl, hv⟩
    simp [opensWith, afterBlanks_append hv (halts_blank_word isWord_byWord tail)]

/-- A later clause opens with one of its words. -/
theorem opensLater_eq_true_iff {s : Text} :
    opensLater s = true ↔ ∃ word, OpensLater word ∧ opensWith word s = true := by
  simp [opensLater, OpensLater]

/-- What ends a condition starts apart from it. -/
theorem Closes.separated {t : Text} (ht : Closes t) : Separated t := by
  rcases ht with rfl | ⟨w, word, v, tail, rfl, hw, -, -⟩
  · exact separated_nil
  · exact separated_append hw _

/-- A condition ends before what may follow it. -/
theorem Closes.conditionEnds {t : Text} (ht : Closes t) : conditionEnds t = true := by
  rcases ht with rfl | ⟨w, word, v, tail, rfl, hw, hword, hv⟩
  · rfl
  · have hopens : opensLater (word ++ (v ++ (byWord ++ tail))) = true :=
      opensLater_eq_true_iff.mpr ⟨word, hword, opensWith_eq_true_iff.mpr ⟨v, tail, rfl, hv⟩⟩
    simp [Clause.conditionEnds, afterBlanks_append hw (halts_blank_word hword.isWord _), hopens]

/-- A text that can stand behind a condition without completing a later clause in it. -/
def Aside (t : Text) : Prop :=
  Separated t ∧ ∀ v rest, Blanks v → t ≠ v ++ (byWord ++ rest)

/-- What may follow a condition does not go on with `by`. -/
theorem Closes.aside {t : Text} (ht : Closes t) : Aside t := by
  refine ⟨ht.separated, ?_⟩
  intro v rest hv heq
  have hby := afterBlanks_append hv (halts_blank_word isWord_byWord rest)
  rw [← heq] at hby
  rcases ht with rfl | ⟨w, word, u, tail, rfl, hw, hword, -⟩
  · simp [afterBlanks] at hby
  · rw [afterBlanks_append hw (halts_blank_word hword.isWord _), Option.some.injEq] at hby
    rcases hword with rfl | rfl <;> simp [groupWord, orderWord, byWord] at hby

/-- Nor do blanks. -/
theorem aside_of_blank {t : Text} (ht : ∀ c ∈ t, isBlank c = true) : Aside t := by
  constructor
  · intro c hc
    exact ht c (List.mem_of_head? hc)
  · rintro v rest - rfl
    have hblank := ht 'b' (by simp [byWord])
    contradiction

/-- No later clause opens within a text without its words, whatever stands aside of it. -/
theorem opensLater_eq_false {x t : Text} (hx : x ≠ []) (hend : Halts isBlank x.reverse)
    (hlacks : LacksLater x) (ht : Aside t) : (afterBlanks (x ++ t)).any opensLater = false := by
  cases hblanks : afterBlanks (x ++ t) with
  | none => rfl
  | some y =>
      rcases afterBlanks_eq_some_iff.mp hblanks with ⟨w, heq, hw, -⟩
      rcases exists_of_blanks_append hx hend hw.2 heq with ⟨u, hu, rfl, rfl⟩
      by_contra hopens
      rcases opensLater_eq_true_iff.mp (by simpa using hopens) with ⟨word, hword, hwith⟩
      rcases opensWith_eq_true_iff.mp hwith with ⟨v, tail, hopened, hv⟩
      have hhalts := ht.1.halts_name
      -- Both words of the clause would lie within the text, first the one that opens it.
      rcases prefix_of_prefix_append hu (cut_of_halts hword.isWord hhalts) ⟨_, hopened.symm⟩
        with ⟨u', rfl⟩
      have hrest : u' ++ t = v ++ (byWord ++ tail) := by
        rw [List.append_assoc] at hopened
        exact List.append_cancel_left hopened
      have hu' : u' ≠ [] := by
        rintro rfl
        exact ht.2 v tail hv hrest
      have hend' : Halts isBlank u'.reverse :=
        halts_reverse_of_suffix ⟨w ++ word, by simp⟩ hend
      rcases exists_of_blanks_append hu' hend' hv.2 hrest with ⟨u'', hu'', rfl, hby⟩
      rcases prefix_of_prefix_append hu'' (cut_of_halts isWord_byWord hhalts) ⟨tail, hby⟩
        with ⟨z, rfl⟩
      exact hlacks word w v hword hw hv ⟨[], z, by simp⟩

/-- No condition ends within a line without the words of a later clause. -/
theorem conditionEnds_eq_false {x t : Text} (hx : x ≠ []) (hend : Halts isBlank x.reverse)
    (hinline : ∀ c ∈ x, c ≠ '\n') (hlacks : LacksLater x) (ht : Aside t) :
    conditionEnds (x ++ t) = false := by
  have hline : x ++ t ≠ ['\n'] := by
    intro heq
    cases x with
    | nil => contradiction
    | cons c x => exact hinline c List.mem_cons_self (List.cons.inj heq).1
  simp [conditionEnds, opensLater_eq_false hx hend hlacks ht, hx, hline]

/--
The condition of a query from its word `where` on: all up to the blanks before a
later clause or to the end, if it stands in one line and holds no later clause.
-/
theorem condition_append {w x t : Text} (hw : Blanks w) (htrimmed : Trimmed x) (hne : x ≠ [])
    (hinline : ∀ c ∈ x, c ≠ '\n') (hlacks : LacksLater x) (ht : Closes t) :
    condition (whereWord ++ (w ++ (x ++ t))) = some x := by
  have hsearch : upTo conditionEnds (x ++ t) = some x := by
    apply upTo_append ht.conditionEnds hinline
    intro v hv hvne
    apply conditionEnds_eq_false hvne (halts_reverse_of_suffix hv htrimmed.2) _ _ ht.aside
    · intro c hc
      exact hinline c (hv.subset hc)
    · intro word u z hword hu hz
      exact (hlacks word u z hword hu hz).within hv.isInfix
  exact first_of_eq_some (between_append hw (htrimmed.1.append hne t) hsearch)

/-! ## Shape of a whole query -/

/-- Behind blanks something goes on. -/
theorem goesOn_append {w t : Text} {c : Char} (hw : Blanks w) (hc : isBlank c = false) :
    goesOn (w ++ c :: t) = true := by
  rcases hw with ⟨hne, hw⟩
  cases w with
  | nil => contradiction
  | cons b w =>
      rcases List.forall_mem_cons.mp hw with ⟨hb, hrest⟩
      have hdrop : (w ++ c :: t).dropWhile isBlank = c :: t :=
        dropWhile_append_of_halts hrest (by simpa using hc)
      simp [goesOn, hb, hdrop]

/-- Columns may follow after blanks. -/
theorem blanksThenColumns_append {w s : Text} (hw : Blanks w) (hs : columnsThenFrom s = true) :
    blanksThenColumns (w ++ s) = true := by
  rcases hw with ⟨hne, hw⟩
  induction w with
  | nil => contradiction
  | cons b w ih =>
      rcases List.forall_mem_cons.mp hw with ⟨hb, hblanks⟩
      cases w with
      | nil => simp [blanksThenColumns, hb, hs]
      | cons d w =>
          have hrest : blanksThenColumns (d :: w ++ s) = true := ih (by simp) hblanks
          rw [List.cons_append, blanksThenColumns, hrest, hb]
          simp

/--
A query is well formed that starts with `select`, columns in one line, `from` and
something that is not blank.
-/
theorem wellFormed_append {w v u columns t : Text} {c : Char} (hw : Blanks w) (hv : Blanks v)
    (hu : Blanks u) (hne : columns ≠ []) (hinline : ∀ d ∈ columns, d ≠ '\n')
    (hc : isBlank c = false) :
    wellFormed (selectWord ++ (w ++ (columns ++ (v ++ (fromWord ++ (u ++ c :: t)))))) = true := by
  have hfollows : fromFollows (v ++ (fromWord ++ (u ++ c :: t))) = true := by
    simp [fromFollows, afterFrom, afterBlanks_append hv (halts_blank_word isWord_fromWord _),
      goesOn_append hu hc]
  have hcolumns : columnsThenFrom (columns ++ (v ++ (fromWord ++ (u ++ c :: t)))) = true := by
    cases columns with
    | nil => contradiction
    | cons d columns =>
        rcases List.forall_mem_cons.mp hinline with ⟨hd, hrest⟩
        have hsearch : (upTo fromFollows
            (columns ++ (v ++ (fromWord ++ (u ++ c :: t))))).isSome = true :=
          upTo_isSome_iff.mpr ⟨columns, _, rfl, hfollows, hrest⟩
        simp [columnsThenFrom, hd, hsearch]
  rw [wellFormed, first_isSome_iff]
  refine ⟨_, List.suffix_refl _, ?_⟩
  simp [blanksThenColumns_append hw hcolumns]

end Clause
end QueryAlgebra
