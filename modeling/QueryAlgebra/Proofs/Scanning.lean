import QueryAlgebra.Query.Scan
import Mathlib.Data.List.Infix
import Mathlib.Data.List.TakeWhile

/-!
# Laws of scanning

Every recogniser is described by how it cuts its input in two, so that later
proofs never open it: a word stands at the start, a run of a class is followed by
something outside the class, a line search stops at the first place it may stop.
A search from left to right passes over every stretch in which the word it waits
for does not occur.

Main results:

- Theorem `append_inj_of_halts`: a run is told from the text that ends it.
- Theorems `afterWord_eq_some_iff`, `afterBlanks_eq_some_iff` and
  `someRun_eq_some_iff`: the recognisers as cuts of the input.
- Theorems `upTo_append` and `exists_of_upTo`: a line search finds the shortest
  stretch.
- Theorems `first_append_of_none` and `all_append_of_none`: searches pass over a
  stretch in which nothing can be found, as one without their word.
- Theorem `all_append_of_find`: a repeated search goes on right behind a find.
- Theorem `mem_all_or_hidden`: what a repeated search misses lies within one of
  its own finds.
- Theorem `suffix_append_cases`: a rest of two stretches starts in the first or in
  the second.
-/

namespace QueryAlgebra
namespace Scan

/-! ## Runs of a character class -/

/--
A property of every character of a text is decided along the text, never by going
through all characters there are.
-/
instance decidableForallMem (P : Char → Prop) [DecidablePred P] (s : Text) :
    Decidable (∀ c ∈ s, P c) :=
  List.decidableBAll P s

/-- A run of characters of a class ends before this text. -/
def Halts (p : Char → Bool) (s : Text) : Prop :=
  ∀ c, s.head? = some c → p c = false

@[simp] theorem halts_nil (p : Char → Bool) : Halts p [] := by
  intro c hc
  simp at hc

@[simp] theorem halts_cons {p : Char → Bool} {c : Char} {s : Text} :
    Halts p (c :: s) ↔ p c = false := by
  simp [Halts]

instance (p : Char → Bool) : (s : Text) → Decidable (Halts p s)
  | [] => isTrue (halts_nil p)
  | _ :: _ => decidable_of_iff _ halts_cons.symm

/-- A run ends before every text without characters of its class. -/
theorem halts_of_forall {p : Char → Bool} {s : Text} (hs : ∀ c ∈ s, p c = false) : Halts p s := by
  intro c hc
  exact hs c (List.mem_of_head? hc)

/-- Whether a run ends before a text that is not empty does not depend on what follows. -/
theorem Halts.append {p : Char → Bool} {s : Text} (hs : Halts p s) (hne : s ≠ []) (t : Text) :
    Halts p (s ++ t) := by
  intro c hc
  rw [List.head?_append_of_ne_nil _ hne] at hc
  exact hs c hc

/-- What follows the longest run of a class does not continue the run. -/
theorem halts_dropWhile (p : Char → Bool) (s : Text) : Halts p (s.dropWhile p) := by
  intro c hc
  have hhead := List.head?_dropWhile_not p s
  rw [hc] at hhead
  simpa using hhead

/-- A text before which every run of a larger class ends also ends runs of a smaller one. -/
theorem Halts.mono {p q : Char → Bool} {s : Text} (hs : Halts q s)
    (hpq : ∀ c, p c = true → q c = true) : Halts p s := by
  intro c hc
  cases hp : p c with
  | false => rfl
  | true =>
      have hq := hs c hc
      rw [hpq c hp] at hq
      contradiction

/-- The longest run in front of a text that ends it is the whole run. -/
theorem takeWhile_append_of_halts {p : Char → Bool} {u t : Text}
    (hu : ∀ c ∈ u, p c = true) (ht : Halts p t) : (u ++ t).takeWhile p = u := by
  rw [List.takeWhile_append_of_pos hu]
  cases t with
  | nil => simp
  | cons c t => simp [halts_cons.mp ht]

/-- Behind the longest run stands the text that ends it. -/
theorem dropWhile_append_of_halts {p : Char → Bool} {u t : Text}
    (hu : ∀ c ∈ u, p c = true) (ht : Halts p t) : (u ++ t).dropWhile p = t := by
  rw [List.dropWhile_append_of_pos hu]
  cases t with
  | nil => simp
  | cons c t => simp [halts_cons.mp ht]

/-- Two runs, each in front of a text that ends it, are the same if the whole texts are. -/
theorem append_inj_of_halts {p : Char → Bool} {u v s t : Text} (hu : ∀ c ∈ u, p c = true)
    (hv : ∀ c ∈ v, p c = true) (hs : Halts p s) (ht : Halts p t) (htext : u ++ s = v ++ t) :
    u = v ∧ s = t := by
  constructor
  · have hrun := congrArg (List.takeWhile p) htext
    rwa [takeWhile_append_of_halts hu hs, takeWhile_append_of_halts hv ht] at hrun
  · have hrest := congrArg (List.dropWhile p) htext
    rwa [dropWhile_append_of_halts hu hs, dropWhile_append_of_halts hv ht] at hrest

/-- A run that must not be empty, in front of a text that ends it. -/
theorem someRun_append {p : Char → Bool} {u t : Text} (hne : u ≠ [])
    (hu : ∀ c ∈ u, p c = true) (ht : Halts p t) : someRun p (u ++ t) = some (u, t) := by
  simp [someRun, run, takeWhile_append_of_halts hu ht, dropWhile_append_of_halts hu ht, hne]

/-- A run is a cut of the text into characters of the class and what ends them. -/
theorem someRun_eq_some_iff {p : Char → Bool} {s u t : Text} :
    someRun p s = some (u, t) ↔
      s = u ++ t ∧ u ≠ [] ∧ (∀ c ∈ u, p c = true) ∧ Halts p t := by
  constructor
  · intro hrun
    simp only [someRun, run, List.isEmpty_iff, Option.ite_none_left_eq_some, Option.some.injEq,
      Prod.mk.injEq] at hrun
    rcases hrun with ⟨hne, rfl, rfl⟩
    refine ⟨List.takeWhile_append_dropWhile.symm, hne, ?_, halts_dropWhile p s⟩
    intro c hc
    exact List.mem_takeWhile_imp hc
  · rintro ⟨rfl, hne, hu, ht⟩
    exact someRun_append hne hu ht

/-! ## Words and blanks -/

@[simp] theorem afterWord_append (word rest : Text) :
    afterWord word (word ++ rest) = some rest := by
  induction word with
  | nil => rfl
  | cons w word ih => simp [afterWord, ih]

/-- A word is found exactly at the start of the text. -/
theorem afterWord_eq_some_iff {word s rest : Text} :
    afterWord word s = some rest ↔ s = word ++ rest := by
  constructor
  · intro hfound
    induction word generalizing s with
    | nil => simpa [afterWord] using hfound
    | cons w word ih =>
        cases s with
        | nil => simp [afterWord] at hfound
        | cons c s =>
            simp only [afterWord, Option.ite_none_right_eq_some] at hfound
            rcases hfound with ⟨rfl, hfound⟩
            rw [ih hfound, List.cons_append]
  · rintro rfl
    exact afterWord_append word rest

theorem afterWord_eq_none_iff {word s : Text} : afterWord word s = none ↔ ¬ word <+: s := by
  constructor
  · rintro hnone ⟨rest, rfl⟩
    simp at hnone
  · intro hnot
    cases hfound : afterWord word s with
    | none => rfl
    | some rest => exact absurd ⟨rest, (afterWord_eq_some_iff.mp hfound).symm⟩ hnot

/-- One or more blanks. -/
def Blanks (w : Text) : Prop :=
  w ≠ [] ∧ ∀ c ∈ w, isBlank c = true

instance (w : Text) : Decidable (Blanks w) :=
  inferInstanceAs (Decidable (_ ∧ _))

/-- Blanks in front of a text that does not start with one. -/
theorem afterBlanks_append {w t : Text} (hw : Blanks w) (ht : Halts isBlank t) :
    afterBlanks (w ++ t) = some t := by
  rcases hw with ⟨hne, hw⟩
  cases w with
  | nil => contradiction
  | cons b w =>
      rcases List.forall_mem_cons.mp hw with ⟨hb, hrest⟩
      simp [afterBlanks, hb, dropWhile_append_of_halts hrest ht]

/-- Passing blanks cuts a text into one or more blanks and what does not start with one. -/
theorem afterBlanks_eq_some_iff {s t : Text} :
    afterBlanks s = some t ↔ ∃ w, s = w ++ t ∧ Blanks w ∧ Halts isBlank t := by
  constructor
  · intro hfound
    cases s with
    | nil => simp [afterBlanks] at hfound
    | cons b s =>
        simp only [afterBlanks, Option.ite_none_right_eq_some, Option.some.injEq] at hfound
        rcases hfound with ⟨hb, rfl⟩
        refine ⟨b :: s.takeWhile isBlank, by simp, ⟨by simp, ?_⟩, halts_dropWhile isBlank s⟩
        exact List.forall_mem_cons.mpr ⟨hb, fun _ => List.mem_takeWhile_imp⟩
  · rintro ⟨w, rfl, hw, ht⟩
    exact afterBlanks_append hw ht

/-- One more blank in front changes nothing of what follows the blanks. -/
theorem afterBlanks_cons {b : Char} {s t : Text} (hb : isBlank b = true)
    (hs : afterBlanks s = some t) : afterBlanks (b :: s) = some t := by
  rcases afterBlanks_eq_some_iff.mp hs with ⟨w, rfl, ⟨-, hw⟩, ht⟩
  have hmore : Blanks (b :: w) := ⟨by simp, List.forall_mem_cons.mpr ⟨hb, hw⟩⟩
  exact afterBlanks_append hmore ht

/-! ## Texts without a word -/

/-- The word does not occur in the text. -/
def Lacks (word s : Text) : Prop :=
  ¬ word <:+: s

instance (word s : Text) : Decidable (Lacks word s) :=
  inferInstanceAs (Decidable (¬ _))

/-- A word does not occur where one of its characters does not. -/
theorem lacks_of_not_mem {word s : Text} {c : Char} (hword : c ∈ word) (hs : c ∉ s) :
    Lacks word s := by
  intro hoccurs
  exact hs (hoccurs.subset hword)

theorem Lacks.within {word s t : Text} (ht : Lacks word t) (hst : s <:+: t) : Lacks word s :=
  fun hoccurs => ht (hoccurs.trans hst)

/--
No occurrence of the word can begin in one text and end in the next: the first
text ends, or the second one starts, with a character that the word does not have.
-/
def Cut (word u t : Text) : Prop :=
  (∀ c, u.getLast? = some c → c ∉ word) ∨ (∀ c, t.head? = some c → c ∉ word)

/-- A cut behind a text is one behind each of its last stretches. -/
theorem Cut.suffix {word u v t : Text} (hcut : Cut word u t) (hv : v <:+ u) : Cut word v t := by
  rcases hcut with hlast | hhead
  · left
    intro d hd
    rcases hv with ⟨q, rfl⟩
    apply hlast d
    rw [List.getLast?_append, hd]
    rfl
  · exact Or.inr hhead

/-- A word at the start of two texts with a cut between them lies within the first. -/
theorem prefix_of_prefix_append {word u t : Text} (hne : u ≠ []) (hcut : Cut word u t)
    (hstarts : word <+: u ++ t) : word <+: u := by
  rcases hstarts with ⟨rest, hrest⟩
  rcases List.append_eq_append_iff.mp hrest with ⟨v, rfl, -⟩ | ⟨v, rfl, rfl⟩
  · exact List.prefix_append word v
  · cases v with
    | nil => simp
    | cons c v =>
        -- The word would hold both the end of the first text and the start of the second.
        rcases hcut with hlast | hhead
        · have hmem : u.getLast hne ∈ u ++ c :: v :=
            List.mem_append_left _ (List.getLast_mem hne)
          exact absurd hmem (hlast _ (List.getLast?_eq_some_getLast hne))
        · exact absurd (by simp) (hhead c (by simp))

/-- Two texts without a word, with a cut between them, lack the word together. -/
theorem Lacks.append {word u t : Text} (hu : Lacks word u) (ht : Lacks word t)
    (hcut : Cut word u t) : Lacks word (u ++ t) := by
  induction u with
  | nil => exact ht
  | cons c u ih =>
      intro hoccurs
      rw [List.cons_append] at hoccurs
      rcases List.infix_cons_iff.mp hoccurs with hstarts | hoccurs
      · have hinside : word <+: c :: u :=
          prefix_of_prefix_append (by simp) hcut (by simpa using hstarts)
        exact hu hinside.isInfix
      · exact ih (hu.within (List.infix_cons (List.infix_refl u)))
          (hcut.suffix (List.suffix_cons c u)) hoccurs

/-! ## Stretches at the end -/

/-- A stretch at the end that starts with a character outside the first text lies in the second. -/
theorem suffix_of_not_mem {c : Char} {t u v : Text} (hc : c ∉ u) (hsuffix : c :: t <:+ u ++ v) :
    c :: t <:+ v := by
  induction u with
  | nil => exact hsuffix
  | cons d u ih =>
      rw [List.mem_cons, not_or] at hc
      rw [List.cons_append, List.suffix_cons_iff] at hsuffix
      rcases hsuffix with heq | hsuffix
      · exact absurd (List.cons.inj heq).1 hc.1
      · exact ih hc.2 hsuffix

/-- A stretch at the end of two texts starts within the first one or lies in the second. -/
theorem suffix_append_cases {t u v : Text} (hsuffix : t <:+ u ++ v) :
    t <:+ v ∨ ∃ p, p ≠ [] ∧ p <:+ u ∧ t = p ++ v := by
  induction u with
  | nil => exact Or.inl hsuffix
  | cons d u ih =>
      rw [List.cons_append, List.suffix_cons_iff] at hsuffix
      rcases hsuffix with rfl | hsuffix
      · exact Or.inr ⟨d :: u, by simp, List.suffix_refl _, rfl⟩
      · rcases ih hsuffix with hv | ⟨p, hne, hp, rfl⟩
        · exact Or.inl hv
        · exact Or.inr ⟨p, hne, hp.trans (List.suffix_cons d u), rfl⟩

/-! ## Searches in a line -/

/-- A line search stops at once where the test holds. -/
theorem upTo_of_stops {stops : Text → Bool} {s : Text} (hs : stops s = true) :
    upTo stops s = some [] := by
  cases s with
  | nil => simp [upTo, hs]
  | cons c s => simp [upTo, hs]

/-- Where the test fails, a line search goes on behind the next character of the line. -/
theorem upTo_cons_of_goes {stops : Text → Bool} {c : Char} {s : Text}
    (hs : stops (c :: s) = false) (hc : c ≠ '\n') :
    upTo stops (c :: s) = (upTo stops s).map (c :: ·) := by
  simp [upTo, hs, hc]

/-- A stretch of a line is found if the test holds behind it and nowhere before. -/
theorem upTo_append {stops : Text → Bool} {x t : Text} (ht : stops t = true)
    (hinline : ∀ c ∈ x, c ≠ '\n')
    (hshortest : ∀ v, v <:+ x → v ≠ [] → stops (v ++ t) = false) :
    upTo stops (x ++ t) = some x := by
  induction x with
  | nil => exact upTo_of_stops ht
  | cons c x ih =>
      rcases List.forall_mem_cons.mp hinline with ⟨hc, hinline⟩
      have hgoes : stops (c :: (x ++ t)) = false :=
        hshortest (c :: x) (List.suffix_refl _) (by simp)
      have hrest : upTo stops (x ++ t) = some x := by
        apply ih hinline
        intro v hv hne
        exact hshortest v (hv.trans (List.suffix_cons c x)) hne
      rw [List.cons_append, upTo_cons_of_goes hgoes hc, hrest]
      rfl

/-- What a line search finds lies in the line, before the first place where the test holds. -/
theorem exists_of_upTo {stops : Text → Bool} {s x : Text} (hfound : upTo stops s = some x) :
    ∃ t, s = x ++ t ∧ stops t = true ∧ (∀ c ∈ x, c ≠ '\n') ∧
      ∀ v, v <:+ x → v ≠ [] → stops (v ++ t) = false := by
  induction s generalizing x with
  | nil =>
      simp only [upTo, Option.ite_none_right_eq_some, Option.some.injEq] at hfound
      rcases hfound with ⟨hstops, rfl⟩
      exact ⟨[], rfl, hstops, by simp, by simp⟩
  | cons c rest ih =>
      by_cases hhere : stops (c :: rest) = true
      · rw [upTo_of_stops hhere] at hfound
        cases hfound
        exact ⟨c :: rest, rfl, hhere, by simp, by simp⟩
      · have hgoes : stops (c :: rest) = false := by simpa using hhere
        by_cases hc : c = '\n'
        · subst hc
          simp [upTo, hgoes] at hfound
        · rw [upTo_cons_of_goes hgoes hc, Option.map_eq_some_iff] at hfound
          rcases hfound with ⟨y, hy, rfl⟩
          rcases ih hy with ⟨t, rfl, hstops, hinline, hshortest⟩
          refine ⟨t, rfl, hstops, List.forall_mem_cons.mpr ⟨hc, hinline⟩, ?_⟩
          intro v hv hne
          rcases List.suffix_cons_iff.mp hv with rfl | hv
          · exact hgoes
          · exact hshortest v hv hne

/-- A line search succeeds exactly if the test holds somewhere in the line. -/
theorem upTo_isSome_iff {stops : Text → Bool} {s : Text} :
    (upTo stops s).isSome ↔
      ∃ x t, s = x ++ t ∧ stops t = true ∧ ∀ c ∈ x, c ≠ '\n' := by
  constructor
  · intro hsome
    rcases Option.isSome_iff_exists.mp hsome with ⟨x, hx⟩
    rcases exists_of_upTo hx with ⟨t, hs, hstops, hinline, -⟩
    exact ⟨x, t, hs, hstops, hinline⟩
  · rintro ⟨x, t, rfl, hstops, hinline⟩
    induction x with
    | nil => simp [upTo_of_stops hstops]
    | cons c x ih =>
        rcases List.forall_mem_cons.mp hinline with ⟨hc, hinline⟩
        have hrest : (upTo stops (x ++ t)).isSome := ih hinline
        cases hhere : stops (c :: (x ++ t)) with
        | true => simp [upTo_of_stops hhere]
        | false =>
            rw [List.cons_append, upTo_cons_of_goes hhere hc]
            simpa using hrest

/-- Behind a word and its blanks, a line search starts at the first other character. -/
theorem between_append {word w t x : Text} {stops : Text → Bool} (hw : Blanks w)
    (ht : Halts isBlank t) (hx : upTo stops t = some x) :
    between word stops (word ++ (w ++ t)) = some x := by
  simp [between, afterBlanks_append hw ht, hx]

/--
What stands between a word and the end of its line search is the find of the search,
or empty if the search fails and the test holds among the blanks.
-/
theorem exists_of_between {word s x : Text} {stops : Text → Bool}
    (hfound : between word stops s = some x) :
    ∃ w t, s = word ++ (w ++ t) ∧ Blanks w ∧ Halts isBlank t ∧
      (upTo stops t = some x ∨
        (upTo stops t = none ∧ 2 ≤ w.length ∧ stops (' ' :: t) = true ∧ x = [])) := by
  simp only [between, Option.bind_eq_bind, Option.bind_eq_some_iff] at hfound
  rcases hfound with ⟨rest, hword, t, hblanks, hsearch⟩
  rcases afterBlanks_eq_some_iff.mp hblanks with ⟨w, rfl, hw, ht⟩
  rw [takeWhile_append_of_halts hw.2 ht] at hsearch
  refine ⟨w, t, afterWord_eq_some_iff.mp hword, hw, ht, ?_⟩
  cases hfind : upTo stops t with
  | some y =>
      left
      simpa [hfind] using hsearch
  | none =>
      right
      simp only [hfind, Option.ite_none_right_eq_some, Bool.and_eq_true, decide_eq_true_eq,
        Option.some.injEq] at hsearch
      rcases hsearch with ⟨⟨hlong, hstops⟩, rfl⟩
      exact ⟨rfl, hlong, hstops, rfl⟩

/-- The same where the blanks and what follows them are given. -/
theorem cases_of_between_append {word w t x : Text} {stops : Text → Bool} (hw : Blanks w)
    (ht : Halts isBlank t) (hfound : between word stops (word ++ (w ++ t)) = some x) :
    upTo stops t = some x ∨ (upTo stops t = none ∧ stops (' ' :: t) = true ∧ x = []) := by
  rcases exists_of_between hfound with ⟨v, rest, heq, hv, hrest, hsearch⟩
  have hsame : t = rest := by
    have hafter := congrArg afterBlanks (List.append_cancel_left heq)
    rwa [afterBlanks_append hw ht, afterBlanks_append hv hrest, Option.some.injEq] at hafter
  subst hsame
  rcases hsearch with hsearch | ⟨hnone, -, hstops, hnil⟩
  · exact Or.inl hsearch
  · exact Or.inr ⟨hnone, hstops, hnil⟩

/-! ## Searches from left to right -/

/-- The recogniser succeeds only where the word stands. -/
def Awaits {α : Type} (word : Text) (f : Text → Option α) : Prop :=
  ∀ s, afterWord word s = none → f s = none

/-- A recogniser fails in a stretch without its word that has a cut behind it. -/
theorem Awaits.eq_none {α : Type} {word u t : Text} {f : Text → Option α} (hf : Awaits word f)
    (hne : u ≠ []) (hu : Lacks word u) (hcut : Cut word u t) : f (u ++ t) = none := by
  apply hf
  rw [afterWord_eq_none_iff]
  intro hstarts
  exact hu (prefix_of_prefix_append hne hcut hstarts).isInfix

/-- A search ends where its recogniser succeeds. -/
theorem first_of_eq_some {α : Type} {f : Text → Option α} {s : Text} {a : α}
    (hfound : f s = some a) : first f s = some a := by
  cases s with
  | nil => simpa [first] using hfound
  | cons c s => simp [first, hfound]

/-- A search goes on where its recogniser fails. -/
theorem first_cons_of_eq_none {α : Type} {f : Text → Option α} {c : Char} {s : Text}
    (hnone : f (c :: s) = none) : first f (c :: s) = first f s := by
  simp only [first, hnone]

/-- A search passes over a stretch in which its recogniser fails at every place. -/
theorem first_append_of_none {α : Type} {f : Text → Option α} {u t : Text}
    (hnone : ∀ v, v <:+ u → v ≠ [] → f (v ++ t) = none) : first f (u ++ t) = first f t := by
  induction u with
  | nil => rfl
  | cons c u ih =>
      have hhere : f (c :: (u ++ t)) = none := hnone (c :: u) (List.suffix_refl _) (by simp)
      rw [List.cons_append, first_cons_of_eq_none hhere]
      apply ih
      intro v hv
      exact hnone v (hv.trans (List.suffix_cons c u))

/-- A search passes over a stretch without its word that has a cut behind it. -/
theorem first_append_of_lacks {α : Type} {word u t : Text} {f : Text → Option α}
    (hf : Awaits word f) (hu : Lacks word u) (hcut : Cut word u t) :
    first f (u ++ t) = first f t := by
  apply first_append_of_none
  intro v hv hne
  exact hf.eq_none hne (hu.within hv.isInfix) (hcut.suffix hv)

/-- A search succeeds with what its recogniser finds at some place. -/
theorem exists_of_first {α : Type} {f : Text → Option α} {s : Text} {a : α}
    (hfound : first f s = some a) : ∃ t, t <:+ s ∧ f t = some a := by
  induction s with
  | nil => exact ⟨[], List.suffix_refl _, by simpa [first] using hfound⟩
  | cons c s ih =>
      cases hhere : f (c :: s) with
      | some b =>
          simp only [first, hhere, Option.some.injEq] at hfound
          subst hfound
          exact ⟨c :: s, List.suffix_refl _, hhere⟩
      | none =>
          simp only [first, hhere] at hfound
          rcases ih hfound with ⟨t, hsuffix, ht⟩
          exact ⟨t, hsuffix.trans (List.suffix_cons c s), ht⟩

/-- A search succeeds exactly if its recogniser does at some place. -/
theorem first_isSome_iff {α : Type} {f : Text → Option α} {s : Text} :
    (first f s).isSome ↔ ∃ t, t <:+ s ∧ (f t).isSome := by
  constructor
  · intro hsome
    rcases Option.isSome_iff_exists.mp hsome with ⟨a, ha⟩
    rcases exists_of_first ha with ⟨t, hsuffix, ht⟩
    exact ⟨t, hsuffix, by simp [ht]⟩
  · rintro ⟨t, hsuffix, ht⟩
    induction s with
    | nil =>
        rw [List.suffix_nil] at hsuffix
        subst hsuffix
        simpa [first] using ht
    | cons c s ih =>
        cases hhere : f (c :: s) with
        | some b => simp [first, hhere]
        | none =>
            rcases List.suffix_cons_iff.mp hsuffix with rfl | hsuffix
            · simp [hhere] at ht
            · simpa [first, hhere] using ih hsuffix

/-- A search finds nothing in a text without its word. -/
theorem first_of_lacks {α : Type} {word s : Text} {f : Text → Option α} (hne : word ≠ [])
    (hf : Awaits word f) (hs : Lacks word s) : first f s = none := by
  have hskip := first_append_of_lacks (t := []) hf hs (Or.inr (by simp))
  rw [List.append_nil] at hskip
  have hempty : afterWord word [] = none := by
    rw [afterWord_eq_none_iff, List.prefix_nil]
    exact hne
  rw [hskip, first, hf [] hempty]

/-! ## Repeated searches -/

variable {α : Type} {f : Text → Option (α × Text)}

/-- Characters that belong to the find before are passed over. -/
theorem allFrom_covered (u t : Text) : allFrom f u.length (u ++ t) = allFrom f 0 t := by
  induction u with
  | nil => rfl
  | cons c u ih => simpa [allFrom] using ih

/-- A repeated search goes on right behind a find. -/
theorem all_append_of_find {u t : Text} {a : α} (hne : u ≠ [])
    (hfound : f (u ++ t) = some (a, t)) : all f (u ++ t) = a :: all f t := by
  cases u with
  | nil => contradiction
  | cons c u =>
      rw [List.cons_append] at hfound
      simp [all, allFrom, hfound, allFrom_covered]

/-- A repeated search passes over a stretch in which its recogniser fails at every place. -/
theorem all_append_of_none {u t : Text} (hnone : ∀ v, v <:+ u → v ≠ [] → f (v ++ t) = none) :
    all f (u ++ t) = all f t := by
  induction u with
  | nil => rfl
  | cons c u ih =>
      have hhere : f (c :: (u ++ t)) = none := hnone (c :: u) (List.suffix_refl _) (by simp)
      simp only [all, List.cons_append, allFrom, hhere]
      apply ih
      intro v hv
      exact hnone v (hv.trans (List.suffix_cons c u))

/-- A repeated search passes over a stretch without its word that has a cut behind it. -/
theorem all_append_of_lacks {word u t : Text} (hf : Awaits word f) (hu : Lacks word u)
    (hcut : Cut word u t) : all f (u ++ t) = all f t := by
  apply all_append_of_none
  intro v hv hne
  exact hf.eq_none hne (hu.within hv.isInfix) (hcut.suffix hv)

/-- A repeated search finds nothing in a text without its word. -/
theorem all_of_lacks {word s : Text} (hf : Awaits word f) (hs : Lacks word s) : all f s = [] := by
  have hskip := all_append_of_lacks (t := []) hf hs (Or.inr (by simp))
  rw [List.append_nil] at hskip
  rw [hskip]
  rfl

/-- Every find of a repeated search is what its recogniser finds at some place. -/
theorem exists_of_mem_allFrom {covered : Nat} {s : Text} {a : α}
    (hmem : a ∈ allFrom f covered s) : ∃ t rest, t <:+ s ∧ f t = some (a, rest) := by
  induction s generalizing covered with
  | nil => cases covered <;> simp [allFrom] at hmem
  | cons c s ih =>
      have hlater : ∀ n, a ∈ allFrom f n s → ∃ t rest, t <:+ c :: s ∧ f t = some (a, rest) := by
        intro n hn
        rcases ih hn with ⟨t, rest, hsuffix, ht⟩
        exact ⟨t, rest, hsuffix.trans (List.suffix_cons c s), ht⟩
      cases covered with
      | succ n => exact hlater n hmem
      | zero =>
          cases hhere : f (c :: s) with
          | none =>
              simp only [allFrom, hhere] at hmem
              exact hlater 0 hmem
          | some find =>
              rcases find with ⟨b, rest⟩
              simp only [allFrom, hhere, List.mem_cons] at hmem
              rcases hmem with rfl | hmem
              · exact ⟨c :: s, rest, List.suffix_refl _, hhere⟩
              · exact hlater _ hmem

/--
What the recogniser finds at a place is a find of the repeated search, or the place
lies within an earlier find: that one starts before the place and ends behind it.
-/
theorem mem_allFrom_or_hidden {covered : Nat} {p t rest : Text} {a : α} (hne : t ≠ [])
    (hfound : f t = some (a, rest)) (hcovered : covered ≤ p.length) :
    a ∈ allFrom f covered (p ++ t) ∨
      ∃ q b after, q ≠ [] ∧ f (q ++ t) = some (b, after) ∧
        b ∈ allFrom f covered (p ++ t) ∧ after.length < t.length := by
  induction p generalizing covered with
  | nil =>
      left
      cases t with
      | nil => contradiction
      | cons c t =>
          have hzero : covered = 0 := by simpa using hcovered
          subst hzero
          simp [allFrom, hfound]
  | cons c p ih =>
      -- What is known of the rest of the text, seen from one character before it.
      have hlater : ∀ n, n ≤ p.length → (∀ b ∈ allFrom f n (p ++ t),
          b ∈ allFrom f covered (c :: (p ++ t))) →
          a ∈ allFrom f covered (c :: (p ++ t)) ∨
            ∃ q b after, q ≠ [] ∧ f (q ++ t) = some (b, after) ∧
              b ∈ allFrom f covered (c :: (p ++ t)) ∧ after.length < t.length := by
        intro n hn hsubset
        rcases ih hn with hmem | ⟨q, b, after, hqne, hfind, hmem, hlength⟩
        · exact Or.inl (hsubset a hmem)
        · exact Or.inr ⟨q, b, after, hqne, hfind, hsubset b hmem, hlength⟩
      rw [List.cons_append]
      cases covered with
      | succ n =>
          apply hlater n (by simpa using hcovered)
          intro b hb
          exact hb
      | zero =>
          cases hhere : f (c :: (p ++ t)) with
          | none =>
              apply hlater 0 (Nat.zero_le _)
              intro b hb
              simpa only [allFrom, hhere] using hb
          | some find =>
              rcases find with ⟨b, after⟩
              by_cases hinside : (p ++ t).length - after.length ≤ p.length
              · apply hlater _ hinside
                intro d hd
                simp only [allFrom, hhere, List.mem_cons]
                exact Or.inr hd
              · right
                refine ⟨c :: p, b, after, by simp, hhere, ?_, ?_⟩
                · simp [allFrom, hhere]
                · rw [List.length_append] at hinside
                  omega

theorem exists_of_mem_all {s : Text} {a : α} (hmem : a ∈ all f s) :
    ∃ t rest, t <:+ s ∧ f t = some (a, rest) :=
  exists_of_mem_allFrom hmem

/-- What a repeated search misses lies within one of its own finds. -/
theorem mem_all_or_hidden {s t rest : Text} {a : α} (hne : t ≠ []) (hsuffix : t <:+ s)
    (hfound : f t = some (a, rest)) :
    a ∈ all f s ∨ ∃ q b after, q ≠ [] ∧ f (q ++ t) = some (b, after) ∧ b ∈ all f s ∧
      after.length < t.length := by
  rcases hsuffix with ⟨p, rfl⟩
  exact mem_allFrom_or_hidden hne hfound (Nat.zero_le p.length)

end Scan
end QueryAlgebra
