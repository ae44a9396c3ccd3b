import QueryAlgebra.Proofs.LowerCase
import QueryAlgebra.Proofs.Clauses

/-!
# Columns and conditions of any query

The columns and the condition of a query are looked for in every text, well formed
or not.  Here it is said what is found, in terms of the ways to cut the text at the
words of the clause, and without regard to how the search goes about it: the columns
stand at the leftmost `select` that can be cut off from a `from`, the condition of a
query in one line reaches from the first `where` to the first later clause.

Main results:

- Theorem `exists_leftmost_of_first`: a search finds the leftmost place at which its
  recogniser succeeds.
- Theorem `projection_isSome_iff`: columns are found wherever the text can be cut
  into `select`, columns and `from`.
- Theorem `columns_of_query`: the projected columns of any query.
- Theorem `conditions_of_query`: the selected condition of any query.
-/

namespace QueryAlgebra

/-! ## Leftmost places -/

namespace Scan

variable {α : Type} {f : Text → Option α}

/-- The recogniser succeeds behind the first stretch of the text, and at no earlier place. -/
structure Leftmost (f : Text → Option α) (s u t : Text) : Prop where
  cut : s = u ++ t
  found : (f t).isSome = true
  least : ∀ u' t', s = u' ++ t' → (f t').isSome = true → u.length ≤ u'.length

/-- A search finds the leftmost place at which its recogniser succeeds. -/
theorem exists_leftmost_of_first {s : Text} {a : α} (hfound : first f s = some a) :
    ∃ u t, Leftmost f s u t ∧ f t = some a := by
  induction s with
  | nil =>
      have hhere : f [] = some a := by simpa [first] using hfound
      exact ⟨[], [], ⟨rfl, by simp [hhere], by simp⟩, hhere⟩
  | cons c s ih =>
      cases hhere : f (c :: s) with
      | some b =>
          rw [first_of_eq_some hhere] at hfound
          exact ⟨[], c :: s, ⟨rfl, by simp [hhere], by simp⟩, hhere.trans hfound⟩
      | none =>
          rw [first_cons_of_eq_none hhere] at hfound
          rcases ih hfound with ⟨u, t, hleftmost, ht⟩
          refine ⟨c :: u, t, ⟨by rw [hleftmost.cut, List.cons_append], hleftmost.found, ?_⟩, ht⟩
          intro u' t' hcut hsome
          cases u' with
          | nil =>
              rw [List.nil_append] at hcut
              rw [← hcut, hhere] at hsome
              contradiction
          | cons d u' =>
              have hle := hleftmost.least u' t' (List.cons.inj hcut).2 hsome
              simpa using hle

theorem Blanks.append {w g : Text} (hw : Blanks w) (hg : ∀ c ∈ g, isBlank c = true) :
    Blanks (w ++ g) := by
  refine ⟨by simp [hw.1], ?_⟩
  intro c hc
  rcases List.mem_append.mp hc with hc | hc
  · exact hw.2 c hc
  · exact hg c hc

/-- Every text is cut in two behind the blanks at its start. -/
theorem exists_blank_start (s : Text) :
    ∃ g t, s = g ++ t ∧ (∀ c ∈ g, isBlank c = true) ∧ Halts isBlank t :=
  ⟨s.takeWhile isBlank, s.dropWhile isBlank, List.takeWhile_append_dropWhile.symm,
    fun _ => List.mem_takeWhile_imp, halts_dropWhile isBlank s⟩

/--
Behind a word and its blanks something is found exactly if a line search succeeds
there, or if the test holds before the last of two or more blanks.
-/
theorem between_isSome_iff {word w t : Text} {stops : Text → Bool} (hw : Blanks w)
    (ht : Halts isBlank t) :
    (between word stops (word ++ (w ++ t))).isSome = true ↔
      (upTo stops t).isSome = true ∨ (2 ≤ w.length ∧ stops (' ' :: t) = true) := by
  simp only [between, afterWord_append, afterBlanks_append hw ht,
    takeWhile_append_of_halts hw.2 ht, Option.bind_eq_bind, Option.bind_some]
  cases upTo stops t with
  | some x => simp
  | none => simp [Option.isSome_iff_exists]

end Scan

/-! ## Trimmed texts -/

namespace Clause

open Scan

/-- Trimming takes blanks from the start first, and then from the end of what is left. -/
theorem trim_isPrefix (s : Text) : Text.trim s <+: s.dropWhile isBlank := by
  rw [Text.trim, Text.trimEnd, ← List.reverse_suffix, List.reverse_reverse]
  exact List.dropWhile_suffix isBlank

theorem trim_isInfix (s : Text) : Text.trim s <:+: s :=
  (trim_isPrefix s).isInfix.trans (List.dropWhile_suffix isBlank).isInfix

/-- What is left has no blanks at either end. -/
@[simp] theorem trimmed_trim (s : Text) : Trimmed (Text.trim s) := by
  constructor
  · intro c hc
    rcases trim_isPrefix s with ⟨rest, hrest⟩
    apply halts_dropWhile isBlank s c
    rw [← hrest, List.head?_append, hc]
    rfl
  · rw [Text.trim, Text.trimEnd, List.reverse_reverse]
    exact halts_dropWhile isBlank _

/-! ## Cuts at `select` and `from` -/

/-- The text has `select`, columns in one line and `from` in it, with blanks between. -/
structure ProjectionCut (s before w columns v rest : Text) : Prop where
  cut : s = before ++ (selectWord ++ (w ++ (columns ++ (v ++ (fromWord ++ rest)))))
  afterSelect : Blanks w
  beforeFrom : Blanks v
  inline : ∀ c ∈ columns, c ≠ '\n'

section ProjectionCut

variable {s before w columns v rest : Text}

/-- A cut at the start of a text is one in every longer text. -/
theorem ProjectionCut.after (hcut : ProjectionCut s [] w columns v rest) (before : Text) :
    ProjectionCut (before ++ s) before w columns v rest :=
  ⟨by rw [hcut.cut, List.nil_append], hcut.afterSelect, hcut.beforeFrom, hcut.inline⟩

/-- Every cut is one at the start of the text from there on. -/
theorem ProjectionCut.exists_here (hcut : ProjectionCut s before w columns v rest) :
    ∃ t, s = before ++ t ∧ ProjectionCut t [] w columns v rest :=
  ⟨_, hcut.cut, rfl, hcut.afterSelect, hcut.beforeFrom, hcut.inline⟩

end ProjectionCut

/-- The columns that are read at a place of a query. -/
def projectionHere (s : Text) : Option Text :=
  between selectWord fromNext s

theorem fromNext_eq_true_iff {s : Text} :
    fromNext s = true ↔ ∃ v rest, s = v ++ (fromWord ++ rest) ∧ Blanks v := by
  constructor
  · intro hnext
    rw [fromNext, Option.isSome_iff_exists] at hnext
    rcases hnext with ⟨rest, hrest⟩
    simp only [afterFrom, Option.bind_eq_some_iff] at hrest
    rcases hrest with ⟨t, hblanks, hfrom⟩
    rcases afterBlanks_eq_some_iff.mp hblanks with ⟨v, rfl, hv, -⟩
    exact ⟨v, rest, by rw [afterWord_eq_some_iff.mp hfrom], hv⟩
  · rintro ⟨v, rest, rfl, hv⟩
    exact fromNext_append hv rest

/-- A space leads on to `from` only if the text behind it starts with the word. -/
theorem exists_of_fromNext_blank {t : Text} (ht : Halts isBlank t)
    (hnext : fromNext (' ' :: t) = true) : ∃ rest, t = fromWord ++ rest := by
  have hblanks : afterBlanks (' ' :: t) = some t :=
    afterBlanks_append (w := [' ']) (by decide) ht
  rw [fromNext, Option.isSome_iff_exists] at hnext
  rcases hnext with ⟨rest, hrest⟩
  rw [afterFrom, hblanks, Option.bind_some] at hrest
  exact ⟨rest, afterWord_eq_some_iff.mp hrest⟩

/--
The columns that are read at a place are cut off there, and within them no blank
stands right before the word `from`.
-/
theorem exists_of_projectionHere {s columns : Text} (hfound : projectionHere s = some columns) :
    (∃ w v rest, ProjectionCut s [] w columns v rest) ∧
      ∀ b, isBlank b = true → Lacks (b :: fromWord) columns := by
  rcases exists_of_between hfound with ⟨w, t, rfl, hw, ht, hsearch | ⟨-, hlong, hstops, rfl⟩⟩
  · rcases exists_of_upTo hsearch with ⟨after, rfl, hstops, hinline, hshortest⟩
    rcases fromNext_eq_true_iff.mp hstops with ⟨v, rest, rfl, hv⟩
    refine ⟨⟨w, v, rest, rfl, hw, hv, hinline⟩, ?_⟩
    rintro b hb ⟨p, q, rfl⟩
    -- The search would have stopped before this blank.
    have hgoes := hshortest (b :: fromWord ++ q) ⟨p, by simp⟩ (by simp)
    have hcomes : fromNext (b :: fromWord ++ q ++ (v ++ (fromWord ++ rest))) = true :=
      fromNext_eq_true_iff.mpr
        ⟨[b], q ++ (v ++ (fromWord ++ rest)), by simp, by simp, by simpa using hb⟩
    rw [hcomes] at hgoes
    contradiction
  · -- All but the last of the blanks stand before the empty columns.
    rcases exists_of_fromNext_blank ht hstops with ⟨rest, rfl⟩
    rcases List.eq_nil_or_concat w with rfl | ⟨w', b, rfl⟩
    · exact absurd rfl hw.1
    · have hw' : Blanks w' := by
        refine ⟨?_, fun c hc => hw.2 c (by simp [hc])⟩
        rintro rfl
        simp at hlong
      have hb : Blanks [b] := ⟨by simp, fun c hc => hw.2 c (by simp at hc; simp [hc])⟩
      refine ⟨⟨w', [b], rest, by simp, hw', hb, by simp⟩, ?_⟩
      intro b' _ hoccurs
      simpa using List.infix_nil.mp hoccurs

/-- Columns are read at every place at which they can be cut off. -/
theorem projectionHere_isSome_of_cut {s w columns v rest : Text}
    (hcut : ProjectionCut s [] w columns v rest) : (projectionHere s).isSome = true := by
  rcases hcut with ⟨rfl, hw, hv, hinline⟩
  rw [List.nil_append, projectionHere]
  rcases exists_blank_start columns with ⟨g, y, rfl, hg, hy⟩
  -- The blanks after `select` go on into the columns, and perhaps through all of them.
  cases y with
  | nil =>
      have hmore : Blanks (w ++ (g ++ v)) := by
        apply hw.append
        intro c hc
        rcases List.mem_append.mp hc with hc | hc
        · exact hg c hc
        · exact hv.2 c hc
      have hlong : 2 ≤ (w ++ (g ++ v)).length := by
        have hwlength := List.length_pos_iff.mpr hw.1
        have hvlength := List.length_pos_iff.mpr hv.1
        simp only [List.length_append]
        omega
      have hcut : selectWord ++ (w ++ (g ++ [] ++ (v ++ (fromWord ++ rest)))) =
          selectWord ++ ((w ++ (g ++ v)) ++ (fromWord ++ rest)) := by simp
      rw [hcut, between_isSome_iff hmore (halts_blank_word isWord_fromWord rest)]
      exact Or.inr ⟨hlong, fromNext_append (w := [' ']) (by decide) rest⟩
  | cons d y =>
      have hcut : selectWord ++ (w ++ (g ++ d :: y ++ (v ++ (fromWord ++ rest)))) =
          selectWord ++ ((w ++ g) ++ (d :: y ++ (v ++ (fromWord ++ rest)))) := by simp
      rw [hcut, between_isSome_iff (hw.append hg) (hy.append (by simp) _)]
      refine Or.inl (upTo_isSome_iff.mpr ⟨_, _, rfl, fromNext_append hv rest, ?_⟩)
      intro c hc
      exact hinline c (List.mem_append_right g hc)

/-- Columns are found exactly if the text can be cut into `select`, columns and `from`. -/
theorem projection_isSome_iff {s : Text} :
    (projection s).isSome = true ↔
      ∃ before w columns v rest, ProjectionCut s before w columns v rest := by
  rw [projection, first_isSome_iff]
  constructor
  · rintro ⟨t, ⟨before, rfl⟩, hsome⟩
    rcases Option.isSome_iff_exists.mp hsome with ⟨columns, hcolumns⟩
    rcases (exists_of_projectionHere hcolumns).1 with ⟨w, v, rest, hcut⟩
    exact ⟨before, w, columns, v, rest, hcut.after before⟩
  · rintro ⟨before, w, columns, v, rest, hcut⟩
    rcases hcut.exists_here with ⟨t, rfl, hhere⟩
    exact ⟨t, ⟨before, rfl⟩, projectionHere_isSome_of_cut hhere⟩

end Clause

namespace Query

open Scan Clause

/-! ## Projected columns -/

theorem columns_eq_getD (query : Text) :
    (parts query).columns = (projection (Text.lower query)).getD ['*'] := by
  rw [parts, Parts.ofText]
  cases hcolumns : projection (Text.lower query) with
  | none => rfl
  | some columns =>
      have htrim := (projection_trimmed hcolumns).trim_eq
      simpa using htrim

/--
The projected columns of any query.  A star stands for them exactly if the query
cannot be cut into `select`, columns in one line and `from`, with blanks between.
Otherwise they are the columns of such a cut at the leftmost `select` that has one;
they stand in one line, no blank in them comes right before `from`, and they have no
blanks at their ends that trimming could take away.
-/
theorem columns_of_query (query : Text) :
    algebraText query = "\\pi_\x7b".toList ++ (projection (Text.lower query)).getD ['*'] ++
      "\x7d(".toList ++ (parts query).rows.render ++ ")".toList ∧
    (projection (Text.lower query) = none ↔
      ¬ ∃ before w columns v rest, ProjectionCut (Text.lower query) before w columns v rest) ∧
    ∀ columns, projection (Text.lower query) = some columns →
      (∃ before w v rest, ProjectionCut (Text.lower query) before w columns v rest ∧
        ∀ before' w' columns' v' rest',
          ProjectionCut (Text.lower query) before' w' columns' v' rest' →
            before.length ≤ before'.length) ∧
      (∀ c ∈ columns, c ≠ '\n') ∧ (∀ b, isBlank b = true → Lacks (b :: fromWord) columns) ∧
      Trimmed columns ∧ Text.trim columns = columns := by
  refine ⟨?_, ?_, ?_⟩
  · rw [algebraText, ← columns_eq_getD]
    simp [Parts.algebra, Algebra.render, Algebra.projectionMark]
  · rw [← projection_isSome_iff, Option.not_isSome_iff_eq_none]
  · intro columns hcolumns
    have htrimmed := projection_trimmed hcolumns
    rcases exists_leftmost_of_first hcolumns with ⟨before, t, hleftmost, ht⟩
    rcases exists_of_projectionHere ht with ⟨⟨w, v, rest, hcut⟩, hlacks⟩
    refine ⟨⟨before, w, v, rest, ?_, ?_⟩, hcut.inline, hlacks, htrimmed, htrimmed.trim_eq⟩
    · rw [hleftmost.cut]
      exact hcut.after before
    · intro before' w' columns' v' rest' hother
      rcases hother.exists_here with ⟨t', ht', hhere⟩
      exact hleftmost.least before' t' ht' (projectionHere_isSome_of_cut hhere)

/-- A query whose first column list is divided by a line end, with a second one behind it. -/
def dividedColumns : Text :=
  "SELECT nome,\nemail FROM cliente SELECT status  FROM pedido".toList

theorem columns_of_dividedColumns :
    projection (Text.lower dividedColumns) = some "status".toList ∧
      ∃ before w v rest,
        ProjectionCut (Text.lower dividedColumns) before w "status".toList v rest ∧
          ∀ before' w' columns' v' rest',
            ProjectionCut (Text.lower dividedColumns) before' w' columns' v' rest' →
              before.length ≤ before'.length := by
  have hcolumns : projection (Text.lower dividedColumns) = some "status".toList := by
    decide +kernel
  exact ⟨hcolumns, ((columns_of_query dividedColumns).2.2 _ hcolumns).1⟩

-- With two blanks before `from` the columns are empty, unless a later `from` can be reached.
example :
    projection "select from t".toList = none ∧ projection "select  from t".toList = some [] ∧
      projection "select  from t from u".toList = some "from t".toList := by
  decide +kernel

end Query

/-! ## Conditions of an expression -/

namespace Algebra

open Clause

/-- The conditions of the selections in an expression, from the outside in. -/
def conditions : Algebra → List Text
  | relation _ => []
  | thetaJoin left _ _ => left.conditions
  | product left _ => left.conditions
  | selection condition rows => condition :: rows.conditions
  | projection _ rows => rows.conditions

theorem conditions_foldl_attach (joins : List Join) (left : Algebra) :
    (joins.foldl attach left).conditions = left.conditions := by
  induction joins generalizing left with
  | nil => rfl
  | cons j joins ih =>
      rw [List.foldl_cons, ih, attach]
      split <;> rfl

/-- A translated query has the condition of its parts, if that is not empty. -/
theorem conditions_algebra (p : Query.Parts) :
    p.algebra.conditions = if p.condition.isEmpty then [] else [p.condition] := by
  have hjoined : p.joined.conditions = [] := conditions_foldl_attach p.joins _
  rw [Query.Parts.algebra, conditions, Query.Parts.rows]
  split
  · exact hjoined
  · rw [conditions, hjoined]

end Algebra

/-! ## Cuts at `where` -/

namespace Clause

open Scan

/-- The text has `where` and blanks in it. -/
structure ConditionCut (s before w rest : Text) : Prop where
  cut : s = before ++ (whereWord ++ (w ++ rest))
  blanks : Blanks w

/-- The condition that is read at a place of a query. -/
def conditionHere (s : Text) : Option Text :=
  between whereWord conditionEnds s

/-- A condition ends before what may follow it, or before the line end that closes the text. -/
theorem closes_of_conditionEnds {t : Text} (hends : conditionEnds t = true)
    (hline : t ≠ ['\n']) : Closes t := by
  simp only [conditionEnds, Bool.or_eq_true, Option.any_eq_true, List.isEmpty_iff,
    beq_iff_eq] at hends
  rcases hends with (⟨y, hblanks, hopens⟩ | hempty) | hnewline
  · rcases afterBlanks_eq_some_iff.mp hblanks with ⟨w, rfl, hw, -⟩
    rcases opensLater_eq_true_iff.mp hopens with ⟨word, hword, hwith⟩
    rcases opensWith_eq_true_iff.mp hwith with ⟨v, tail, rfl, hv⟩
    exact Or.inr ⟨w, word, v, tail, rfl, hw, hword, hv⟩
  · exact Or.inl hempty
  · exact absurd hnewline hline

/-- Within the condition that a line search finds, no later clause opens. -/
theorem lacksLater_of_upTo {s x : Text} (hfound : upTo conditionEnds s = some x) :
    LacksLater x := by
  rcases exists_of_upTo hfound with ⟨t, -, -, -, hshortest⟩
  rintro word w v hword hw hv ⟨p, q, rfl⟩
  have hgoes := hshortest (w ++ (word ++ (v ++ byWord)) ++ q) ⟨p, by simp⟩ (by simp [hw.1])
  have hcloses : Closes (w ++ (word ++ (v ++ byWord)) ++ q ++ t) :=
    Or.inr ⟨w, word, v, q ++ t, by simp, hw, hword, hv⟩
  rw [hcloses.conditionEnds] at hgoes
  contradiction

/-- Neither does one open in a stretch of such a text. -/
theorem LacksLater.within {s t : Text} (ht : LacksLater t) (hst : s <:+: t) : LacksLater s := by
  intro word w v hword hw hv
  exact (ht word w v hword hw hv).within hst

/-- The condition of any text stands in one line, and no later clause opens in it. -/
theorem condition_inline {s x : Text} (hfound : condition s = some x) :
    (∀ c ∈ x, c ≠ '\n') ∧ LacksLater x := by
  rcases exists_of_first hfound with ⟨t, -, hhere⟩
  rcases exists_of_between hhere with ⟨w, text, -, -, -, hsearch | ⟨-, -, -, rfl⟩⟩
  · rcases exists_of_upTo hsearch with ⟨after, -, -, hinline, -⟩
    exact ⟨hinline, lacksLater_of_upTo hsearch⟩
  · refine ⟨by simp, ?_⟩
    intro word w v hword hw hv hoccurs
    have hnil := List.infix_nil.mp hoccurs
    exact hw.1 (List.append_eq_nil_iff.mp hnil).1

/-- In a line, a condition is read behind every `where` with blanks. -/
theorem conditionHere_isSome_of_cut {s w rest : Text} (hcut : ConditionCut s [] w rest)
    (hline : ∀ c ∈ rest, c ≠ '\n') : (conditionHere s).isSome = true := by
  rcases hcut with ⟨rfl, hw⟩
  rcases exists_blank_start rest with ⟨g, t, rfl, hg, ht⟩
  have hcut : [] ++ (whereWord ++ (w ++ (g ++ t))) = whereWord ++ ((w ++ g) ++ t) := by simp
  rw [conditionHere, hcut, between_isSome_iff (hw.append hg) ht]
  refine Or.inl (upTo_isSome_iff.mpr ⟨t, [], by simp, rfl, ?_⟩)
  intro c hc
  exact hline c (List.mem_append_right g hc)

/--
The first `where` of a text with all blanks behind it, and behind these the shortest
text at the end of which the whole text ends or a later clause opens.
-/
structure FirstCondition (s before w x t : Text) : Prop where
  cut : ConditionCut s before w (x ++ t)
  allBlanks : Halts isBlank (x ++ t)
  leftmost : ∀ before' w' rest', ConditionCut s before' w' rest' → before.length ≤ before'.length
  closes : Closes t
  shortest : ∀ x' t', x ++ t = x' ++ t' → Closes t' → x.length ≤ x'.length

/-- A line without `where` and blanks has no condition. -/
theorem condition_eq_none {s : Text} (hnone : ¬ ∃ before w rest, ConditionCut s before w rest) :
    condition s = none := by
  rw [← Option.not_isSome_iff_eq_none, condition, first_isSome_iff]
  rintro ⟨t, ⟨before, rfl⟩, hsome⟩
  rcases Option.isSome_iff_exists.mp hsome with ⟨x, hx⟩
  rcases exists_of_between hx with ⟨w, rest, rfl, hw, -, -⟩
  exact hnone ⟨before, w, rest, rfl, hw⟩

/-- The condition of a line with `where` and blanks is the first one. -/
theorem exists_firstCondition {s : Text} (hline : ∀ c ∈ s, c ≠ '\n')
    (hsome : ∃ before w rest, ConditionCut s before w rest) :
    ∃ before w x t, FirstCondition s before w x t ∧ condition s = some x := by
  have hread : ∀ before w rest, ConditionCut s before w rest →
      (conditionHere (whereWord ++ (w ++ rest))).isSome = true := by
    intro before w rest hcut
    refine conditionHere_isSome_of_cut ⟨rfl, hcut.blanks⟩ ?_
    intro c hc
    exact hline c (by rw [hcut.cut]; simp [hc])
  have hfound : (condition s).isSome = true := by
    rcases hsome with ⟨before, w, rest, hcut⟩
    exact first_isSome_iff.mpr ⟨_, ⟨before, hcut.cut.symm⟩, hread before w rest hcut⟩
  rcases Option.isSome_iff_exists.mp hfound with ⟨x, hx⟩
  rcases exists_leftmost_of_first hx with ⟨before, t, ⟨rfl, -, hleast⟩, hhere⟩
  rcases exists_of_between hhere with ⟨w, rest, rfl, hw, hrest, hsearch⟩
  -- The end of the line is within reach, so the search for the end of the condition succeeds.
  have hupTo : upTo conditionEnds rest = some x := by
    rcases hsearch with hsearch | ⟨hnone, -⟩
    · exact hsearch
    · have hends : (upTo conditionEnds rest).isSome = true := by
        refine upTo_isSome_iff.mpr ⟨rest, [], by simp, rfl, ?_⟩
        intro c hc
        exact hline c (by simp [hc])
      rw [hnone] at hends
      contradiction
  rcases exists_of_upTo hupTo with ⟨t, rfl, hends, -, hshortest⟩
  refine ⟨before, w, x, t, ⟨⟨rfl, hw⟩, hrest, ?_, ?_, ?_⟩, hx⟩
  · intro before' w' rest' hcut
    exact hleast before' _ hcut.cut (hread before' w' rest' hcut)
  · apply closes_of_conditionEnds hends
    rintro rfl
    exact hline '\n' (by simp) rfl
  · intro x' t' heq hcloses
    rcases List.append_eq_append_iff.mp heq with ⟨v, rfl, -⟩ | ⟨v, rfl, rfl⟩
    · simp
    · by_contra hlonger
      have hne : v ≠ [] := by
        rintro rfl
        simp at hlonger
      have hgoes := hshortest v (List.suffix_append x' v) hne
      rw [hcloses.conditionEnds] at hgoes
      contradiction

end Clause

/-! ## Selected conditions -/

namespace Query

open Scan Clause

/-- Every condition of a translated query is written as a selection around the joined tables. -/
theorem render_algebra (p : Parts) :
    p.algebra.render = "\\pi_\x7b".toList ++ p.columns ++ "\x7d(".toList ++
      p.algebra.conditions.foldr (fun condition rows =>
        "\\sigma_\x7b".toList ++ condition ++ "\x7d(".toList ++ rows ++ ")".toList)
        p.joined.render ++ ")".toList := by
  rw [Algebra.conditions_algebra, Parts.algebra, Algebra.render, Parts.rows]
  cases p.condition.isEmpty with
  | true => simp [Algebra.projectionMark]
  | false => simp [Algebra.render, Algebra.projectionMark, Algebra.selectionMark]

theorem conditions_eq_of_some {query x : Text} (hx : condition (Text.lower query) = some x) :
    (parts query).algebra.conditions =
      if (Text.trim x).isEmpty then [] else [Text.trim x] := by
  have hcondition : (parts query).condition = Text.trim x := by
    simp [parts, Parts.ofText, hx]
  rw [Algebra.conditions_algebra, hcondition]

theorem conditions_eq_of_none {query : Text} (hnone : condition (Text.lower query) = none) :
    (parts query).algebra.conditions = [] := by
  have hcondition : (parts query).condition = [] := by
    simp [parts, Parts.ofText, hnone]
  rw [Algebra.conditions_algebra, hcondition]
  rfl

/--
The selected condition of any query.  A condition that is selected on is not empty,
stands in one line, has no blanks at its ends, and no later clause opens in it.  A
query in one line has no selection if blanks nowhere follow the word `where`;
otherwise its condition reaches from the first such `where` and its blanks to the
first later clause or to the end, and is selected on if it is not blank.
-/
theorem conditions_of_query (query : Text) :
    algebraText query = "\\pi_\x7b".toList ++ (parts query).columns ++ "\x7d(".toList ++
      (parts query).algebra.conditions.foldr (fun condition rows =>
        "\\sigma_\x7b".toList ++ condition ++ "\x7d(".toList ++ rows ++ ")".toList)
        (parts query).joined.render ++ ")".toList ∧
    (∀ x ∈ (parts query).algebra.conditions,
      x ≠ [] ∧ (∀ c ∈ x, c ≠ '\n') ∧ Trimmed x ∧ LacksLater x) ∧
    ('\n' ∉ query →
      ((¬ ∃ before w rest, ConditionCut (Text.lower query) before w rest) ∧
        (parts query).algebra.conditions = []) ∨
      ∃ before w x t, FirstCondition (Text.lower query) before w x t ∧
        (parts query).algebra.conditions =
          if (Text.trim x).isEmpty then [] else [Text.trim x]) := by
  refine ⟨render_algebra (parts query), ?_, ?_⟩
  · intro y hy
    cases hfound : condition (Text.lower query) with
    | none =>
        rw [conditions_eq_of_none hfound] at hy
        simp at hy
    | some x =>
        rw [conditions_eq_of_some hfound] at hy
        split at hy
        · simp at hy
        · rename_i hne
          rw [List.mem_singleton] at hy
          subst hy
          -- Trimming keeps the condition on its line and free of later clauses.
          rcases condition_inline hfound with ⟨hinline, hlacks⟩
          refine ⟨by simpa using hne, ?_, trimmed_trim x, hlacks.within (trim_isInfix x)⟩
          intro c hc
          exact hinline c ((trim_isInfix x).subset hc)
  · intro hquery
    -- Without line ends the search stops at the first place where a condition stands.
    have hline : ∀ c ∈ Text.lower query, c ≠ '\n' := by
      rintro c hc rfl
      exact hquery (LowerCase.newline_mem_of_mem_lower hc)
    by_cases hsome : ∃ before w rest, ConditionCut (Text.lower query) before w rest
    · right
      rcases exists_firstCondition hline hsome with ⟨before, w, x, t, hfirst, hx⟩
      exact ⟨before, w, x, t, hfirst, conditions_eq_of_some hx⟩
    · left
      exact ⟨hsome, conditions_eq_of_none (condition_eq_none hsome)⟩

/-- The orders of later customers, in one line. -/
def laterOrders : Text :=
  "SELECT status FROM pedido WHERE idcliente > 1  ORDER BY status".toList

theorem conditions_of_laterOrders :
    '\n' ∉ laterOrders ∧ (parts laterOrders).algebra.conditions = ["idcliente > 1".toList] ∧
      ∃ before w x t, FirstCondition (Text.lower laterOrders) before w x t ∧
        (parts laterOrders).algebra.conditions = [Text.trim x] := by
  have hline : '\n' ∉ laterOrders := by decide +kernel
  have hconditions : (parts laterOrders).algebra.conditions = ["idcliente > 1".toList] := by
    decide +kernel
  refine ⟨hline, hconditions, ?_⟩
  rcases (conditions_of_query laterOrders).2.2 hline with ⟨-, hnone⟩ | ⟨before, w, x, t, hfirst, hx⟩
  · rw [hconditions] at hnone
    contradiction
  · refine ⟨before, w, x, t, hfirst, ?_⟩
    split at hx
    · rw [hconditions] at hx
      contradiction
    · exact hx

end Query
end QueryAlgebra
