import QueryAlgebra.Proofs.Unreachable

/-!
# Written expressions and their parts

The written algebra of a query holds texts that were copied from the query: columns
and a condition, in which brackets, backslashes and whole expressions may stand.  All
the same the parts can be read off it, as long as no text has a closing brace in it.
The columns and every condition end at the first closing brace behind them, a table
name ends where its characters do, and the brackets in front of the source table count
the joins.

Main results:

- Theorem `render_joined`: the joins of an expression stand one behind the other, after
  as many brackets.
- Theorem `Parts.Legible.eq_of_render_eq`: legible parts are determined by the written
  expression.
- Theorem `legible_parts`: the parts of a query without closing braces are legible.
- Theorem `algebraText_eq_iff`: exactly when two queries have the same written algebra.
-/

namespace QueryAlgebra

/-! ## Texts that end at a character -/

namespace Scan

/-- A text without a character is told from what follows the first such character. -/
theorem append_inj_of_not_mem {c : Char} {u v s t : Text} (hu : c ∉ u) (hv : c ∉ v)
    (htext : u ++ c :: s = v ++ c :: t) : u = v ∧ s = t := by
  have hclass : ∀ w : Text, c ∉ w → ∀ d ∈ w, (d != c) = true := by
    intro w hw d hd
    rw [bne_iff_ne]
    rintro rfl
    exact hw hd
  rcases append_inj_of_halts (hclass u hu) (hclass v hv) (by simp) (by simp) htext with
    ⟨hsame, hrest⟩
  exact ⟨hsame, List.tail_eq_of_cons_eq hrest⟩

/-- What stands between a word and the place where a test holds comes from the text. -/
theorem subset_of_first_between {word s x : Text} {stops : Text → Bool}
    (hfound : first (between word stops) s = some x) : x ⊆ s := by
  rcases exists_of_first hfound with ⟨t, hsuffix, hhere⟩
  rcases exists_of_between hhere with ⟨w, u, rfl, -, -, hsearch | ⟨-, -, -, rfl⟩⟩
  · rcases exists_of_upTo hsearch with ⟨after, rfl, -⟩
    intro c hc
    exact hsuffix.subset (by simp [hc])
  · exact List.nil_subset s

end Scan

namespace Query

open Scan Clause

/-! ## Legible parts -/

/-- A joined table that can be told from what is written around it. -/
structure LegibleJoin (j : Join) : Prop where
  given : j.condition ≠ [] ∧ Trimmed j.condition
  condition : '\x7d' ∉ j.condition
  table : IsWord j.table

/-- Parts of a query that can be told from what is written around them. -/
structure Parts.Legible (p : Parts) : Prop where
  columns : '\x7d' ∉ p.columns
  condition : '\x7d' ∉ p.condition
  base : ∀ c ∈ p.base, isNameChar c = true
  joins : ∀ j ∈ p.joins, LegibleJoin j

/-! ## The written joins -/

/-- What a join adds behind the expression that is joined. -/
def attachment (j : Join) : Text :=
  Algebra.joinMark ++ (j.condition ++ '\x7d' :: ' ' :: (j.table ++ [')']))

/-- Joins are written as brackets in front and attachments behind. -/
theorem render_foldl_attachment {joins : List Join} (hjoins : ∀ j ∈ joins, LegibleJoin j)
    (left : Algebra) :
    (joins.foldl Algebra.attach left).render =
      List.replicate joins.length '(' ++ (left.render ++ joins.flatMap attachment) := by
  induction joins generalizing left with
  | nil => simp
  | cons j joins ih =>
      rcases List.forall_mem_cons.mp hjoins with ⟨hj, hjoins⟩
      rw [List.foldl_cons, ih hjoins, Algebra.attach_eq_thetaJoin hj.given, List.length_cons,
        List.replicate_succ']
      simp [Algebra.render, attachment]

/-- The joins stand one behind the other, after as many brackets and the source table. -/
theorem render_joined {p : Parts} (hp : p.Legible) :
    p.joined.render =
      List.replicate p.joins.length '(' ++ (p.base ++ p.joins.flatMap attachment) :=
  render_foldl_attachment hp.joins (.relation p.base)

/-- A join is read back from its attachment. -/
theorem attachment_append_inj {j k : Join} {s t : Text} (hj : LegibleJoin j)
    (hk : LegibleJoin k) (htext : attachment j ++ s = attachment k ++ t) : j = k ∧ s = t := by
  simp only [attachment, List.append_assoc, List.append_cancel_left_eq, List.cons_append,
    List.nil_append] at htext
  rcases append_inj_of_not_mem hj.condition hk.condition htext with ⟨hcondition, hrest⟩
  rcases append_inj_of_halts hj.table.2 hk.table.2 (by simp; decide) (by simp; decide)
    (List.tail_eq_of_cons_eq hrest) with ⟨htable, hafter⟩
  refine ⟨?_, List.tail_eq_of_cons_eq hafter⟩
  cases j
  cases k
  simp_all

@[simp] theorem attachment_ne_nil (j : Join) : attachment j ≠ [] := by
  simp [attachment, Algebra.joinMark]

/-- Joins that stand one behind the other are told apart. -/
theorem flatMap_attachment_inj {joins others : List Join} (hjoins : ∀ j ∈ joins, LegibleJoin j)
    (hothers : ∀ j ∈ others, LegibleJoin j)
    (htext : joins.flatMap attachment = others.flatMap attachment) : joins = others := by
  induction joins generalizing others with
  | nil =>
      cases others with
      | nil => rfl
      | cons k others => simp at htext
  | cons j joins ih =>
      rw [List.forall_mem_cons] at hjoins
      cases others with
      | nil => simp at htext
      | cons k others =>
          rw [List.forall_mem_cons] at hothers
          rw [List.flatMap_cons, List.flatMap_cons] at htext
          rcases attachment_append_inj hjoins.1 hothers.1 htext with ⟨hfirst, hrest⟩
          rw [hfirst, ih hjoins.2 hothers.2 hrest]

/-- Neither a name nor a bracket goes on where the first join begins. -/
theorem halts_flatMap_attachment {q : Char → Bool} (hq : q ' ' = false) (joins : List Join) :
    Halts q (joins.flatMap attachment) := by
  cases joins with
  | nil => exact halts_nil q
  | cons j joins => simpa [attachment, Algebra.joinMark] using hq

/-- A character that belongs to no name and is no space does not stand where the source does. -/
theorem Parts.Legible.halts_base {p : Parts} (hp : p.Legible) {c : Char}
    (hname : isNameChar c = false) (hspace : c ≠ ' ') :
    Halts (· == c) (p.base ++ p.joins.flatMap attachment) := by
  cases hbase : p.base with
  | nil =>
      apply halts_flatMap_attachment
      exact beq_eq_false_iff_ne.mpr (Ne.symm hspace)
  | cons d base =>
      have hd := hp.base d (by simp [hbase])
      rw [List.cons_append, halts_cons, beq_eq_false_iff_ne]
      rintro rfl
      rw [hname] at hd
      contradiction

/-- The source table and the joins can be read off the written joins. -/
theorem joined_inj {p q : Parts} (hp : p.Legible) (hq : q.Legible)
    (htext : p.joined.render = q.joined.render) : p.base = q.base ∧ p.joins = q.joins := by
  have hbracket : ∀ n, ∀ c ∈ List.replicate n '(', (c == '(') = true := by
    intro n c hc
    rw [List.eq_of_mem_replicate hc]
    rfl
  rw [render_joined hp, render_joined hq] at htext
  rcases append_inj_of_halts (hbracket _) (hbracket _) (hp.halts_base (by decide) (by decide))
    (hq.halts_base (by decide) (by decide)) htext with ⟨-, hrest⟩
  rcases append_inj_of_halts hp.base hq.base (halts_flatMap_attachment (by decide) p.joins)
    (halts_flatMap_attachment (by decide) q.joins) hrest with ⟨hbase, hjoins⟩
  exact ⟨hbase, flatMap_attachment_inj hp.joins hq.joins hjoins⟩

/-! ## The whole expression -/

/-- No backslash stands at the start of the written joins. -/
theorem halts_joined {p : Parts} (hp : p.Legible) : Halts (· == '\\') p.joined.render := by
  rw [render_joined hp]
  cases p.joins.length with
  | zero => exact hp.halts_base (by decide) (by decide)
  | succ n => simp [List.replicate_succ]

/-- With a condition the rows are a selection. -/
theorem render_rows_of_some {p : Parts} (hp : p.condition ≠ []) :
    p.rows.render = Algebra.selectionMark ++
      (p.condition ++ '\x7d' :: '(' :: (p.joined.render ++ [')'])) := by
  simp [Parts.rows, hp, Algebra.render]

/-- Without a condition the rows are the joined tables. -/
theorem render_rows_of_none {p : Parts} (hp : p.condition = []) :
    p.rows.render = p.joined.render := by
  simp [Parts.rows, hp]

/-- A selection is told from joins by the backslash at its start. -/
theorem render_rows_ne {p q : Parts} (hp : p.condition ≠ []) (hq : q.Legible)
    (hnone : q.condition = []) : p.rows.render ≠ q.rows.render := by
  intro htext
  have hstart := halts_joined hq
  rw [← render_rows_of_none hnone, ← htext, render_rows_of_some hp, Algebra.selectionMark,
    List.cons_append, halts_cons] at hstart
  contradiction

/-- The condition and the joined expression can be read off the written rows. -/
theorem rows_inj {p q : Parts} (hp : p.Legible) (hq : q.Legible)
    (htext : p.rows.render = q.rows.render) :
    p.condition = q.condition ∧ p.joined.render = q.joined.render := by
  by_cases hpnone : p.condition = [] <;> by_cases hqnone : q.condition = []
  · rw [render_rows_of_none hpnone, render_rows_of_none hqnone] at htext
    exact ⟨hpnone.trans hqnone.symm, htext⟩
  · exact absurd htext.symm (render_rows_ne hqnone hp hpnone)
  · exact absurd htext (render_rows_ne hpnone hq hqnone)
  · rw [render_rows_of_some hpnone, render_rows_of_some hqnone,
      List.append_cancel_left_eq] at htext
    rcases append_inj_of_not_mem hp.condition hq.condition htext with ⟨hcondition, hrest⟩
    exact ⟨hcondition, List.append_cancel_right (List.tail_eq_of_cons_eq hrest)⟩

/-- The columns and the rows can be read off the written expression. -/
theorem algebra_inj {p q : Parts} (hp : p.Legible) (hq : q.Legible)
    (htext : p.algebra.render = q.algebra.render) :
    p.columns = q.columns ∧ p.rows.render = q.rows.render := by
  simp only [Parts.algebra, Algebra.render, List.append_assoc, List.append_cancel_left_eq,
    List.cons_append, List.nil_append] at htext
  rcases append_inj_of_not_mem hp.columns hq.columns htext with ⟨hcolumns, hrest⟩
  exact ⟨hcolumns, List.append_cancel_right (List.tail_eq_of_cons_eq hrest)⟩

/-- Legible parts are determined by the written expression. -/
theorem Parts.Legible.eq_of_render_eq {p q : Parts} (hp : p.Legible) (hq : q.Legible)
    (htext : p.algebra.render = q.algebra.render) : p = q := by
  rcases algebra_inj hp hq htext with ⟨hcolumns, hrows⟩
  rcases rows_inj hp hq hrows with ⟨hcondition, hjoined⟩
  rcases joined_inj hp hq hjoined with ⟨hbase, hjoins⟩
  cases p
  cases q
  simp_all

/-! ## Parts of a query -/

/-- No comparison contains a closing brace. -/
theorem not_mem_comparison {s condition rest : Text}
    (hfound : comparison s = some (condition, rest)) : '\x7d' ∉ condition := by
  rcases exists_of_comparison hfound with
    ⟨left, before, operator, after, right, rfl, -, hleft, hbefore, hoperator, hafter, hright, -⟩
  simp only [List.mem_append, not_or]
  refine ⟨?_, ?_, ?_, ?_, ?_⟩
  · intro hmem
    exact absurd (hleft.2 _ hmem) (by decide)
  · intro hmem
    exact absurd (hbefore _ hmem) (by decide)
  · intro hmem
    exact absurd (hoperator.2 _ hmem) (by decide)
  · intro hmem
    exact absurd (hafter _ hmem) (by decide)
  · intro hmem
    exact absurd (hright.2 _ hmem) (by decide)

/-- The characters of a join clause are told from what is written around them in any query. -/
theorem legible_of_mem_joins {s : Text} {j : Join} (hj : j ∈ Clause.joins s) :
    LegibleJoin j := by
  have hgiven := condition_of_mem_joins hj
  rcases exists_of_mem_all hj with ⟨t, rest, -, hfound⟩
  rcases exists_of_joinHere hfound with ⟨v, u, after, hjoined, -, -, hcomparison⟩
  rcases joinedHere_eq_some_iff.mp hjoined with ⟨w, -, -, htable, -⟩
  exact ⟨hgiven, not_mem_comparison hcomparison, htable⟩

/-- The table of a query is written in the characters of names. -/
theorem isNameChar_of_mem_base {query : Text} {c : Char} (hc : c ∈ (parts query).base) :
    isNameChar c = true := by
  rw [base_eq_getD] at hc
  cases hsource : source (Text.lower query) with
  | none => simp [hsource] at hc
  | some table =>
      rcases exists_of_first hsource with ⟨t, -, hhere⟩
      rcases sourceHere_eq_some_iff.mp hhere with ⟨-, -, -, -, hword, -⟩
      exact hword.2 c (by simpa [hsource] using hc)

/-- What is cut out of a query without closing braces has none. -/
theorem not_mem_trim_of_between {query word x : Text} {stops : Text → Bool}
    (hquery : '\x7d' ∉ query) (hfound : first (between word stops) (Text.lower query) = some x) :
    '\x7d' ∉ Text.trim x := by
  intro hmem
  have hlower := subset_of_first_between hfound ((trim_isInfix x).subset hmem)
  exact hquery (LowerCase.mem_of_mem_lower ⟨by decide, by decide⟩ hlower)

/-- The parts of a query without closing braces are legible. -/
theorem legible_parts {query : Text} (hquery : '\x7d' ∉ query) : (parts query).Legible where
  columns := by
    rw [parts, Parts.ofText]
    cases hcolumns : projection (Text.lower query) with
    | none => simp
    | some x => exact not_mem_trim_of_between hquery hcolumns
  condition := by
    rw [parts, Parts.ofText]
    cases hcondition : condition (Text.lower query) with
    | none => simp
    | some x => exact not_mem_trim_of_between hquery hcondition
  base _ hc := isNameChar_of_mem_base hc
  joins _ hj := legible_of_mem_joins hj

/-- Joins with trimmed conditions are the same if the trimmed pairs are. -/
theorem map_trim_inj {joins others : List Join} (hjoins : ∀ j ∈ joins, LegibleJoin j)
    (hothers : ∀ j ∈ others, LegibleJoin j)
    (hpairs : joins.map (fun j => (Text.trim j.condition, j.table)) =
      others.map fun j => (Text.trim j.condition, j.table)) : joins = others := by
  have htrim : ∀ list : List Join, (∀ j ∈ list, LegibleJoin j) →
      list.map (fun j => (Text.trim j.condition, j.table)) =
        list.map fun j => (j.condition, j.table) := by
    intro list hlist
    apply List.map_congr_left
    intro j hj
    rw [(hlist j hj).given.2.trim_eq]
  rw [htrim joins hjoins, htrim others hothers] at hpairs
  apply List.map_injective_iff.mpr _ hpairs
  rintro ⟨table, condition⟩ ⟨table', condition'⟩ hpair
  simp_all

/--
Two queries without closing braces have the same written algebra if and only if they
project the same columns, select on the same condition or both on none, and join the
same tables on the same conditions, in the same order, to the same source table.
-/
theorem algebraText_eq_iff (query other : Text) (hquery : '\x7d' ∉ query)
    (hother : '\x7d' ∉ other) :
    algebraText query = algebraText other ↔
      (parts query).columns = (parts other).columns ∧
      (parts query).condition = (parts other).condition ∧
      (parts query).base = (parts other).base ∧
      (parts query).joins.map (fun j => (Text.trim j.condition, j.table)) =
        (parts other).joins.map fun j => (Text.trim j.condition, j.table) := by
  have hlegible := legible_parts hquery
  have hlegible' := legible_parts hother
  constructor
  · intro htext
    rw [hlegible.eq_of_render_eq hlegible' htext]
    exact ⟨rfl, rfl, rfl, rfl⟩
  · rintro ⟨hcolumns, hcondition, hbase, hpairs⟩
    have hjoins := map_trim_inj hlegible.joins hlegible'.joins hpairs
    have hparts : parts query = parts other := by
      cases hp : parts query
      cases hq : parts other
      simp_all
    rw [algebraText, algebraText, hparts]

/-- A query with brackets in its columns and its condition. -/
def bracketed : Text :=
  "SELECT (a FROM t JOIN u ON v=w WHERE \\sigma_\x7bx)".toList

/-- The same query in another layout, with an order. -/
def bracketedInOrder : Text :=
  "select (a\n from t join u on v=w where \\sigma_\x7bx) order by a".toList

/-- Two queries without closing braces that have one algebra. -/
theorem algebraText_bracketedInOrder :
    '\x7d' ∉ bracketed ∧ '\x7d' ∉ bracketedInOrder ∧
      algebraText bracketed = algebraText bracketedInOrder := by
  have hquery : '\x7d' ∉ bracketed := by decide +kernel
  have hother : '\x7d' ∉ bracketedInOrder := by decide +kernel
  have hparts : parts bracketed =
      ⟨['(', 'a'], ['t'], [⟨['u'], ['v', '=', 'w']⟩], "\\sigma_\x7bx)".toList⟩ := by
    decide +kernel
  have hparts' : parts bracketedInOrder =
      ⟨['(', 'a'], ['t'], [⟨['u'], ['v', '=', 'w']⟩], "\\sigma_\x7bx)".toList⟩ := by
    decide +kernel
  refine ⟨hquery, hother, (algebraText_eq_iff _ _ hquery hother).mpr ?_⟩
  rw [hparts, hparts']
  exact ⟨rfl, rfl, rfl, rfl⟩

-- With closing braces, what was selected can pass for what was projected.
example :
    let query := "select a from t where b\x7d(\\sigma_\x7bc".toList
    let other := "select a\x7d(\\sigma_\x7bb from t where c".toList
    algebraText query = algebraText other ∧ (parts query).columns ≠ (parts other).columns := by
  decide +kernel

end Query
end QueryAlgebra
