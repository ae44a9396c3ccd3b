import QueryAlgebra.Proofs.Extraction
import QueryAlgebra.Proofs.JoinedTables

/-!
# Branches that no query reaches

Two branches of the library stand guard for cases that cannot arise.  A query whose
shape has been accepted always has columns: the shape is looked for with columns that
go as far as they can and with something behind `from`, the columns with ones that
stop as early as they can, but every place that shows the shape also shows columns.
And a join clause always has a condition, which is not empty and has no blanks at its
ends, so no table is attached by a product.

Main results:

- Theorem `exists_cut_of_shapedHere`: where the shape of a query is found, columns can
  be cut off.
- Theorem `condition_of_mem_joins`: the conditions of all join clauses.
- Theorem `guards_unreachable`: both branches are without effect for every query.
-/

namespace QueryAlgebra

/-! ## The shape of a query and its columns -/

namespace Clause

open Scan

/-- The shape of a whole query is found at a place. -/
def shapedHere (s : Text) : Option Unit :=
  (afterWord selectWord s).bind fun rest => if blanksThenColumns rest then some () else none

theorem wellFormed_eq (s : Text) : wellFormed s = (first shapedHere s).isSome := rfl

/-- What the projection waits for is what the shape of a query asks for. -/
theorem fromNext_of_fromFollows {s : Text} (hfollows : fromFollows s = true) :
    fromNext s = true := by
  rw [fromFollows, Option.any_eq_true] at hfollows
  rcases hfollows with ⟨rest, hrest, -⟩
  simp [fromNext, hrest]

/-- Columns on one line stand in front of the table clause. -/
theorem exists_of_columnsThenFrom {s : Text} (hs : columnsThenFrom s = true) :
    ∃ columns v rest, s = columns ++ (v ++ (fromWord ++ rest)) ∧
      (∀ c ∈ columns, c ≠ '\n') ∧ Blanks v := by
  cases s with
  | nil => simp [columnsThenFrom] at hs
  | cons c s =>
      simp only [columnsThenFrom, Bool.and_eq_true, bne_iff_ne] at hs
      rcases hs with ⟨hc, hsearch⟩
      rcases upTo_isSome_iff.mp hsearch with ⟨x, t, rfl, hfollows, hinline⟩
      rcases fromNext_eq_true_iff.mp (fromNext_of_fromFollows hfollows) with ⟨v, rest, rfl, hv⟩
      exact ⟨c :: x, v, rest, rfl, List.forall_mem_cons.mpr ⟨hc, hinline⟩, hv⟩

/-- The columns stand behind blanks. -/
theorem exists_of_blanksThenColumns {s : Text} (hs : blanksThenColumns s = true) :
    ∃ w t, s = w ++ t ∧ Blanks w ∧ columnsThenFrom t = true := by
  induction s with
  | nil => simp [blanksThenColumns] at hs
  | cons b s ih =>
      simp only [blanksThenColumns, Bool.and_eq_true, Bool.or_eq_true] at hs
      rcases hs with ⟨hb, hcolumns | hmore⟩
      · exact ⟨[b], s, rfl, ⟨by simp, by simpa using hb⟩, hcolumns⟩
      · rcases ih hmore with ⟨w, t, rfl, hw, hcolumns⟩
        exact ⟨b :: w, t, rfl, ⟨by simp, List.forall_mem_cons.mpr ⟨hb, hw.2⟩⟩, hcolumns⟩

/-- Where the shape of a query is found, columns can be cut off. -/
theorem exists_cut_of_shapedHere {s : Text} (hshaped : (shapedHere s).isSome = true) :
    ∃ w columns v rest, ProjectionCut s [] w columns v rest := by
  rcases Option.isSome_iff_exists.mp hshaped with ⟨a, ha⟩
  simp only [shapedHere, Option.bind_eq_some_iff, Option.ite_none_right_eq_some] at ha
  rcases ha with ⟨after, hselect, hblanks, -⟩
  rcases exists_of_blanksThenColumns hblanks with ⟨w, t, rfl, hw, hcolumns⟩
  rcases exists_of_columnsThenFrom hcolumns with ⟨columns, v, rest, rfl, hinline, hv⟩
  have hcut := afterWord_eq_some_iff.mp hselect
  exact ⟨w, columns, v, rest, hcut, hw, hv, hinline⟩

/-- Columns are found no later than the shape of the query. -/
theorem leftmost_projection_of_wellFormed {s : Text} (hform : wellFormed s = true) :
    ∃ u t u' t', Leftmost shapedHere s u t ∧ Leftmost projectionHere s u' t' ∧
      projection s = projectionHere t' ∧ u'.length ≤ u.length := by
  rw [wellFormed_eq] at hform
  rcases Option.isSome_iff_exists.mp hform with ⟨a, ha⟩
  rcases exists_leftmost_of_first ha with ⟨u, t, hshape, -⟩
  have hhere : (projectionHere t).isSome = true := by
    rcases exists_cut_of_shapedHere hshape.found with ⟨w, columns, v, rest, hcut⟩
    exact projectionHere_isSome_of_cut hcut
  have hsome : (projection s).isSome = true :=
    first_isSome_iff.mpr ⟨t, ⟨u, hshape.cut.symm⟩, hhere⟩
  rcases Option.isSome_iff_exists.mp hsome with ⟨columns, hcolumns⟩
  rcases exists_leftmost_of_first hcolumns with ⟨u', t', hleftmost, ht'⟩
  exact ⟨u, t, u', t', hshape, hleftmost, hcolumns.trans ht'.symm,
    hleftmost.least u t hshape.cut hhere⟩

/-! ## Conditions of join clauses -/

/-- A comparison is not empty and has no blanks at its ends. -/
theorem trimmed_of_comparison {s condition rest : Text}
    (hfound : comparison s = some (condition, rest)) : condition ≠ [] ∧ Trimmed condition := by
  rcases exists_of_comparison hfound with
    ⟨left, before, operator, after, right, rfl, -, hleft, -, -, -, hright, -⟩
  have hreverse : IsQualified right.reverse := by
    refine ⟨by simpa using hright.1, ?_⟩
    intro c hc
    exact hright.2 c (List.mem_reverse.mp hc)
  refine ⟨by simp [hleft.1], hleft.halts_blank _, ?_⟩
  have hend := hreverse.halts_blank (left ++ (before ++ (operator ++ after))).reverse
  simpa using hend

/-- The conditions of all join clauses are not empty and have no blanks at their ends. -/
theorem condition_of_mem_joins {s : Text} {j : Join} (hj : j ∈ joins s) :
    j.condition ≠ [] ∧ Trimmed j.condition := by
  rcases exists_of_mem_all hj with ⟨t, rest, -, hfound⟩
  rcases exists_of_joinHere hfound with ⟨-, -, after, -, -, -, hcomparison⟩
  exact trimmed_of_comparison hcomparison

end Clause

/-! ## Expressions without products -/

namespace Algebra

open Clause

/-- Somewhere in the expression a table is attached by a product. -/
def hasProduct : Algebra → Bool
  | relation _ => false
  | thetaJoin left _ _ => left.hasProduct
  | product _ _ => true
  | selection _ rows => rows.hasProduct
  | projection _ rows => rows.hasProduct

/-- A join with a comparison is no product. -/
theorem attach_eq_thetaJoin {j : Join} (hj : j.condition ≠ [] ∧ Trimmed j.condition)
    (left : Algebra) : left.attach j = thetaJoin left j.condition j.table := by
  simp [attach, hj.1, hj.2.trim_eq]

/-- Joins with conditions add no product. -/
theorem hasProduct_foldl_attach {joins : List Join}
    (hjoins : ∀ j ∈ joins, j.condition ≠ [] ∧ Trimmed j.condition) (left : Algebra) :
    (joins.foldl attach left).hasProduct = left.hasProduct := by
  induction joins generalizing left with
  | nil => rfl
  | cons j joins ih =>
      rcases List.forall_mem_cons.mp hjoins with ⟨hj, hjoins⟩
      rw [List.foldl_cons, ih hjoins, attach_eq_thetaJoin hj, hasProduct]

/-- Joins with conditions are written one around the other. -/
theorem render_foldl_thetaJoin {joins : List Join}
    (hjoins : ∀ j ∈ joins, j.condition ≠ [] ∧ Trimmed j.condition) (left : Algebra) :
    (joins.foldl attach left).render =
      joins.foldl (fun expression j => "(".toList ++ expression ++ " \\bowtie_\x7b".toList ++
        j.condition ++ "\x7d ".toList ++ j.table ++ ")".toList) left.render := by
  induction joins generalizing left with
  | nil => rfl
  | cons j joins ih =>
      rcases List.forall_mem_cons.mp hjoins with ⟨hj, hjoins⟩
      rw [List.foldl_cons, List.foldl_cons, ih hjoins, attach_eq_thetaJoin hj]
      rfl

/-- The algebra has no product if all joins have a comparison. -/
theorem hasProduct_algebra {p : Query.Parts}
    (hjoins : ∀ j ∈ p.joins, j.condition ≠ [] ∧ Trimmed j.condition) :
    p.algebra.hasProduct = false := by
  have hjoined : p.joined.hasProduct = false := hasProduct_foldl_attach hjoins _
  rw [Query.Parts.algebra, hasProduct, Query.Parts.rows]
  split
  · exact hjoined
  · exact hjoined

end Algebra

/-! ## Unreachable branches -/

namespace Query

open Scan Clause

/-- Validation never fails to find the columns. -/
theorem noProjection_not_mem_faultsOf (schema : Schema) (s : Text) :
    .noProjection ∉ faultsOf schema s := by
  intro hmem
  by_cases hform : wellFormed s = true
  · by_cases hunknown : ∃ table ∈ mentioned s, schema.has table = false
    · rw [faultsOf_of_unknown hform hunknown] at hmem
      simp at hmem
    · by_cases hsome : mentioned s = []
      · simp [faultsOf, outcomeOf_of_noTable hform hsome] at hmem
      · have hknown : ∀ table ∈ mentioned s, schema.has table = true := by
          intro table htable
          by_contra hnot
          exact hunknown ⟨table, htable, by simpa using hnot⟩
        rcases leftmost_projection_of_wellFormed hform with ⟨_, _, _, _, -, hleftmost, hfound, -⟩
        rcases Option.isSome_iff_exists.mp hleftmost.found with ⟨columns, hcolumns⟩
        rw [faultsOf_of_known hform hsome hknown (hfound.trans hcolumns)] at hmem
        simp at hmem
  · simp [faultsOf, outcomeOf_of_malformed (by simpa using hform)] at hmem

/--
Two branches are without effect for every query.  Where the shape of the query is
found, its columns are found too, and no later in the text, so validation never
reports that they cannot be read.  The condition of every join clause is not empty
and has no blanks to trim, so no table is attached by a product, and the expression
has just one join around the source table for each clause.
-/
theorem guards_unreachable (query : Text) :
    (wellFormed (Text.lower query) = true →
      ∃ u t u' t', Leftmost shapedHere (Text.lower query) u t ∧
        Leftmost projectionHere (Text.lower query) u' t' ∧
        projection (Text.lower query) = projectionHere t' ∧ u'.length ≤ u.length) ∧
    (∀ schema, .noProjection ∉ faults schema query) ∧
    (∀ j ∈ joins (Text.lower query),
      j.condition ≠ [] ∧ Text.trim j.condition = j.condition) ∧
    (parts query).algebra.hasProduct = false ∧
    (parts query).joined.render =
      (joins (Text.lower query)).foldl (fun expression j =>
        "(".toList ++ expression ++ " \\bowtie_\x7b".toList ++ j.condition ++ "\x7d ".toList ++
          j.table ++ ")".toList) (parts query).base := by
  have hjoins : ∀ j ∈ (parts query).joins, j.condition ≠ [] ∧ Trimmed j.condition := by
    intro j hj
    exact condition_of_mem_joins hj
  refine ⟨leftmost_projection_of_wellFormed, ?_, ?_, Algebra.hasProduct_algebra hjoins, ?_⟩
  · intro schema
    exact noProjection_not_mem_faultsOf schema (Text.lower query)
  · intro j hj
    rcases condition_of_mem_joins hj with ⟨hne, htrimmed⟩
    exact ⟨hne, htrimmed.trim_eq⟩
  · exact Algebra.render_foldl_thetaJoin hjoins (.relation (parts query).base)

/-- Two queries on two lines; the first one has columns, but not the shape of a query. -/
def twoLines : Text :=
  "SELECT nome FROMAGE\nSELECT status FROM pedido".toList

/-- A query on two lines, whose second line is the one that is read. -/
theorem guards_unreachable_twoLines :
    wellFormed (Text.lower twoLines) = true ∧
      ∃ u t u' t', Leftmost shapedHere (Text.lower twoLines) u t ∧
        Leftmost projectionHere (Text.lower twoLines) u' t' ∧
        projection (Text.lower twoLines) = projectionHere t' ∧ u'.length ≤ u.length := by
  have hform : wellFormed (Text.lower twoLines) = true := by decide +kernel
  exact ⟨hform, (guards_unreachable twoLines).1 hform⟩

end Query
end QueryAlgebra
