import QueryAlgebra.Proofs.Statement

/-!
# Translation of statements

The relational algebra of a statement is written out by a definition of its own,
which follows the parts of the statement and knows nothing of searching a text.
The translation of every query whose small form is the text of a readable
statement is that writing: the four searches each land on their own clause.

Main results:

- Theorem `Statement.parts_text`: the parts read from a statement are its own.
- Theorem `render_foldl_attach`: joining tables one by one writes the joins from
  the inside out.
- Theorem `algebraText_eq_algebra`: translating a query writes the algebra of its
  statement.
-/

namespace QueryAlgebra
namespace Query

open Scan Clause

/-! ## The algebra of a statement as a text -/

/-- An expression joined with a further table on a comparison. -/
def JoinClause.attach (expression : Text) (j : JoinClause) : Text :=
  "(".toList ++ expression ++ " \\bowtie_\x7b".toList ++ j.comparison ++ "\x7d ".toList ++
    j.table.text ++ ")".toList

/-- The source table of a statement joined with its further tables from left to right. -/
def Statement.joined (st : Statement) : Text :=
  st.joins.foldl JoinClause.attach st.table.text

/-- The relational algebra of a statement: its joins, then its condition, then its columns. -/
def Statement.algebra (st : Statement) : Text :=
  match st.condition with
  | some c =>
    "\\pi_\x7b".toList ++ st.columns.text ++ "\x7d(\\sigma_\x7b".toList ++ c.condition ++
      "\x7d(".toList ++ st.joined ++ "))".toList
  | none => "\\pi_\x7b".toList ++ st.columns.text ++ "\x7d(".toList ++ st.joined ++ ")".toList

/-! ## Reading the parts -/

/-- A comparison has no blank at its ends. -/
theorem JoinClause.comparison_trimmed (j : JoinClause) : Trimmed j.comparison := by
  constructor
  · have hleft := j.left.isQualified.halts_blank (j.beforeOperator.text ++ j.operator.text ++
      j.afterOperator.text ++ j.right.text)
    simpa [comparison] using hleft
  · have hright : IsQualified j.right.text.reverse := by
      refine ⟨by simpa using j.right.isQualified.1, ?_⟩
      intro c hc
      exact j.right.isQualified.2 c (List.mem_reverse.mp hc)
    have hend := hright.halts_blank (j.left.text ++ j.beforeOperator.text ++ j.operator.text ++
      j.afterOperator.text).reverse
    simpa [comparison] using hend

/-- A comparison is never empty. -/
@[simp] theorem JoinClause.comparison_ne_nil (j : JoinClause) : j.comparison ≠ [] := by
  simp [comparison, j.left.isQualified.1]

/-- The parts that are read from a written statement are its own. -/
theorem Statement.parts_text (st : Statement) (hreadable : st.Readable) :
    Parts.ofText st.text =
      { columns := st.columns.text
        base := st.table.text
        joins := st.joins.map fun j => ⟨j.table.text, j.comparison⟩
        condition := st.condition.elim [] ConditionClause.condition } := by
  have hcondition : ((Clause.condition st.text).map Text.trim).getD [] =
      st.condition.elim [] ConditionClause.condition := by
    rw [st.condition_text hreadable]
    cases hsome : st.condition with
    | none => rfl
    | some c =>
        have htrim := (hreadable.condition c hsome).2.2.1.trim_eq
        simpa using htrim
  simp [Parts.ofText, st.projection_text, st.source_text, st.joins_text, hcondition,
    st.columns.text_trimmed.trim_eq]

/-! ## Writing the expression -/

/-- A join on a comparison is written around the expression that is joined. -/
theorem render_attach (left : Algebra) (j : JoinClause) :
    (left.attach ⟨j.table.text, j.comparison⟩).render = j.attach left.render := by
  simp [Algebra.attach, j.comparison_trimmed.trim_eq, Algebra.render, JoinClause.attach,
    Algebra.joinMark]

/-- Joining tables one by one writes the joins from the inside out. -/
theorem render_foldl_attach (joins : List JoinClause) (left : Algebra) :
    ((joins.map fun j => ⟨j.table.text, j.comparison⟩).foldl Algebra.attach left).render =
      joins.foldl JoinClause.attach left.render := by
  induction joins generalizing left with
  | nil => rfl
  | cons j joins ih =>
      rw [List.map_cons, List.foldl_cons, List.foldl_cons, ih, render_attach]

/-- Translating a query writes the algebra of its statement, whatever its layout. -/
theorem algebraText_eq_algebra (st : Statement) (hreadable : st.Readable) (query : Text)
    (hquery : Text.lower query = st.text) : algebraText query = st.algebra := by
  have hjoined := render_foldl_attach st.joins (.relation st.table.text)
  rw [algebraText, parts, hquery, st.parts_text hreadable, Statement.algebra]
  cases hcondition : st.condition with
  | none =>
      simp [Parts.algebra, Parts.rows, Parts.joined, Algebra.render, hjoined, Statement.joined,
        Algebra.projectionMark]
  | some c =>
      have hne := (hreadable.condition c hcondition).1
      simp [Parts.algebra, Parts.rows, Parts.joined, Algebra.render, hjoined, Statement.joined,
        Algebra.projectionMark, Algebra.selectionMark, hne]

/-- The algebra of the orders of customers, typed with other letters. -/
theorem algebraText_customerOrders :
    Text.lower Statement.customerOrdersTyped = Statement.customerOrders.text ∧
    algebraText Statement.customerOrdersTyped =
      "\\pi_\x7bnome, pedido.status\x7d(\\sigma_\x7bstatus <> 'novo'\x7d((cliente ".toList ++
        "\\bowtie_\x7bcliente.idcliente =pedido.idcliente\x7d pedido)))".toList := by
  refine ⟨Statement.lower_customerOrdersTyped, ?_⟩
  rw [algebraText_eq_algebra _ Statement.customerOrders_readable _
    Statement.lower_customerOrdersTyped]
  decide +kernel

end Query
end QueryAlgebra
