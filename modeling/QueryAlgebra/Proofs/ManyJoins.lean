import QueryAlgebra.Proofs.LowerCase
import QueryAlgebra.Proofs.Pieces
import QueryAlgebra.Proofs.Translation
import QueryAlgebra.Workload.Runs

/-!
# Queries with many joins

The generated queries join any number of tables of the shop onto the customers, one after
the other and the tables in turn.  In relational algebra each further table is joined
onto all that comes before it, so the expression for one more table holds the expression
for the tables before.  The number of joins can be read off the result: no two different
numbers give the same expression.

Main results:

- Theorem `foldl_nthJoin`: joining the tables in turn gives the nested joins.
- Theorem `Joining.render_text`: the relational algebra of a query that joins tables in
  turn, whatever its columns and its condition.
- Theorem `lower_manyJoins`: the small form of a generated query.
- Theorem `algebras_of_queries`: the relational algebra of queries with any number of
  joins.
-/

namespace QueryAlgebra
namespace Workload

open Scan Clause Query

/-! ## Tables in turn -/

theorem tableAt_mem (i : Nat) : tableAt i ∈ Schema.shop.tables := by
  have hlt : i % Schema.shop.tables.length < Schema.shop.tables.length :=
    Nat.mod_lt i (by decide)
  rw [tableAt, List.getD_eq_getElem _ _ hlt]
  exact List.getElem_mem hlt

/-- The key of a table with the name of the table before it. -/
def keyText (t : Table) : Text :=
  t.name.toList ++ (['.'] ++ t.key.toList)

/-- The names of tables and keys are what they should be. -/
theorem shop_names : ∀ t ∈ Schema.shop.tables,
    (IsWord t.name.toList ∧ KeywordFree t.name.toList) ∧
      IsQualified (keyText t) ∧ KeywordFree (keyText t) := by
  decide +kernel

/-- The name of a table of the shop. -/
def nthTable (i : Nat) : TableName :=
  ⟨(tableAt i).name.toList, (shop_names _ (tableAt_mem i)).1.1, (shop_names _ (tableAt_mem i)).1.2⟩

/-- The key of a table of the shop as the name of a column. -/
def nthKey (i : Nat) : ColumnName :=
  ⟨keyText (tableAt i), (shop_names _ (tableAt_mem i)).2.1, (shop_names _ (tableAt_mem i)).2.2⟩

/-- The join in a place, counted from zero: the tables after the first one take turns. -/
def nthJoin (i : Nat) : JoinClause where
  before := .space
  afterJoin := .space
  table := nthTable (i + 1)
  beforeOn := .space
  afterOn := .space
  left := nthKey 0
  beforeOperator := ⟨Spacing.space.text, Spacing.space.blanks.2⟩
  operator := ⟨['='], by decide⟩
  afterOperator := ⟨Spacing.space.text, Spacing.space.blanks.2⟩
  right := nthKey (i + 1)

/-- The comparison on which a table is joined. -/
def keysCompared (i : Nat) : Text :=
  keyText (tableAt 0) ++ ([' ', '=', ' '] ++ keyText (tableAt (i + 1)))

/-- A join in turn compares the two keys. -/
@[simp] theorem comparison_nthJoin (i : Nat) : (nthJoin i).comparison = keysCompared i := by
  simp [JoinClause.comparison, nthJoin, nthKey, keysCompared, Spacing.space]

/-- A table joined onto the first one, in small letters. -/
def joinText (i : Nat) : Text :=
  joinWord ++ ([' '] ++ ((tableAt (i + 1)).name.toList ++ ([' '] ++ (onWord ++ ([' '] ++
    keysCompared i)))))

theorem text_nthJoin (i : Nat) : (nthJoin i).text = [' '] ++ joinText i := by
  rw [JoinClause.text, JoinClause.link, comparison_nthJoin]
  rfl

/-! ## Nested joins -/

/-- The first table, joined with a number of tables in turn. -/
def nestedJoins : Nat → Text
  | 0 => (tableAt 0).name.toList
  | i + 1 =>
    "(".toList ++ nestedJoins i ++ " \\bowtie_\x7b".toList ++ keysCompared i ++ "\x7d ".toList ++
      (tableAt (i + 1)).name.toList ++ ")".toList

example : nestedJoins 1 =
    "(cliente \\bowtie_\x7bcliente.idcliente = produto.idproduto\x7d produto)".toList := by
  decide +kernel

/-- A further join nests the earlier ones. -/
theorem attach_nestedJoins (i : Nat) :
    (nthJoin i).attach (nestedJoins i) = nestedJoins (i + 1) := by
  rw [JoinClause.attach, comparison_nthJoin, nestedJoins]
  rfl

/-- Joining the tables in turn gives the nested joins. -/
theorem foldl_nthJoin (k : Nat) :
    ((List.range k).map nthJoin).foldl JoinClause.attach (nthTable 0).text = nestedJoins k := by
  induction k with
  | zero => rfl
  | succ k ih =>
      rw [List.range_succ, List.map_append, List.foldl_append, ih, List.map_singleton,
        List.foldl_cons, List.foldl_nil, attach_nestedJoins]

/-- Every further join makes the expression longer. -/
theorem length_nestedJoins_lt (k : Nat) :
    (nestedJoins k).length < (nestedJoins (k + 1)).length := by
  have hbracket : 0 < "(".toList.length := by decide
  rw [nestedJoins]
  simp only [List.length_append]
  omega

/-- The number of joins can be read off the expression. -/
theorem nestedJoins_injective : Function.Injective nestedJoins := by
  intro k l heq
  have hmono : StrictMono fun k => (nestedJoins k).length :=
    strictMono_nat_of_lt_succ length_nestedJoins_lt
  exact hmono.injective (congrArg List.length heq)

/-- The parts of a query that joins tables in turn, as relational algebra. -/
theorem render_inTurn (columns : Text) {condition : Text} (hcondition : condition ≠ [])
    (k : Nat) :
    (Parts.mk columns (nthTable 0).text
      (((List.range k).map nthJoin).map fun j => ⟨j.table.text, j.comparison⟩)
      condition).algebra.render =
      "\\pi_\x7b".toList ++ columns ++ "\x7d(\\sigma_\x7b".toList ++ condition ++
        "\x7d(".toList ++ nestedJoins k ++ "))".toList := by
  have hjoined := render_foldl_attach ((List.range k).map nthJoin) (.relation (nthTable 0).text)
  rw [Algebra.render, foldl_nthJoin] at hjoined
  have hsome : condition.isEmpty = false := List.isEmpty_eq_false_iff.mpr hcondition
  rw [Parts.algebra, Parts.rows, Parts.joined, if_neg (by simp [hsome])]
  simp only [Algebra.render, hjoined]
  simp [Algebra.projectionMark, Algebra.selectionMark]

/-! ## Queries that join tables in turn -/

/-- A number of joins, with a space between them. -/
def joinsText (k : Nat) : Text :=
  Text.join [' '] ((List.range k).map joinText)

/-- The parts of a query that joins tables in turn, apart from the number of joins. -/
structure Joining where
  columns : Text
  ne_nil : columns ≠ []
  inline : ∀ c ∈ columns, c ≠ '\n'
  trimmed : Trimmed columns
  keywordFree : KeywordFree columns
  condition : Text
  condition_ne_nil : condition ≠ []
  condition_trimmed : Trimmed condition
  /-- The condition with its keyword, and what may follow it. -/
  closing : Text
  lacksJoin : Lacks joinWord closing
  condition_closing : Clause.condition closing = some condition

namespace Joining

variable (q : Joining)

/-- The query up to the joins, in small letters. -/
def opening : Text :=
  selectWord ++ ([' '] ++ (q.columns ++ ([' '] ++ (fromWord ++ ([' '] ++ ((tableAt 0).name.toList ++
    [' ']))))))

/-- The query with a number of joins, in small letters. -/
def text (k : Nat) : Text :=
  q.opening ++ (joinsText k ++ ([' '] ++ q.closing))

/-- What stands between the joins and the closing.  Without joins their two spaces meet. -/
def gap (k : Nat) : Text :=
  if k = 0 then [' ', ' '] else [' ']

theorem blanks_gap (k : Nat) : Blanks (gap k) := by
  unfold gap
  split <;> decide

/-- The outline of the query with a number of joins. -/
def outline (k : Nat) : Outline where
  afterSelect := .space
  columns := q.columns
  keywordFree := q.keywordFree
  beforeFrom := .space
  afterFrom := .space
  table := nthTable 0
  joins := (List.range k).map nthJoin
  closing := gap k ++ q.closing
  separated := separated_append (blanks_gap k) q.closing
  lacksJoin := lacks_spacer_append isWord_joinWord (spacer_of_blanks (blanks_gap k)) q.lacksJoin

/-- A space before joined texts and one between them are one before each. -/
theorem space_append_join (first : Text) (more : List Text) :
    [' '] ++ Text.join [' '] (first :: more) = (first :: more).flatMap ([' '] ++ ·) := by
  induction more generalizing first with
  | nil => simp [Text.join]
  | cons next more ih =>
      rw [Text.join_cons_cons, ih, List.flatMap_cons (x := first), List.append_assoc]

/-- The texts of the joins in turn, with a space in front. -/
theorem space_append_joinsText (k : Nat) :
    [' '] ++ joinsText (k + 1) = ((List.range (k + 1)).map nthJoin).flatMap JoinClause.text := by
  have hjoins : ((List.range (k + 1)).map nthJoin).flatMap JoinClause.text =
      ((List.range (k + 1)).map joinText).flatMap ([' '] ++ ·) := by
    simp only [List.flatMap_map, text_nthJoin]
  rw [hjoins, joinsText, List.range_succ_eq_map, List.map_cons, space_append_join]

/-- The outline of the query has its text. -/
theorem text_outline (k : Nat) : (q.outline k).text = q.text k := by
  have hhead : (q.outline k).head ++ [' '] = q.opening := by
    simp [Outline.head, Outline.opening, outline, opening, Spacing.space, nthTable]
  rw [text, ← hhead, Outline.text, List.append_assoc]
  congr 1
  cases k with
  | zero => rfl
  | succ k =>
      have hjoins := space_append_joinsText k
      rw [outline, ← hjoins, List.append_assoc]
      rfl

/-- The parts that are read from the query are its own. -/
theorem parts_text (k : Nat) :
    Parts.ofText (q.text k) =
      { columns := q.columns
        base := (nthTable 0).text
        joins := ((List.range k).map nthJoin).map fun j => ⟨j.table.text, j.comparison⟩
        condition := q.condition } := by
  have hprojection : Clause.projection (q.text k) = some q.columns := by
    have hread := projection_append (t := [' '] ++ ((tableAt 0).name.toList ++ ([' '] ++
        (joinsText k ++ ([' '] ++ q.closing)))))
      Spacing.space.blanks Spacing.space.blanks q.trimmed q.ne_nil q.inline
      (q.keywordFree fromWord (by simp [keywords]))
    simpa [text, opening, Spacing.space] using hread
  have hsource := (q.outline k).source_text
  have hjoins := (q.outline k).joins_text
  have hcondition : Clause.condition (q.outline k).text = some q.condition := by
    have hblanks := spacer_of_blanks (blanks_gap k)
    rw [(q.outline k).condition_text, ← q.condition_closing]
    exact first_append_of_lacks (awaits_between whereWord conditionEnds)
      (hblanks.lacks isWord_whereWord) (cut_of_spacer isWord_whereWord hblanks)
  rw [q.text_outline k] at hsource hjoins hcondition
  rw [Parts.ofText, hprojection, hsource, hjoins, hcondition, Option.map_some, Option.map_some,
    q.trimmed.trim_eq, q.condition_trimmed.trim_eq]
  rfl

/-- The relational algebra of the query: its joins, then its condition, then its columns. -/
theorem render_text (k : Nat) :
    (Parts.ofText (q.text k)).algebra.render =
      "\\pi_\x7b".toList ++ q.columns ++ "\x7d(\\sigma_\x7b".toList ++ q.condition ++
        "\x7d(".toList ++ nestedJoins k ++ "))".toList := by
  rw [q.parts_text k]
  exact render_inTurn q.columns q.condition_ne_nil k

end Joining

/-! ## The generated query -/

/-- The customers with large numbers, joined with tables in turn. -/
def largeCustomers : Joining where
  columns := "idcliente, nome, email, telefone, endereco".toList
  ne_nil := by decide +kernel
  inline := by decide +kernel
  trimmed := by decide +kernel
  keywordFree := by decide +kernel
  condition := "cliente.idcliente > 10".toList
  condition_ne_nil := by decide +kernel
  condition_trimmed := by decide +kernel
  closing := "where cliente.idcliente > 10 order by idcliente".toList
  lacksJoin := by decide +kernel
  condition_closing := by decide +kernel

/-- What stands before the joins in the generated query. -/
def manyJoinsOpening : Text :=
  "SELECT ".toList ++ listed base.columns ++ " FROM ".toList ++ base.name.toList ++ [' ']

/-- What stands behind the joins in the generated query. -/
def manyJoinsClosing : Text :=
  " WHERE ".toList ++ (base.name.toList ++ (['.'] ++ (base.key.toList ++
    (" > 10 ORDER BY ".toList ++ base.key.toList))))

/-- The query from its opening to its closing. -/
theorem manyJoins_eq (n : Int) :
    manyJoins n = manyJoinsOpening ++ (joinClauses n ++ manyJoinsClosing) := by
  have hregroup : ∀ opening joins a b c d e f : Text,
      opening ++ joins ++ a ++ b ++ c ++ d ++ e ++ f =
        opening ++ (joins ++ (a ++ (b ++ (c ++ (d ++ (e ++ f)))))) := by
    simp
  exact hregroup _ _ _ _ _ _ _ _

/-- The clause that joins a table is made of ASCII characters, and these are its small form. -/
theorem lower_clauses : ∀ t ∈ Schema.shop.tables,
    (∀ c ∈ "JOIN ".toList ++ t.name.toList ++ " ON ".toList ++ base.name.toList ++ ['.'] ++
        base.key.toList ++ " = ".toList ++ t.name.toList ++ ['.'] ++ t.key.toList,
      c.toNat < 0x80) ∧
    ("JOIN ".toList ++ t.name.toList ++ " ON ".toList ++ base.name.toList ++ ['.'] ++
        base.key.toList ++ " = ".toList ++ t.name.toList ++ ['.'] ++ t.key.toList).map
        Char.toLower =
      joinWord ++ ([' '] ++ (t.name.toList ++ ([' '] ++ (onWord ++ ([' '] ++
        (keyText (tableAt 0) ++ ([' ', '=', ' '] ++ keyText t))))))) := by
  decide +kernel

theorem ascii_joinClause (i : Nat) : ∀ c ∈ joinClause i, c.toNat < 0x80 :=
  (lower_clauses _ (tableAt_mem (i + 1))).1

theorem lower_joinClause (i : Nat) : (joinClause i).map Char.toLower = joinText i :=
  (lower_clauses _ (tableAt_mem (i + 1))).2

/-- The join clauses in small letters. -/
theorem lower_joinClauses (n : Int) : (joinClauses n).map Char.toLower = joinsText n.toNat := by
  have hclauses : (List.range n.toNat).map ((fun text => text.map Char.toLower) ∘ joinClause) =
      (List.range n.toNat).map joinText := by
    apply List.map_congr_left
    intro i _
    exact lower_joinClause i
  have hspace : [' '].map Char.toLower = [' '] := by decide
  rw [joinClauses, Text.map_join, List.map_map, hclauses, hspace, joinsText]

theorem ascii_manyJoins (n : Int) : ∀ c ∈ manyJoins n, c.toNat < 0x80 := by
  have hopening : ∀ c ∈ manyJoinsOpening, c.toNat < 0x80 := by decide +kernel
  have hclosing : ∀ c ∈ manyJoinsClosing, c.toNat < 0x80 := by decide +kernel
  intro c hc
  rw [manyJoins_eq, List.mem_append, List.mem_append] at hc
  rcases hc with hc | hc | hc
  · exact hopening c hc
  · rcases Text.mem_join hc with hspace | ⟨text, htext, hmem⟩
    · rw [List.mem_singleton.mp hspace]
      decide
    · rcases List.mem_map.mp htext with ⟨i, -, rfl⟩
      exact ascii_joinClause i c hmem
  · exact hclosing c hc

/-- The small form of a generated query; without joins two spaces stand before its condition. -/
theorem lower_manyJoins (n : Int) : Text.lower (manyJoins n) = largeCustomers.text n.toNat := by
  have hopening : manyJoinsOpening.map Char.toLower = largeCustomers.opening := by decide +kernel
  have hclosing : manyJoinsClosing.map Char.toLower = [' '] ++ largeCustomers.closing := by
    decide +kernel
  rw [LowerCase.lower_of_ascii (ascii_manyJoins n), manyJoins_eq, List.map_append,
    List.map_append, hopening, lower_joinClauses, hclosing, Joining.text]

/-! ## Results for any number of joins -/

/-- The relational algebra of the customers with large numbers, joined with tables in turn. -/
def largeCustomersAlgebra (k : Nat) : Text :=
  "\\pi_\x7bidcliente, nome, email, telefone, endereco\x7d(\\sigma_\x7bcliente.".toList ++
    "idcliente > 10\x7d(".toList ++ nestedJoins k ++ "))".toList

/-- The algebra of the query nests its joins. -/
theorem render_largeCustomers (k : Nat) :
    (Parts.ofText (largeCustomers.text k)).algebra.render = largeCustomersAlgebra k := by
  have hopening : "\\pi_\x7b".toList ++ largeCustomers.columns ++ "\x7d(\\sigma_\x7b".toList ++
      largeCustomers.condition ++ "\x7d(".toList =
        "\\pi_\x7bidcliente, nome, email, telefone, endereco\x7d(\\sigma_\x7bcliente.".toList ++
          "idcliente > 10\x7d(".toList := by
    decide +kernel
  rw [largeCustomers.render_text]
  exact congrArg (fun opening => opening ++ nestedJoins k ++ "))".toList) hopening

/-- The number of joins can be read off the relational algebra. -/
theorem largeCustomersAlgebra_injective : Function.Injective largeCustomersAlgebra := by
  intro k l heq
  exact nestedJoins_injective (List.append_cancel_left (List.append_cancel_right heq))

/-- The relational algebra of a query depends on its small form only. -/
theorem algebraText_of_lower {query s : Text} (hlower : Text.lower query = s) :
    algebraText query = (Parts.ofText s).algebra.render := by
  rw [algebraText, parts, hlower]

/-- The relational algebra of a generated query. -/
theorem algebraText_manyJoins (n : Int) :
    algebraText (manyJoins n) = largeCustomersAlgebra n.toNat := by
  rw [algebraText_of_lower (lower_manyJoins n), render_largeCustomers]

/-- The customers with all columns, asked for or only named. -/
theorem render_allCustomers :
    ["select * from cliente".toList, "from cliente".toList].map
      (fun s => (Parts.ofText s).algebra.render) =
        ["\\pi_\x7b*\x7d(cliente)".toList, "\\pi_\x7b*\x7d(cliente)".toList] := by
  decide +kernel

/-- The results of the generated queries: the nested joins, and twice all customers. -/
theorem algebras_eq (n : Int) :
    algebras n = [largeCustomersAlgebra n.toNat, "\\pi_\x7b*\x7d(cliente)".toList,
      "\\pi_\x7b*\x7d(cliente)".toList] := by
  have hplain : [algebraText "FROM cliente".toList, algebraText "SELECT * FROM cliente".toList] =
      ["\\pi_\x7b*\x7d(cliente)".toList, "\\pi_\x7b*\x7d(cliente)".toList] := by
    decide +kernel
  rw [algebras, algebraText_manyJoins, hplain]

/-- The results of queries whose small forms are known. -/
theorem map_algebraText_of_lower {queries : List Text} {k : Nat}
    (hqueries : queries.map Text.lower =
      [largeCustomers.text k, "select * from cliente".toList, "from cliente".toList]) :
    queries.map algebraText =
      [largeCustomersAlgebra k, "\\pi_\x7b*\x7d(cliente)".toList,
        "\\pi_\x7b*\x7d(cliente)".toList] := by
  have hlower : queries.map algebraText =
      (queries.map Text.lower).map fun s => (Parts.ofText s).algebra.render := by
    rw [List.map_map]
    rfl
  rw [hlower, hqueries, List.map_cons, render_allCustomers, render_largeCustomers]

/-- Results that start with the nested joins are the same only for the same number of joins. -/
theorem eq_iff_of_results {results : Int → List Text} {more : List Text}
    (hresults : ∀ n : Int, results n = largeCustomersAlgebra n.toNat :: more) (m n : Int) :
    results m = results n ↔ m.toNat = n.toNat := by
  rw [hresults, hresults, List.cons.injEq, largeCustomersAlgebra_injective.eq_iff]
  exact and_iff_left rfl

/--
The relational algebra of queries with any number of joins.  For every size the generated
queries give the nested joins under the condition and the columns, and twice all columns of
the customers; a negative size counts as zero, and two sizes give the same results only if
they count as the same.  The same holds for all queries that are given for every size, in
any case: one that joins that number of tables in turn onto the customers, one for all
columns of the customers, and one that only names them.
-/
theorem algebras_of_queries :
    (∀ n, algebras n =
      [largeCustomersAlgebra n.toNat, "\\pi_\x7b*\x7d(cliente)".toList,
        "\\pi_\x7b*\x7d(cliente)".toList]) ∧
      (∀ m n, algebras m = algebras n ↔ m.toNat = n.toNat) ∧
      ∀ queries : Int → List Text,
        (∀ n, (queries n).map Text.lower =
          [largeCustomers.text n.toNat, "select * from cliente".toList,
            "from cliente".toList]) →
        (∀ n, (queries n).map algebraText =
          [largeCustomersAlgebra n.toNat, "\\pi_\x7b*\x7d(cliente)".toList,
            "\\pi_\x7b*\x7d(cliente)".toList]) ∧
          ∀ m n, (queries m).map algebraText = (queries n).map algebraText ↔
            m.toNat = n.toNat := by
  refine ⟨algebras_eq, eq_iff_of_results algebras_eq, ?_⟩
  intro queries hqueries
  have hresults := fun n => map_algebraText_of_lower (hqueries n)
  exact ⟨hresults, eq_iff_of_results hresults⟩

/-- One such choice: the generated queries, and the two plain ones in capitals. -/
theorem algebras_manyJoins :
    (∀ n, [manyJoins n, "SELECT * FROM cliente".toList, "FROM cliente".toList].map Text.lower =
      [largeCustomers.text n.toNat, "select * from cliente".toList, "from cliente".toList]) ∧
      ∀ m n, [manyJoins m, "SELECT * FROM cliente".toList, "FROM cliente".toList].map algebraText =
        [manyJoins n, "SELECT * FROM cliente".toList, "FROM cliente".toList].map algebraText ↔
          m.toNat = n.toNat := by
  have hplain : ["SELECT * FROM cliente".toList, "FROM cliente".toList].map Text.lower =
      ["select * from cliente".toList, "from cliente".toList] := by
    decide +kernel
  have hqueries : ∀ n,
      [manyJoins n, "SELECT * FROM cliente".toList, "FROM cliente".toList].map Text.lower =
        [largeCustomers.text n.toNat, "select * from cliente".toList, "from cliente".toList] := by
    intro n
    rw [List.map_cons, hplain, lower_manyJoins]
  exact ⟨hqueries, (algebras_of_queries.2.2
    (fun n => [manyJoins n, "SELECT * FROM cliente".toList, "FROM cliente".toList]) hqueries).2⟩

end Workload
end QueryAlgebra
