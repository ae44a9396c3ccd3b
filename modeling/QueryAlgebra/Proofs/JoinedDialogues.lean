import QueryAlgebra.Proofs.ProjectedColumns

/-!
# Dialogues about joined tables

A query joins tables of the shop in turn and projects columns of the shop in turn.  It is
valid as long as the columns do not run ahead of the tables: the columns of the first two
tables are there from the first join on, and with five joins all tables of the shop are.
The number of columns grows half as fast as the number of joins, from eight columns on, so
it never leaves the first two tables before the joins have reached them all.

Main results:

- Theorem `algebraText_of_joinsInTurn`: the relational algebra of such a query in any layout.
- Theorem `exists_table_in_turn`: when a column has its table among the joined ones.
- Theorem `dialogues_of_size`: what is answered for any number of joins, and for two
  columns that the customers have not.
-/

namespace QueryAlgebra
namespace Workload

open Scan Clause Query

/-! ## Tables in turn and columns in turn -/

/-- The names of the first table and of a number of tables after it. -/
def namesInTurn (k : Nat) : List String :=
  (List.range (k + 1)).map fun i => (tableAt i).name

/-- The tables that are joined in turn are mentioned. -/
theorem tableAt_mem_namesInTurn {i k : Nat} (hik : i ≤ k) : (tableAt i).name ∈ namesInTurn k :=
  List.mem_map.mpr ⟨i, List.mem_range.mpr (Nat.lt_succ_of_le hik), rfl⟩

/-- Joined tables are tables of the shop. -/
theorem has_of_mem_namesInTurn {k : Nat} {table : String} (htable : table ∈ namesInTurn k) :
    Schema.shop.has table = true := by
  have hhas : ∀ t ∈ Schema.shop.tables, Schema.shop.has t.name = true := by decide +kernel
  rcases List.mem_map.mp htable with ⟨i, -, rfl⟩
  exact hhas _ (tableAt_mem i)

/-- After five joins every table of the shop has had its turn. -/
theorem mem_namesInTurn_of_five_le {k : Nat} (hk : 5 ≤ k) {t : Table}
    (ht : t ∈ Schema.shop.tables) : t.name ∈ namesInTurn k := by
  have hturns : ∀ t ∈ Schema.shop.tables, ∃ i ≤ 5, tableAt i = t := by decide +kernel
  rcases hturns t ht with ⟨i, hi, rfl⟩
  exact tableAt_mem_namesInTurn (Nat.le_trans hi hk)

/--
A column has its table among the joined ones, if it is one of the first ten and there is a
join, or if there are five joins.
-/
theorem exists_table_in_turn {i k : Nat} (hreached : i < 10 ∧ 1 ≤ k ∨ 5 ≤ k) :
    ∃ table ∈ namesInTurn k,
      Schema.shop.hasColumn table (unqualified (columnAt i)) = true := by
  rcases hreached with ⟨hi, hk⟩ | hk
  · have hfirst : ∀ i < 10, ∃ j ≤ 1,
        Schema.shop.hasColumn (tableAt j).name (unqualified (columnAt i)) = true := by
      decide +kernel
    rcases hfirst i hi with ⟨j, hj, hcolumn⟩
    exact ⟨_, tableAt_mem_namesInTurn (Nat.le_trans hj hk), hcolumn⟩
  · rcases exists_table_of_column _ (columnAt_mem i) with ⟨t, ht, hcolumn⟩
    exact ⟨t.name, mem_namesInTurn_of_five_le hk ht, hcolumn⟩

/-! ## Statements that join tables in turn -/

/-- A statement for columns of tables that are joined in turn by their keys, under a condition. -/
structure InTurn (st : Statement) (columns : List String) (condition : Text) (k : Nat) :
    Prop where
  readable : st.Readable
  spaced : Spaced st.columns
  columns_eq : st.columns.items.map Item.text = columns.map String.toList
  table_eq : st.table.text = base.name.toList
  joins_eq : st.joins.map (fun j => (j.table.text, j.comparison)) =
    (List.range k).map fun i => ((tableAt (i + 1)).name.toList, keysCompared i)
  condition_eq : st.condition.map ConditionClause.condition = some condition

/-- A query of that kind, in any case and layout. -/
def JoinsInTurn (query : Text) (columns : List String) (condition : Text) (k : Nat) : Prop :=
  ∃ st : Statement, Text.lower query = st.text ∧ InTurn st columns condition k

section Statements

variable {st : Statement} {query : Text} {columns : List String} {condition : Text} {k : Nat}

/-- The tables of a statement that joins in turn. -/
theorem InTurn.tableNames_eq (hst : InTurn st columns condition k) :
    st.tableNames = namesInTurn k := by
  have hjoined : st.joins.map (fun j => j.table.text) =
      (List.range k).map fun i => (tableAt (i + 1)).name.toList := by
    have hfirst := congrArg (List.map Prod.fst) hst.joins_eq
    rwa [List.map_map, List.map_map] at hfirst
  rw [Statement.tableNames, hst.table_eq, hjoined, namesInTurn, List.range_succ_eq_map,
    List.map_cons, List.map_cons, List.map_map, List.map_map]
  simp [base, Function.comp_def]

/-- A query that joins in turn projects its columns. -/
theorem projects_of_joinsInTurn (hquery : JoinsInTurn query columns condition k) :
    Projects query (namesInTurn k) columns := by
  rcases hquery with ⟨st, hlower, hst⟩
  refine ⟨st, hlower, ?_, hst.columns_eq⟩
  intro table
  rw [hst.tableNames_eq]

/-- The parts of a statement that joins in turn are read from it. -/
theorem InTurn.parts_text (hst : InTurn st columns condition k) :
    Parts.ofText st.text =
      { columns := listed columns
        base := (nthTable 0).text
        joins := ((List.range k).map nthJoin).map fun j => ⟨j.table.text, j.comparison⟩
        condition := condition } := by
  have hcolumns : st.columns.text = listed columns := by
    rw [text_of_spaced hst.spaced, hst.columns_eq, listed]
  have hjoins : (st.joins.map fun j => (⟨j.table.text, j.comparison⟩ : Join)) =
      ((List.range k).map nthJoin).map fun j => ⟨j.table.text, j.comparison⟩ := by
    have hpairs := congrArg (List.map fun pair : Text × Text => (⟨pair.1, pair.2⟩ : Join))
      hst.joins_eq
    rw [List.map_map, List.map_map] at hpairs
    rw [List.map_map]
    refine hpairs.trans (List.map_congr_left ?_)
    intro i _
    simp only [Function.comp_apply, comparison_nthJoin]
    rfl
  have hcondition : st.condition.elim [] ConditionClause.condition = condition := by
    rcases Option.map_eq_some_iff.mp hst.condition_eq with ⟨c, hc, rfl⟩
    rw [hc, Option.elim_some]
  rw [st.parts_text hst.readable, hcolumns, hst.table_eq, hjoins, hcondition]
  rfl

/-- The relational algebra of a query that joins tables in turn, whatever its layout. -/
theorem algebraText_of_joinsInTurn (hquery : JoinsInTurn query columns condition k) :
    algebraText query =
      "\\pi_\x7b".toList ++ listed columns ++ "\x7d(\\sigma_\x7b".toList ++ condition ++
        "\x7d(".toList ++ nestedJoins k ++ "))".toList := by
  rcases hquery with ⟨st, hlower, hst⟩
  have hne : condition ≠ [] := by
    rcases Option.map_eq_some_iff.mp hst.condition_eq with ⟨c, hc, rfl⟩
    exact (hst.readable.condition c hc).1
  rw [algebraText, parts, hlower, hst.parts_text]
  exact render_inTurn _ hne k

end Statements

/-! ## Outcomes for any number of joins -/

/-- A dialogue gives the outcome of the check, and the relational algebra if the query passes. -/
theorem dialogue_eq (query : Text) :
    dialogue query =
      (outcome query, if (outcome query).valid then some (algebraText query) else none) :=
  rfl

/-- A dialogue about a valid query gives its relational algebra. -/
theorem dialogue_of_valid {query : Text} {messages : List String}
    (houtcome : outcome query = ⟨true, messages⟩) :
    dialogue query = (⟨true, messages⟩, some (algebraText query)) := by
  simp [dialogue_eq, houtcome]

/-- A dialogue about a refused query gives the messages alone. -/
theorem dialogue_of_invalid {query : Text} {messages : List String}
    (houtcome : outcome query = ⟨false, messages⟩) :
    dialogue query = (⟨false, messages⟩, none) := by
  simp [dialogue_eq, houtcome]

/-- From the first join on, the columns never run ahead of the tables. -/
theorem outcome_of_joinsInTurn {query condition : Text} {n : Int} (hn : 1 ≤ n)
    (hquery : JoinsInTurn query (firstColumns (max 8 (n / 2))) condition n.toNat) :
    outcome query = ⟨true, []⟩ := by
  have hprojects := projects_of_joinsInTurn hquery
  rw [← List.append_nil (firstColumns _)] at hprojects
  refine outcome_of_projects hprojects (fun _ => has_of_mem_namesInTurn) ?_ (by simp)
  intro name hname
  rcases List.mem_map.mp hname with ⟨i, hi, rfl⟩
  rw [List.mem_range] at hi
  -- More than ten columns need twenty joins, and five joins bring in all tables.
  rcases exists_table_in_turn (i := i) (k := n.toNat) (by omega) with ⟨table, htable, hcolumn⟩
  exact not_unfound_of_hasColumn htable hcolumn

/-- Without joins the last three of eight columns belong to no table of the query. -/
theorem outcome_without_joins {query condition : Text} {n : Int} (hn : n ≤ 0)
    (hquery : JoinsInTurn query (firstColumns (max 8 (n / 2))) condition n.toNat) :
    outcome query =
      ⟨false, columnMessages ["cliente"] ["idproduto", "nomeproduto", "descricao"]⟩ := by
  have hcolumns : firstColumns (max 8 (n / 2)) = firstColumns 5 ++
      ["produto.idproduto", "produto.nomeproduto", "produto.descricao"] := by
    rw [show max 8 (n / 2) = 8 by omega]
    decide +kernel
  have hprojects := projects_of_joinsInTurn hquery
  rw [hcolumns, show n.toNat = 0 by omega] at hprojects
  rw [outcome_of_projects hprojects (fun _ => has_of_mem_namesInTurn) (by decide +kernel)
    (by decide +kernel)]
  decide +kernel

/-- The two false columns are the faults of the query that asks for them. -/
theorem outcome_of_falseColumns {query : Text}
    (hquery : Projects query ["cliente"] ["falsacoluna", "outra"]) :
    outcome query = ⟨false, columnMessages ["cliente"] ["falsacoluna", "outra"]⟩ := by
  rw [← List.nil_append ["falsacoluna", "outra"]] at hquery
  rw [outcome_of_projects hquery (by decide +kernel) (by simp) (by decide +kernel)]
  decide +kernel

/-! ## The generated queries -/

/-- The condition that the number of a customer is positive. -/
def positiveCustomer : Text :=
  "cliente.idcliente > 0".toList

theorem positiveCustomer_readable : positiveCustomer ≠ [] ∧ (∀ c ∈ positiveCustomer, c ≠ '\n') ∧
    Trimmed positiveCustomer ∧ LacksLater positiveCustomer := by
  refine ⟨by decide +kernel, by decide +kernel, by decide +kernel, ?_⟩
  exact lacksLater_of_not_mem (by decide +kernel)

/-- The order of the generated query: by the numbers of the customers. -/
def byCustomer : LaterClause where
  before := .space
  word := orderWord
  opens := opensLater_orderWord
  between := .space
  tail := " idcliente".toList
  lacksJoin := by decide +kernel

/-- The statement behind the generated query; without joins two spaces precede its condition. -/
def joinedStatement (columns : Columns) (k : Nat) : Statement where
  afterSelect := .space
  columns := columns
  beforeFrom := .space
  afterFrom := .space
  table := nthTable 0
  joins := (List.range k).map nthJoin
  condition := some
    { before := ⟨Joining.gap k, Joining.blanks_gap k⟩
      after := .space
      condition := positiveCustomer
      lacksJoin := by decide +kernel }
  later := some byCustomer

/-- The joined statement joins in turn. -/
theorem inTurn_joinedStatement {columns : Columns} {names : List String}
    (hspaced : Spaced columns)
    (hnames : columns.items.map Item.text = names.map String.toList) (k : Nat) :
    InTurn (joinedStatement columns k) names positiveCustomer k where
  readable :=
    { condition := by
        intro c hc
        cases hc
        exact positiveCustomer_readable
      noCondition := by
        intro hc
        contradiction }
  spaced := hspaced
  columns_eq := hnames
  table_eq := rfl
  joins_eq := by
    rw [joinedStatement, List.map_map]
    apply List.map_congr_left
    intro i _
    simp only [Function.comp_apply, comparison_nthJoin]
    rfl
  condition_eq := rfl

/-- The written form of the statement, piece by piece. -/
theorem text_joinedStatement (columns : Columns) (k : Nat) :
    (joinedStatement columns k).text =
      selectWord ++ ([' '] ++ (columns.text ++ ([' '] ++ (fromWord ++ ([' '] ++
        ((tableAt 0).name.toList ++ ([' '] ++ (joinsText k ++ ([' '] ++ (whereWord ++ ([' '] ++
          (positiveCustomer ++ byCustomer.text)))))))))))) := by
  have hhead : (joinedStatement columns k).head = selectWord ++ ([' '] ++ (columns.text ++
      ([' '] ++ (fromWord ++ ([' '] ++ (tableAt 0).name.toList))))) := by
    simp [Statement.head, Statement.opening, joinedStatement, Spacing.space, nthTable]
  have hjoins : (joinedStatement columns k).joins.flatMap JoinClause.text ++
      (joinedStatement columns k).closing = [' '] ++ (joinsText k ++ ([' '] ++ (whereWord ++
        ([' '] ++ (positiveCustomer ++ byCustomer.text))))) := by
    cases k with
    | zero => rfl
    | succ k =>
        have hspace := Joining.space_append_joinsText k
        rw [joinedStatement, ← List.append_assoc [' '] (joinsText (k + 1)), hspace]
        rfl
  rw [Statement.text, hhead, hjoins]
  simp only [List.append_assoc]

/-- The join clauses in small letters. -/
theorem lowersTo_joinClauses (n : Int) : LowersTo (joinClauses n) (joinsText n.toNat) := by
  refine ⟨?_, lower_joinClauses n⟩
  intro c hc
  rcases Text.mem_join hc with hspace | ⟨text, htext, hmem⟩
  · rw [List.mem_singleton.mp hspace]
    decide
  · rcases List.mem_map.mp htext with ⟨i, -, rfl⟩
    exact ascii_joinClause i c hmem

/-- What stands between the columns and the joins in the generated query. -/
def joinedSource : Text :=
  " FROM ".toList ++ base.name.toList ++ [' ']

/-- What stands behind the joins in the generated query. -/
def joinedClosing : Text :=
  " WHERE ".toList ++ base.name.toList ++ ['.'] ++ base.key.toList ++ " > 0 ORDER BY ".toList ++
    base.key.toList

/-- The joined query from its columns to its condition. -/
theorem joinedColumns_eq (n : Int) :
    joinedColumns n = "SELECT ".toList ++ listed (firstColumns (max 8 (n / 2))) ++ joinedSource ++
      joinClauses n ++ joinedClosing := by
  have hregroup : ∀ select columns a b c joins d e f g h i : Text,
      select ++ columns ++ a ++ b ++ c ++ joins ++ d ++ e ++ f ++ g ++ h ++ i =
        select ++ columns ++ (a ++ b ++ c) ++ joins ++ (d ++ e ++ f ++ g ++ h ++ i) := by
    simp
  exact hregroup _ _ _ _ _ _ _ _ _ _ _ _

/-- The small form of the generated query. -/
theorem lower_joinedColumns (n : Int) :
    Text.lower (joinedColumns n) =
      selectWord ++ ([' '] ++ (listed (firstColumns (max 8 (n / 2))) ++ ([' '] ++ (fromWord ++
        ([' '] ++ ((tableAt 0).name.toList ++ ([' '] ++ (joinsText n.toNat ++ ([' '] ++
          (whereWord ++ ([' '] ++ (positiveCustomer ++ byCustomer.text)))))))))))) := by
  have hcolumns : LowersTo (listed (firstColumns (max 8 (n / 2))))
      (listed (firstColumns (max 8 (n / 2)))) :=
    LowersTo.listed fun name hname => (isColumnName_of_mem_firstColumns hname).1
  have hsource : LowersTo joinedSource
      ([' '] ++ (fromWord ++ ([' '] ++ ((tableAt 0).name.toList ++ [' '])))) := by
    decide +kernel
  have hclosing : LowersTo joinedClosing
      ([' '] ++ (whereWord ++ ([' '] ++ (positiveCustomer ++ byCustomer.text)))) := by
    decide +kernel
  have hwhole := (((LowersTo.select.append hcolumns).append hsource).append
    (lowersTo_joinClauses n)).append hclosing
  rw [joinedColumns_eq, hwhole.lower_eq]
  simp only [List.append_assoc]

/-- The joined query joins in turn. -/
theorem joinsInTurn_joinedColumns (n : Int) :
    JoinsInTurn (joinedColumns n) (firstColumns (max 8 (n / 2))) positiveCustomer n.toNat := by
  have hne : firstColumns (max 8 (n / 2)) ≠ [] := firstColumns_ne_nil (by omega)
  rcases exists_columns_listed hne fun _ => isColumnName_of_mem_firstColumns with
    ⟨columns, hspaced, hnames⟩
  refine ⟨joinedStatement columns n.toNat, ?_, inTurn_joinedStatement hspaced hnames _⟩
  rw [lower_joinedColumns, text_joinedStatement, text_of_spaced hspaced, hnames, listed]

/-- The second query projects its two false columns. -/
theorem projects_falseColumns : Projects falseColumns ["cliente"] ["falsacoluna", "outra"] := by
  have hlower : Text.lower falseColumns =
      selectWord ++ ([' '] ++ (listed ["falsacoluna", "outra"] ++ ([' '] ++ (fromWord ++ ([' '] ++
        ((nthTable 0).text ++ ([] : List JoinClause).flatMap JoinClause.text)))))) := by
    decide +kernel
  exact projects_of_lower_eq (by simp) (by decide +kernel) hlower

/-! ## What is answered -/

/-- The relational algebra of the columns and tables that a size calls for. -/
def joinedAlgebra (n : Int) : Text :=
  "\\pi_\x7b".toList ++ listed (firstColumns (max 8 (n / 2))) ++ "\x7d(\\sigma_\x7b".toList ++
    positiveCustomer ++ "\x7d(".toList ++ nestedJoins n.toNat ++ "))".toList

/--
What is found out about a query that joins tables in turn and projects columns in turn, half
as many as there are joins but no less than eight, in any case and layout.  From the first
join on it is valid and its relational algebra is given; without a join it is refused for
three columns.
-/
theorem dialogue_of_joinsInTurn {n : Int} {query : Text}
    (hquery : JoinsInTurn query (firstColumns (max 8 (n / 2))) positiveCustomer n.toNat) :
    (1 ≤ n → dialogue query = (⟨true, []⟩, some (joinedAlgebra n))) ∧
      (n ≤ 0 → dialogue query =
        (⟨false, columnMessages ["cliente"] ["idproduto", "nomeproduto", "descricao"]⟩,
          none)) := by
  have halgebra : algebraText query = joinedAlgebra n := algebraText_of_joinsInTurn hquery
  constructor
  · intro hn
    rw [dialogue_of_valid (outcome_of_joinsInTurn hn hquery), halgebra]
  · intro hn
    exact dialogue_of_invalid (outcome_without_joins hn hquery)

end Workload
end QueryAlgebra
