import QueryAlgebra.Proofs.Validation

/-!
# Agreement of validation and translation

Validation and translation read a query each on its own, and look for joins in
different ways: one takes every `join` with a name behind it, the other only those
with a condition.  The two can get out of step, as when the name behind `join` is
itself `join`.  In a schema without such names, everything that the translation of
a valid query speaks of has been checked, with one exception: the source table may
be missing, because validation is content with a joined table.

Main results:

- Theorems `Algebra.innermost_algebra` and `Algebra.mem_joins_of_mem_thetaTables`:
  the tables of a translated query are those of its clauses.
- Theorem `known_of_mem_joins`: a table that is joined on a condition in a valid
  query is known.
- Theorem `translation_of_valid`: columns, joined tables and source table of a
  valid query.
- Theorem `innermost_known_iff`: when the translation of a valid query has a source.
-/

namespace QueryAlgebra

open Scan Clause

/-! ## Tables of an expression -/

namespace Algebra

/-- The relation at the innermost place of an expression. -/
def innermost : Algebra → Text
  | relation name => name
  | thetaJoin left _ _ => left.innermost
  | product left _ => left.innermost
  | selection _ rows => rows.innermost
  | projection _ rows => rows.innermost

/-- The tables that an expression joins on conditions, from the inside out. -/
def thetaTables : Algebra → List Text
  | relation _ => []
  | thetaJoin left _ right => left.thetaTables ++ [right]
  | product left _ => left.thetaTables
  | selection _ rows => rows.thetaTables
  | projection _ rows => rows.thetaTables

/-- Joins leave the innermost table as it is. -/
theorem innermost_foldl_attach (joins : List Join) (left : Algebra) :
    (joins.foldl attach left).innermost = left.innermost := by
  induction joins generalizing left with
  | nil => rfl
  | cons j joins ih =>
      rw [List.foldl_cons, ih, attach]
      split <;> rfl

/-- A joined expression speaks of the tables of its left side and of its joins. -/
theorem mem_thetaTables_foldl_attach {joins : List Join} {left : Algebra} {table : Text}
    (hmem : table ∈ (joins.foldl attach left).thetaTables) :
    table ∈ left.thetaTables ∨ ∃ j ∈ joins, j.table = table := by
  induction joins generalizing left with
  | nil => exact Or.inl hmem
  | cons j joins ih =>
      rcases ih hmem with hleft | ⟨other, hother, htable⟩
      · have hattach : table ∈ left.thetaTables ∨ j.table = table := by
          unfold attach at hleft
          split at hleft
          · exact Or.inl hleft
          · simpa [thetaTables, eq_comm] using hleft
        rcases hattach with hleft | htable
        · exact Or.inl hleft
        · exact Or.inr ⟨j, List.mem_cons_self, htable⟩
      · exact Or.inr ⟨other, List.mem_cons_of_mem j hother, htable⟩

/-- At the innermost place of a translated query stands its source table. -/
theorem innermost_algebra (p : Query.Parts) : p.algebra.innermost = p.base := by
  have hjoined : p.joined.innermost = p.base := innermost_foldl_attach p.joins _
  rw [Query.Parts.algebra, innermost, Query.Parts.rows]
  split
  · exact hjoined
  · exact hjoined

/-- The tables that a translated query joins on conditions are those of its join clauses. -/
theorem mem_joins_of_mem_thetaTables {p : Query.Parts} {table : Text}
    (hmem : table ∈ p.algebra.thetaTables) : ∃ j ∈ p.joins, j.table = table := by
  have hjoined : table ∈ p.joined.thetaTables := by
    rw [Query.Parts.algebra, thetaTables, Query.Parts.rows] at hmem
    split at hmem
    · exact hmem
    · exact hmem
  rcases mem_thetaTables_foldl_attach hjoined with hnone | hjoin
  · simp [thetaTables] at hnone
  · exact hjoin

end Algebra

/-! ## Known tables and columns -/

namespace Schema

theorem exists_of_has {schema : Schema} {name : String} (hhas : schema.has name = true) :
    ∃ table ∈ schema.tables, table.name = name := by
  simp only [has, columns?, Option.isSome_map] at hhas
  rcases List.find?_isSome.mp hhas with ⟨table, hmem, hname⟩
  exact ⟨table, hmem, by simpa using hname⟩

theorem exists_of_hasColumn {schema : Schema} {name column : String}
    (hhas : schema.hasColumn name column = true) :
    ∃ table ∈ schema.tables, table.name = name ∧ column ∈ table.columns := by
  simp only [hasColumn, columns?] at hhas
  cases hfind : schema.tables.find? (·.name == name) with
  | none => simp [hfind] at hhas
  | some table =>
      have hname := List.find?_some hfind
      refine ⟨table, List.mem_of_find?_eq_some hfind, by simpa using hname, ?_⟩
      simpa [hfind] using hhas

end Schema

namespace Query

/-! ## Valid queries -/

theorem base_eq_getD (query : Text) :
    (parts query).base = (source (Text.lower query)).getD [] := rfl

/-- The source table of a query is checked, if there is one. -/
theorem base_eq_nil_or_known {schema : Schema} {query : Text}
    (hknown : ∀ name ∈ mentioned (Text.lower query), schema.has name = true) :
    (parts query).base = [] ∨ schema.has (String.ofList (parts query).base) = true := by
  rw [base_eq_getD]
  cases hsource : source (Text.lower query) with
  | none => exact Or.inl rfl
  | some table => exact Or.inr (hknown _ (mem_mentioned.mpr (Or.inl ⟨table, hsource, rfl⟩)))

/--
A table that is joined on a condition is checked: if the search of the validation
had passed it over, the name of a checked table would end with the word `join`.
-/
theorem known_of_mem_joins {schema : Schema} {s : Text} {j : Join}
    (hnames : ∀ table ∈ schema.tables, ¬ joinWord <:+ table.name.toList)
    (hknown : ∀ name ∈ mentioned s, schema.has name = true) (hj : j ∈ joins s) :
    schema.has (String.ofList j.table) = true := by
  have hjoined : ∀ name ∈ joined s, schema.has (String.ofList name) = true := by
    intro name hname
    exact hknown _ (mem_mentioned.mpr (Or.inr ⟨name, hname, rfl⟩))
  rcases table_mem_joined_or_ends hj with hmem | ⟨name, hmem, hends⟩
  · exact hjoined j.table hmem
  · rcases Schema.exists_of_has (hjoined name hmem) with ⟨table, htable, heq⟩
    have hnot := hnames table htable
    rw [heq, String.toList_ofList] at hnot
    contradiction

/-- An item of the projection that asks for no star asks for one of the column names. -/
theorem mem_columnNames {columns item : Text} (hitem : item ∈ Text.pieces ',' columns)
    (hstar : Text.trim (Text.afterLast '.' item) ≠ ['*']) :
    String.ofList (Text.trim (Text.afterLast '.' item)) ∈ columnNames columns := by
  apply List.mem_map_of_mem
  apply List.mem_filter.mpr
  exact ⟨List.mem_map_of_mem hitem, by simpa using hstar⟩

/-- The empty projection asks for a column without a name. -/
theorem mem_columnNames_nil : "" ∈ columnNames [] := by decide

/--
What a valid query is translated to has been checked.  The translation projects the
very columns that validation took apart, of which there are some, and each of them
is a star or belongs to a mentioned table; the tables that it joins on conditions
are known; and so is its source table, if it has one.
-/
theorem translation_of_valid (schema : Schema)
    (hnames : ∀ table ∈ schema.tables, ¬ joinWord <:+ table.name.toList)
    (hcolumns : ∀ table ∈ schema.tables, "" ∉ table.columns) (query : Text)
    (hvalid : isValid schema query = true) :
    (∃ columns, projection (Text.lower query) = some columns ∧ columns ≠ [] ∧
      "\\pi_\x7b".toList ++ columns ++ "\x7d(".toList <+: algebraText query ∧
      ∀ item ∈ Text.pieces ',' columns,
        Text.trim (Text.afterLast '.' item) = ['*'] ∨
          ∃ table ∈ mentioned (Text.lower query),
            schema.hasColumn table (String.ofList (Text.trim (Text.afterLast '.' item))) = true) ∧
    (∀ table ∈ (parts query).algebra.thetaTables, schema.has (String.ofList table) = true) ∧
    ((parts query).algebra.innermost = [] ∨
      schema.has (String.ofList (parts query).algebra.innermost) = true) := by
  rw [isValid_eq_isEmpty, List.isEmpty_iff, faults] at hvalid
  rcases faultsOf_eq_nil_iff.mp hvalid with ⟨-, -, hknown, columns, hprojection, hall⟩
  refine ⟨⟨columns, hprojection, ?_, ?_, ?_⟩, ?_, ?_⟩
  · rintro rfl
    -- Without columns the empty name would be looked up.
    rcases hall "" mem_columnNames_nil with ⟨name, -, hhas⟩
    rcases Schema.exists_of_hasColumn hhas with ⟨table, htable, -, hcolumn⟩
    exact hcolumns table htable hcolumn
  · have hparts : (parts query).columns = columns := by
      simp [parts, Parts.ofText, hprojection, (projection_trimmed hprojection).trim_eq]
    refine ⟨(parts query).rows.render ++ [')'], ?_⟩
    simp [algebraText, Parts.algebra, Algebra.render, hparts, Algebra.projectionMark]
  · intro item hitem
    by_cases hstar : Text.trim (Text.afterLast '.' item) = ['*']
    · exact Or.inl hstar
    · exact Or.inr (hall _ (mem_columnNames hitem hstar))
  · intro table htable
    rcases Algebra.mem_joins_of_mem_thetaTables htable with ⟨j, hj, rfl⟩
    exact known_of_mem_joins hnames hknown hj
  · rw [Algebra.innermost_algebra]
    exact base_eq_nil_or_known hknown

/-- The orders of customers are a valid query. -/
theorem customerOrders_valid : isValid .shop Statement.customerOrdersTyped = true := by
  rw [isValid_eq_isEmpty, faults, Statement.lower_customerOrdersTyped]
  decide +kernel

/-- The one joined table of the orders of customers is in the schema. -/
theorem translation_of_valid_customerOrders :
    isValid .shop Statement.customerOrdersTyped = true ∧
      (parts Statement.customerOrdersTyped).algebra.thetaTables = ["pedido".toList] ∧
      Schema.shop.has (String.ofList "pedido".toList) = true := by
  have htables : (parts Statement.customerOrdersTyped).algebra.thetaTables =
      ["pedido".toList] := by
    rw [parts, Statement.lower_customerOrdersTyped]
    decide +kernel
  have hchecked := translation_of_valid .shop (by decide +kernel) (by decide +kernel) _
    customerOrders_valid
  exact ⟨customerOrders_valid, htables, hchecked.2.1 "pedido".toList (by simp [htables])⟩

/-! ## Queries without a source table -/

/-- A source table is found exactly if blanks and a name follow some `from`. -/
theorem source_isSome_iff {s : Text} :
    (source s).isSome = true ↔
      ∃ u w c v, s = u ++ (fromWord ++ (w ++ c :: v)) ∧ Blanks w ∧ isNameChar c = true := by
  rw [source, first_isSome_iff]
  constructor
  · rintro ⟨t, ⟨u, rfl⟩, hsome⟩
    rcases Option.isSome_iff_exists.mp hsome with ⟨name, hname⟩
    rcases sourceHere_eq_some_iff.mp hname with ⟨w, rest, rfl, hw, hword, -⟩
    rcases List.exists_cons_of_ne_nil hword.1 with ⟨c, more, rfl⟩
    exact ⟨u, w, c, more ++ rest, by simp, hw, hword.2 c List.mem_cons_self⟩
  · rintro ⟨u, w, c, v, rfl, hw, hc⟩
    refine ⟨_, List.suffix_append u _, ?_⟩
    rw [Option.isSome_iff_exists]
    have hname : IsWord (c :: v.takeWhile isNameChar) :=
      ⟨by simp, List.forall_mem_cons.mpr ⟨hc, fun _ => List.mem_takeWhile_imp⟩⟩
    exact ⟨_, sourceHere_eq_some_iff.mpr
      ⟨w, v.dropWhile isNameChar, by simp, hw, hname, halts_dropWhile isNameChar v⟩⟩

/-- The source table of a query is empty only if none is found. -/
theorem base_ne_nil_iff (query : Text) :
    (parts query).base ≠ [] ↔ (source (Text.lower query)).isSome = true := by
  rw [base_eq_getD]
  cases hsource : source (Text.lower query) with
  | none => simp
  | some table =>
      rcases exists_of_first hsource with ⟨t, -, hhere⟩
      rcases sourceHere_eq_some_iff.mp hhere with ⟨-, -, -, -, hword, -⟩
      simp [hword.1]

/--
The translation of a valid query has a known table at its innermost place exactly if
blanks and a name follow the word `from` somewhere in the query.  Otherwise a joined
table has satisfied the validation, and the place is empty.
-/
theorem innermost_known_iff (query : Text) (hvalid : isValid .shop query = true) :
    ((parts query).algebra.innermost ≠ [] ∧
        Schema.shop.has (String.ofList (parts query).algebra.innermost) = true) ↔
      ∃ u w c v, Text.lower query = u ++ (fromWord ++ (w ++ c :: v)) ∧ Blanks w ∧
        isNameChar c = true := by
  rw [isValid_eq_isEmpty, List.isEmpty_iff, faults] at hvalid
  rcases faultsOf_eq_nil_iff.mp hvalid with ⟨-, -, hknown, -⟩
  rw [Algebra.innermost_algebra, ← source_isSome_iff, ← base_ne_nil_iff]
  constructor
  · rintro ⟨hne, -⟩
    exact hne
  · intro hne
    exact ⟨hne, (base_eq_nil_or_known hknown).resolve_left hne⟩

/-- So is the table that they start from. -/
theorem innermost_known_customerOrders :
    isValid .shop Statement.customerOrdersTyped = true ∧
      (parts Statement.customerOrdersTyped).algebra.innermost ≠ [] ∧
      Schema.shop.has
        (String.ofList (parts Statement.customerOrdersTyped).algebra.innermost) = true := by
  have hfrom : Statement.customerOrders.text =
      "select nome, pedido.status\n".toList ++ (fromWord ++ (" ".toList ++ 'c' ::
        Statement.customerOrders.text.drop 33)) := by decide +kernel
  rw [← Statement.lower_customerOrdersTyped] at hfrom
  exact ⟨customerOrders_valid, (innermost_known_iff _ customerOrders_valid).mpr
    ⟨_, _, _, _, hfrom, by decide, by decide⟩⟩

/-- A query that puts its source table between quotes. -/
def quotedSource : Text :=
  "SELECT status FROM \"cliente\" JOIN pedido ON cliente.idcliente = pedido.idcliente".toList

/-- A query with a quoted source table is valid, and its translation has no source. -/
theorem innermost_quotedSource :
    isValid .shop quotedSource = true ∧ (parts quotedSource).algebra.innermost = [] := by
  have hlower : Text.lower quotedSource = "select status from \"cliente\" ".toList ++
      "join pedido on cliente.idcliente = pedido.idcliente".toList := by
    decide +kernel
  rw [isValid_eq_isEmpty, faults, parts, hlower]
  decide +kernel

end Query
end QueryAlgebra
