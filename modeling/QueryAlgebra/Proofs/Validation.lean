import QueryAlgebra.Validation
import QueryAlgebra.Proofs.Statement
import Mathlib.Data.String.Basic

/-!
# Validation of statements

The check of a query is described stage by stage: when it has nothing to report,
what it reports of the tables, and what it reports of the columns.  For a written
statement every stage looks at the statement's own parts, so the faults of a query
can be read off its statement and the schema.

Main results:

- Theorems `Names.mem_ascending` and `Names.ascending_pairwise`: the mentioned
  tables are listed in ascending order and each once.
- Theorem `faultsOf_eq_nil_iff`: what a query without faults satisfies.
- Theorem `columnNames_text`: the column names of a statement are those of its items.
- Theorem `faults_eq_of_statement`: the faults of a query of the supported form.
-/

namespace QueryAlgebra

/-! ## Ascending lists of names -/

namespace Names

theorem mem_insert {name other : String} {names : List String} :
    name ∈ insert other names ↔ name = other ∨ name ∈ names := by
  induction names with
  | nil => simp [insert]
  | cons first rest ih =>
      unfold insert
      split
      · simp
      · split
        · rename_i heq
          subst heq
          simp
        · simp only [List.mem_cons, ih]
          tauto

theorem insert_pairwise {name : String} {names : List String}
    (hnames : names.Pairwise (· < ·)) : (insert name names).Pairwise (· < ·) := by
  induction names with
  | nil => simp [insert]
  | cons first rest ih =>
      rcases List.pairwise_cons.mp hnames with ⟨hfirst, hrest⟩
      unfold insert
      split
      · rename_i hlt
        apply List.pairwise_cons.mpr
        refine ⟨?_, hnames⟩
        intro other hother
        rcases List.mem_cons.mp hother with rfl | hother
        · exact hlt
        · exact hlt.trans (hfirst other hother)
      · split
        · exact hnames
        · rename_i hnot hne
          apply List.pairwise_cons.mpr
          refine ⟨?_, ih hrest⟩
          intro other hother
          rcases mem_insert.mp hother with rfl | hother
          · exact lt_of_le_of_ne (not_lt.mp hnot) (Ne.symm hne)
          · exact hfirst other hother

/-- The ascending list has the names of the given one. -/
@[simp] theorem mem_ascending {name : String} {names : List String} :
    name ∈ ascending names ↔ name ∈ names := by
  induction names with
  | nil => rfl
  | cons first rest ih =>
      rw [ascending, List.foldr_cons, mem_insert, List.mem_cons]
      exact or_congr_right ih

/-- The ascending list is strictly ascending, so it has no name twice. -/
theorem ascending_pairwise (names : List String) : (ascending names).Pairwise (· < ·) := by
  induction names with
  | nil => exact List.Pairwise.nil
  | cons first rest ih => exact insert_pairwise ih

end Names

/-! ## Pieces of a text -/

namespace Text

@[simp] theorem pieces_ne_nil (sep : Char) (s : Text) : pieces sep s ≠ [] := by
  cases s with
  | nil => simp [pieces]
  | cons c s =>
      unfold pieces
      split
      · simp
      · split <;> simp

/-- A separator in front starts a new piece. -/
theorem pieces_sep (sep : Char) (s : Text) : pieces sep (sep :: s) = [] :: pieces sep s := by
  rw [pieces]
  split
  · rename_i hnil
    exact absurd hnil (pieces_ne_nil sep s)
  · rename_i piece more hpieces
    rw [if_pos rfl, hpieces]

/-- A text without the separator in front belongs to the first piece. -/
theorem pieces_append {sep : Char} {u s first : Text} {more : List Text} (hu : sep ∉ u)
    (hs : pieces sep s = first :: more) : pieces sep (u ++ s) = (u ++ first) :: more := by
  induction u with
  | nil => exact hs
  | cons c u ih =>
      have hrest : sep ∉ u := fun hmem => hu (List.mem_cons_of_mem c hmem)
      have hne : c ≠ sep := by
        rintro rfl
        exact hu List.mem_cons_self
      rw [List.cons_append, pieces, ih hrest]
      simp [hne]

theorem pieces_of_not_mem {sep : Char} {u : Text} (hu : sep ∉ u) : pieces sep u = [u] := by
  have hpieces := pieces_append (s := []) hu rfl
  simpa using hpieces

theorem mem_of_mem_pieces {sep c : Char} {s piece : Text} (hpiece : piece ∈ pieces sep s)
    (hc : c ∈ piece) : c ∈ s := by
  induction s generalizing piece with
  | nil =>
      rw [pieces, List.mem_singleton] at hpiece
      rwa [hpiece] at hc
  | cons d s ih =>
      rcases List.exists_cons_of_ne_nil (pieces_ne_nil sep s) with ⟨first, more, hpieces⟩
      have hin : ∀ p ∈ first :: more, c ∈ p → c ∈ s := by
        intro p hp hcp
        exact ih (by rwa [hpieces]) hcp
      rw [pieces, hpieces] at hpiece
      dsimp only at hpiece
      split at hpiece
      · rcases List.mem_cons.mp hpiece with rfl | hpiece
        · simp at hc
        · exact List.mem_cons_of_mem d (hin piece hpiece hc)
      · rcases List.mem_cons.mp hpiece with rfl | hpiece
        · rcases List.mem_cons.mp hc with rfl | hc
          · exact List.mem_cons_self
          · exact List.mem_cons_of_mem d (hin first List.mem_cons_self hc)
        · exact List.mem_cons_of_mem d (hin piece (List.mem_cons_of_mem first hpiece) hc)

end Text

namespace Query

open Scan Clause

/-! ## Faults by stage -/

/-- What is mentioned are the source table and the joined tables. -/
theorem mem_mentioned {s : Text} {name : String} :
    name ∈ mentioned s ↔
      (∃ table, source s = some table ∧ name = String.ofList table) ∨
        ∃ table ∈ joined s, name = String.ofList table := by
  simp only [mentioned, Names.mem_ascending, List.map_append, List.mem_append, List.mem_map,
    Option.mem_toList, eq_comm]

/-- A query without the words of a query is refused for its shape. -/
theorem outcomeOf_of_malformed {schema : Schema} {s : Text} (hform : wellFormed s = false) :
    outcomeOf schema s = ⟨false, [.malformed]⟩ := by
  simp [outcomeOf, hform]

/-- A query that mentions no table is refused for that. -/
theorem outcomeOf_of_noTable {schema : Schema} {s : Text} (hform : wellFormed s = true)
    (hempty : mentioned s = []) : outcomeOf schema s = ⟨false, [.noTable]⟩ := by
  simp [outcomeOf, hform, hempty]

/-- A query with an unknown table is refused for its unknown tables. -/
theorem outcomeOf_of_unknown {schema : Schema} {s : Text} (hform : wellFormed s = true)
    (hunknown : ∃ table ∈ mentioned s, schema.has table = false) :
    outcomeOf schema s =
      ⟨false, ((mentioned s).filter fun table => !schema.has table).map .unknownTable⟩ := by
  rcases hunknown with ⟨table, hmem, hhas⟩
  have hsome : mentioned s ≠ [] := List.ne_nil_of_mem hmem
  have hfilter : ((mentioned s).filter fun table => !schema.has table) ≠ [] :=
    List.ne_nil_of_mem (List.mem_filter.mpr ⟨hmem, by simp [hhas]⟩)
  rcases List.exists_cons_of_ne_nil hfilter with ⟨first, more, hcons⟩
  simp [outcomeOf, hform, hsome, hcons]

/-- Of known tables none is among the unknown ones. -/
theorem filter_unknown_eq_nil {schema : Schema} {tables : List String}
    (hknown : ∀ table ∈ tables, schema.has table = true) :
    (tables.filter fun table => !schema.has table) = [] := by
  rw [List.filter_eq_nil_iff]
  intro table hmem
  simp [hknown table hmem]

/-- A query whose projection cannot be found is refused for that. -/
theorem outcomeOf_of_noProjection {schema : Schema} {s : Text} (hform : wellFormed s = true)
    (hsome : mentioned s ≠ []) (hknown : ∀ table ∈ mentioned s, schema.has table = true)
    (hcolumns : projection s = none) : outcomeOf schema s = ⟨false, [.noProjection]⟩ := by
  simp [outcomeOf, hform, hsome, filter_unknown_eq_nil hknown, hcolumns]

/-- A query whose tables are all known passes if no column is missing, and is refused otherwise. -/
theorem outcomeOf_of_known {schema : Schema} {s columns : Text} (hform : wellFormed s = true)
    (hsome : mentioned s ≠ []) (hknown : ∀ table ∈ mentioned s, schema.has table = true)
    (hcolumns : projection s = some columns) :
    outcomeOf schema s =
      ⟨(missingColumns schema (mentioned s) columns).isEmpty,
        (missingColumns schema (mentioned s) columns).map (.unknownColumn · (mentioned s))⟩ := by
  cases hmissing : missingColumns schema (mentioned s) columns with
  | nil =>
      simp [outcomeOf, hform, hsome, filter_unknown_eq_nil hknown, hcolumns, hmissing]
  | cons column more =>
      simp [outcomeOf, hform, hsome, filter_unknown_eq_nil hknown, hcolumns, hmissing]

/-- A query passes its check exactly if no fault is found, at whichever stage the check ends. -/
theorem outcomeOf_valid (schema : Schema) (s : Text) :
    (outcomeOf schema s).valid = (outcomeOf schema s).faults.isEmpty := by
  by_cases hform : wellFormed s = true
  · by_cases hempty : mentioned s = []
    · rw [outcomeOf_of_noTable hform hempty]
      rfl
    · by_cases hunknown : ∃ table ∈ mentioned s, schema.has table = false
      · have hfaults : ((mentioned s).filter fun table => !schema.has table) ≠ [] := by
          rcases hunknown with ⟨table, hmem, hhas⟩
          exact List.ne_nil_of_mem (List.mem_filter.mpr ⟨hmem, by simp [hhas]⟩)
        rw [outcomeOf_of_unknown hform hunknown]
        simp [hfaults]
      · have hknown : ∀ table ∈ mentioned s, schema.has table = true := by
          simpa using hunknown
        cases hcolumns : projection s with
        | none =>
            rw [outcomeOf_of_noProjection hform hempty hknown hcolumns]
            rfl
        | some columns =>
            rw [outcomeOf_of_known hform hempty hknown hcolumns, List.isEmpty_map]
  · rw [outcomeOf_of_malformed (by simpa using hform)]
    rfl

/-- A query is valid exactly if it has no faults. -/
theorem isValid_eq_isEmpty (schema : Schema) (query : Text) :
    isValid schema query = (faults schema query).isEmpty :=
  outcomeOf_valid schema (Text.lower query)

/-- A query with an unknown table has just the faults of its unknown tables. -/
theorem faultsOf_of_unknown {schema : Schema} {s : Text} (hform : wellFormed s = true)
    (hunknown : ∃ table ∈ mentioned s, schema.has table = false) :
    faultsOf schema s =
      ((mentioned s).filter fun table => !schema.has table).map .unknownTable := by
  rw [faultsOf, outcomeOf_of_unknown hform hunknown]

/-- A query whose tables are all known has just the faults of its unknown columns. -/
theorem faultsOf_of_known {schema : Schema} {s columns : Text} (hform : wellFormed s = true)
    (hsome : mentioned s ≠ []) (hknown : ∀ table ∈ mentioned s, schema.has table = true)
    (hcolumns : projection s = some columns) :
    faultsOf schema s =
      ((columnNames columns).filter fun column =>
        !(mentioned s).any fun table => schema.hasColumn table column).map
          (.unknownColumn · (mentioned s)) := by
  rw [faultsOf, outcomeOf_of_known hform hsome hknown hcolumns, missingColumns]

/--
A query without faults is well formed, mentions a table, mentions only known tables,
and each of its columns is one of a mentioned table.
-/
theorem faultsOf_eq_nil_iff {schema : Schema} {s : Text} :
    faultsOf schema s = [] ↔
      wellFormed s = true ∧ mentioned s ≠ [] ∧
        (∀ table ∈ mentioned s, schema.has table = true) ∧
        ∃ columns, projection s = some columns ∧ ∀ column ∈ columnNames columns,
          ∃ table ∈ mentioned s, schema.hasColumn table column = true := by
  constructor
  · intro hnil
    -- Each check that is not passed leaves a fault.
    have hform : wellFormed s = true := by
      by_contra hnot
      have hfalse : wellFormed s = false := by simpa using hnot
      simp [faultsOf, outcomeOf_of_malformed hfalse] at hnil
    have hsome : mentioned s ≠ [] := by
      intro hempty
      simp [faultsOf, outcomeOf_of_noTable hform hempty] at hnil
    have hknown : ∀ table ∈ mentioned s, schema.has table = true := by
      intro table hmem
      by_contra hnot
      have hunknown : schema.has table = false := by simpa using hnot
      rw [faultsOf_of_unknown hform ⟨table, hmem, hunknown⟩, List.map_eq_nil_iff,
        List.filter_eq_nil_iff] at hnil
      have hfault := hnil table hmem
      simp [hunknown] at hfault
    refine ⟨hform, hsome, hknown, ?_⟩
    cases hcolumns : projection s with
    | none => simp [faultsOf, outcomeOf_of_noProjection hform hsome hknown hcolumns] at hnil
    | some columns =>
        refine ⟨columns, rfl, ?_⟩
        rw [faultsOf_of_known hform hsome hknown hcolumns, List.map_eq_nil_iff,
          List.filter_eq_nil_iff] at hnil
        intro column hmem
        simpa using hnil column hmem
  · rintro ⟨hform, hsome, hknown, columns, hcolumns, hall⟩
    rw [faultsOf_of_known hform hsome hknown hcolumns, List.map_eq_nil_iff,
      List.filter_eq_nil_iff]
    intro column hmem
    simpa using hall column hmem

/-! ## Columns of a statement -/

/-- The column that an item asks for: what follows its last dot, or the star. -/
def Item.column (item : Item) : Text :=
  Text.afterLast '.' item.text

/-- A text without any blank has none at its ends. -/
theorem trimmed_of_not_blank {s : Text} (hs : ∀ c ∈ s, isBlank c = false) : Trimmed s := by
  refine ⟨halts_of_forall hs, halts_of_forall ?_⟩
  intro c hc
  exact hs c (List.mem_reverse.mp hc)

/-- Blanks before a text without any are trimmed away. -/
theorem trim_gap_append (gap : Gap) {s : Text} (hs : ∀ c ∈ s, isBlank c = false) :
    Text.trim (gap.text ++ s) = s := by
  have htrimmed := trimmed_of_not_blank hs
  have hstart : (gap.text ++ s).dropWhile isBlank = s.dropWhile isBlank := by
    rw [dropWhile_append_of_halts gap.blank htrimmed.1]
    exact (dropWhile_append_of_halts (u := []) (by simp) htrimmed.1).symm
  calc
    Text.trim (gap.text ++ s) = Text.trim s := by
      rw [Text.trim, Text.trimStart, hstart]
      rfl
    _ = s := htrimmed.trim_eq

/-- The blanks before an item do not change the column it asks for. -/
theorem trim_afterLast_item (gap : Gap) (item : Item) :
    Text.trim (Text.afterLast '.' (gap.text ++ item.text)) = item.column := by
  have hdot : '.' ∉ gap.text := by
    intro hmem
    have hblank := gap.blank '.' hmem
    contradiction
  rcases List.exists_cons_of_ne_nil (Text.pieces_ne_nil '.' item.text) with ⟨first, more, hpieces⟩
  have hclean : ∀ piece ∈ first :: more, ∀ c ∈ piece, isBlank c = false := by
    intro piece hpiece c hc
    rw [← hpieces] at hpiece
    exact item.not_blank c (Text.mem_of_mem_pieces hpiece hc)
  rw [Item.column, Text.afterLast, Text.afterLast, Text.pieces_append hdot hpieces, hpieces]
  -- The blanks belong to the first piece, which counts only if it is the last one too.
  cases more with
  | nil => exact trim_gap_append gap (hclean first List.mem_cons_self)
  | cons second more =>
      rw [List.getLast?_cons_cons, List.getLast?_cons_cons]
      cases hlast : (second :: more).getLast? with
      | none => simp at hlast
      | some last =>
          have hmem : last ∈ first :: second :: more :=
            List.mem_cons_of_mem first (List.mem_of_getLast? hlast)
          exact (trimmed_of_not_blank (hclean last hmem)).trim_eq

theorem comma_not_mem_gap (gap : Gap) : ',' ∉ gap.text := by
  intro hmem
  have hblank := gap.blank ',' hmem
  contradiction

theorem comma_not_mem_item (item : Item) : ',' ∉ item.text := by
  cases item with
  | all => simp [Item.text]
  | named name =>
      intro hmem
      have hqualified := name.isQualified.2 ',' hmem
      contradiction

/-- Between the commas stand the items with the blanks before them. -/
theorem pieces_textFrom (gap : Gap) (item : Item) (more : List NextItem) :
    Text.pieces ',' (gap.text ++ Columns.textFrom item more) =
      (gap.text ++ item.text) :: more.map fun next => next.gap.text ++ next.item.text := by
  have hcomma : ',' ∉ gap.text ++ item.text := by
    rw [List.mem_append, not_or]
    exact ⟨comma_not_mem_gap gap, comma_not_mem_item item⟩
  induction more generalizing gap item with
  | nil => exact Text.pieces_of_not_mem hcomma
  | cons next more ih =>
      have hnext : ',' ∉ next.gap.text ++ next.item.text := by
        rw [List.mem_append, not_or]
        exact ⟨comma_not_mem_gap next.gap, comma_not_mem_item next.item⟩
      have hrest := ih next.gap next.item hnext
      have hsep := Text.pieces_sep ',' (next.gap.text ++ Columns.textFrom next.item more)
      rw [hrest] at hsep
      have hpieces := Text.pieces_append hcomma hsep
      simpa [Columns.textFrom] using hpieces

/-- The column names of a statement are those of its items, without stars. -/
theorem columnNames_text (columns : Columns) :
    columnNames columns.text =
      ((columns.items.map Item.column).filter (· != ['*'])).map String.ofList := by
  have hpieces := pieces_textFrom ⟨[], by simp⟩ columns.first columns.more
  have hfirst := trim_afterLast_item ⟨[], by simp⟩ columns.first
  rw [List.nil_append] at hpieces hfirst
  rw [columnNames, Columns.text, hpieces, Columns.items, List.map_cons, List.map_cons,
    List.nil_append, hfirst, List.map_map, List.map_map]
  congr 3
  apply List.map_congr_left
  intro next _
  exact trim_afterLast_item next.gap next.item

/-! ## Faults of a statement -/

/-- The tables of a statement from left to right. -/
def Statement.tableNames (st : Statement) : List String :=
  (st.table.text :: st.joins.map fun j => j.table.text).map String.ofList

/-- The item is no star and asks for a column that none of the tables has. -/
def Item.isUnknown (schema : Schema) (tables : List String) (item : Item) : Bool :=
  item.column != ['*'] &&
    !tables.any fun table => schema.hasColumn table (String.ofList item.column)

theorem Statement.mentioned_text (st : Statement) :
    mentioned st.text = Names.ascending st.tableNames := by
  rw [mentioned, st.source_text, st.joined_text, Statement.tableNames]
  rfl

theorem Statement.mentioned_text_ne_nil (st : Statement) : mentioned st.text ≠ [] := by
  apply List.ne_nil_of_mem (a := String.ofList st.table.text)
  rw [st.mentioned_text, Names.mem_ascending, Statement.tableNames]
  exact List.mem_cons_self

/-- The column faults of a statement whose tables are known are those of its items, in order. -/
theorem Statement.faultsOf_text (st : Statement) {schema : Schema}
    (hknown : ∀ table ∈ mentioned st.text, schema.has table = true) :
    faultsOf schema st.text =
      (st.columns.items.filter (Item.isUnknown schema (mentioned st.text))).map
        fun item => .unknownColumn (String.ofList item.column) (mentioned st.text) := by
  rw [faultsOf_of_known st.wellFormed_text st.mentioned_text_ne_nil hknown st.projection_text,
    columnNames_text, List.filter_map, List.filter_filter, List.filter_map, List.map_map,
    List.map_map]
  congr 1
  apply List.filter_congr
  intro item _
  simp [Item.isUnknown, Bool.and_comm]

/--
The faults of a query of the supported form.  They are about its tables, listed in
ascending order and each once: if some of these are unknown, there is one fault for
each unknown table; otherwise there is one for each item whose column none of the
tables has, and without such an item the query is valid.
-/
theorem faults_eq_of_statement (schema : Schema) (st : Statement) (query : Text)
    (hquery : Text.lower query = st.text) :
    ∃ tables : List String, tables.Pairwise (· < ·) ∧
      (∀ name, name ∈ tables ↔ name ∈ st.tableNames) ∧
      ((∃ table ∈ tables, schema.has table = false) →
        isValid schema query = false ∧
          faults schema query =
            (tables.filter fun table => !schema.has table).map .unknownTable) ∧
      ((∀ table ∈ tables, schema.has table = true) →
        (isValid schema query = true ↔
          ∀ item ∈ st.columns.items, item.isUnknown schema tables = false) ∧
          faults schema query =
            (st.columns.items.filter (Item.isUnknown schema tables)).map
              fun item => .unknownColumn (String.ofList item.column) tables) := by
  refine ⟨mentioned st.text, ?_, ?_, ?_, ?_⟩
  · rw [st.mentioned_text]
    exact Names.ascending_pairwise st.tableNames
  · intro name
    rw [st.mentioned_text]
    exact Names.mem_ascending
  · intro hunknown
    have hfaults : faults schema query =
        ((mentioned st.text).filter fun table => !schema.has table).map .unknownTable := by
      rw [faults, hquery]
      exact faultsOf_of_unknown st.wellFormed_text hunknown
    refine ⟨?_, hfaults⟩
    -- The unknown table itself is among the faults.
    rcases hunknown with ⟨table, hmem, hhas⟩
    rw [isValid_eq_isEmpty, hfaults, List.isEmpty_eq_false_iff]
    apply List.ne_nil_of_mem (a := .unknownTable table)
    exact List.mem_map_of_mem (List.mem_filter.mpr ⟨hmem, by simp [hhas]⟩)
  · intro hknown
    have hfaults : faults schema query =
        (st.columns.items.filter (Item.isUnknown schema (mentioned st.text))).map
          fun item => .unknownColumn (String.ofList item.column) (mentioned st.text) := by
      rw [faults, hquery]
      exact st.faultsOf_text hknown
    refine ⟨?_, hfaults⟩
    rw [isValid_eq_isEmpty, hfaults, List.isEmpty_iff, List.map_eq_nil_iff, List.filter_eq_nil_iff]
    simp

theorem isValid_customerOrders :
    Text.lower Statement.customerOrdersTyped = Statement.customerOrders.text ∧
      isValid .shop Statement.customerOrdersTyped = true := by
  refine ⟨Statement.lower_customerOrdersTyped, ?_⟩
  rcases faults_eq_of_statement .shop Statement.customerOrders Statement.customerOrdersTyped
    Statement.lower_customerOrdersTyped with ⟨tables, -, hmem, -, hcolumns⟩
  have hnames : Statement.customerOrders.tableNames = ["cliente", "pedido"] := by decide +kernel
  have hknown : ∀ table ∈ tables, Schema.shop.has table = true := by
    intro table htable
    rw [hmem, hnames] at htable
    revert table
    decide +kernel
  have hcliente : "cliente" ∈ tables := (hmem _).mpr (by simp [hnames])
  have hpedido : "pedido" ∈ tables := (hmem _).mpr (by simp [hnames])
  rw [(hcolumns hknown).1]
  intro item hitem
  rcases List.mem_cons.mp hitem with rfl | hitem
  · have hnome : Schema.shop.hasColumn "cliente" "nome" = true := by decide +kernel
    simp only [Item.isUnknown, Bool.and_eq_false_iff, Bool.not_eq_false', List.any_eq_true]
    exact Or.inr ⟨"cliente", hcliente, hnome⟩
  · rw [List.mem_singleton.mp hitem]
    have hstatus : Schema.shop.hasColumn "pedido" "status" = true := by decide +kernel
    simp only [Item.isUnknown, Bool.and_eq_false_iff, Bool.not_eq_false', List.any_eq_true]
    exact Or.inr ⟨"pedido", hpedido, hstatus⟩

end Query
end QueryAlgebra
