import QueryAlgebra.Proofs.ManyJoins
import QueryAlgebra.Proofs.IntegerLists
import QueryAlgebra.Proofs.Reports
import QueryAlgebra.Proofs.SingleColumn

/-!
# Queries for lists of columns

A query may be written in any case and with any blanks; its faults depend only on the
tables that it names and on the columns that it projects.  So they are described for all
queries with given tables and columns at once.  The lists of columns are of any length:
columns of the shop, taken in turn, and families of numbered names that the shop has not.

A generated query is such a query.  Its small form is put together from the small forms of
its pieces, and the statement behind it from the names in its list.

Main results:

- Theorem `outcome_of_projects`: the outcome for known columns, followed by columns that
  none of the tables has.
- Theorem `unfound_numbered`: a schema has no column of a family, if none of its columns
  starts with the name of the family.
- Theorem `exists_columns_listed`: names in a list with commas are the columns of a statement.
-/

namespace QueryAlgebra

/-- The ascending list depends only on which names the given one has. -/
theorem Names.ascending_congr {names others : List String}
    (hnames : ∀ name, name ∈ names ↔ name ∈ others) :
    Names.ascending names = Names.ascending others := by
  apply (Names.ascending_pairwise names).eq_of_mem_iff (Names.ascending_pairwise others)
  intro name
  rw [Names.mem_ascending, Names.mem_ascending, hnames]

namespace Workload

open Scan Clause Query

/-! ## Faults of a query for columns -/

/-- The column that a name asks for: what follows its last dot. -/
def unqualified (name : String) : String :=
  String.ofList (Text.afterLast '.' name.toList)

/-- A query, in any case and layout, for columns of tables, which it may name in any order. -/
def Projects (query : Text) (tables columns : List String) : Prop :=
  ∃ st : Statement, Text.lower query = st.text ∧
    (∀ table, table ∈ st.tableNames ↔ table ∈ tables) ∧
    st.columns.items.map Item.text = columns.map String.toList

/-- The name asks for a column that none of the tables has. -/
def Unfound (schema : Schema) (tables : List String) (name : String) : Prop :=
  Unanswered schema tables (unqualified name).toList

instance (schema : Schema) (tables : List String) (name : String) :
    Decidable (Unfound schema tables name) :=
  inferInstanceAs (Decidable (Unanswered _ _ _))

/-- A column of one of the tables is found. -/
theorem not_unfound_of_hasColumn {schema : Schema} {tables : List String} {table name : String}
    (htable : table ∈ tables) (hhas : schema.hasColumn table (unqualified name) = true) :
    ¬ Unfound schema tables name := by
  rintro ⟨-, hnone⟩
  have hfalse := hnone table htable
  rw [String.ofList_toList, hhas] at hfalse
  contradiction

/-- The faults of a query whose tables are known are those of its columns, in order. -/
theorem faults_of_projects {schema : Schema} {query : Text} {tables columns : List String}
    (hquery : Projects query tables columns)
    (hknown : ∀ table ∈ tables, schema.has table = true) :
    faults schema query =
      (columns.filter fun name => Unfound schema tables name).map fun name =>
        .unknownColumn (unqualified name) (Names.ascending tables) := by
  rcases hquery with ⟨st, hlower, htables, hitems⟩
  have hmentioned : mentioned st.text = Names.ascending tables := by
    rw [st.mentioned_text, Names.ascending_congr htables]
  have hascending : ∀ table ∈ mentioned st.text, schema.has table = true := by
    intro table htable
    rw [hmentioned, Names.mem_ascending] at htable
    exact hknown table htable
  have hunknown : ∀ item : Item, item.isUnknown schema (mentioned st.text) =
      decide (Unanswered schema tables item.column) := by
    intro item
    rw [Bool.eq_iff_iff, decide_eq_true_iff, Item.isUnknown, Unanswered, hmentioned]
    simp
  -- The faults depend on an item only by its text, and the texts are those of the columns.
  have hfilter : st.columns.items.filter (Item.isUnknown schema (mentioned st.text)) =
      st.columns.items.filter ((fun text => decide (Unanswered schema tables
        (Text.afterLast '.' text))) ∘ Item.text) :=
    List.filter_congr fun item _ => hunknown item
  have htexts : (st.columns.items.filter (Item.isUnknown schema (mentioned st.text))).map
      Item.text = (columns.filter fun name => Unfound schema tables name).map
        String.toList := by
    have hnames : columns.filter ((fun text => decide (Unanswered schema tables
        (Text.afterLast '.' text))) ∘ String.toList) =
          columns.filter fun name => Unfound schema tables name := by
      apply List.filter_congr
      intro name _
      simp [Unfound, unqualified]
    rw [hfilter, ← List.filter_map, hitems, List.filter_map, hnames]
  have hfaults := congrArg (List.map fun text => Fault.unknownColumn
    (String.ofList (Text.afterLast '.' text)) (mentioned st.text)) htexts
  rw [List.map_map, List.map_map] at hfaults
  rw [faults, hlower, st.faultsOf_text hascending, ← hmentioned]
  exact hfaults

/-- The messages that none of the tables has the columns. -/
def columnMessages (tables columns : List String) : List String :=
  columns.map fun column => (Fault.unknownColumn column tables).message

example : columnMessages ["cliente", "pedido"] ["outra"] = ["Erro: Coluna 'outra' não " ++
    "encontrada em nenhuma das tabelas especificadas (cliente, pedido)."] := by
  decide +kernel

/-- The outcome of a check can be read off the faults. -/
theorem outcome_eq (query : Text) :
    outcome query = ⟨(faults .shop query).isEmpty, (faults .shop query).map Fault.message⟩ := by
  rw [← isValid_eq_isEmpty]
  rfl

/-- The outcome for known columns, followed by columns that none of the tables has. -/
theorem outcome_of_projects {query : Text} {tables known unknown : List String}
    (hquery : Projects query tables (known ++ unknown))
    (htables : ∀ table ∈ tables, Schema.shop.has table = true)
    (hknown : ∀ name ∈ known, ¬ Unfound .shop tables name)
    (hunknown : ∀ name ∈ unknown, Unfound .shop tables name) :
    outcome query =
      ⟨unknown.isEmpty, columnMessages (Names.ascending tables) (unknown.map unqualified)⟩ := by
  have hfirst : (known.filter fun name => Unfound .shop tables name) = [] := by
    rw [List.filter_eq_nil_iff]
    intro name hname
    simpa using hknown name hname
  have hrest : (unknown.filter fun name => Unfound .shop tables name) = unknown := by
    rw [List.filter_eq_self]
    intro name hname
    simpa using hunknown name hname
  have hfaults := faults_of_projects hquery htables
  rw [List.filter_append, hfirst, hrest, List.nil_append] at hfaults
  simp [outcome_eq, columnMessages, hfaults]

/-! ## Families of numbered names -/

/-- Numbered names are a family name and a number. -/
theorem exists_of_mem_numbered {family name : String} {count : Nat}
    (hname : name ∈ numbered family count) :
    ∃ i < count, name = family ++ String.ofList (decimalDigits i) := by
  rcases List.mem_map.mp hname with ⟨i, hi, rfl⟩
  exact ⟨i, List.mem_range.mp hi, rfl⟩

theorem numbered_ne_nil (family : String) {count : Nat} (hcount : 0 < count) :
    numbered family count ≠ [] := by
  rw [numbered, Ne, List.map_eq_nil_iff, List.range_eq_nil]
  omega

/-- A text that is written for each name of a family. -/
theorem flatMap_numbered (family : String) (count : Nat) (write : Text → Text) :
    (numbered family count).flatMap (fun name => write name.toList) =
      (List.range count).flatMap fun i => write (family.toList ++ decimalDigits i) := by
  simp only [numbered, List.flatMap_map, String.toList_append, String.toList_ofList]

/-- No two names of a family are the same. -/
theorem numbered_nodup (family : String) (count : Nat) : (numbered family count).Nodup := by
  apply List.nodup_range.map
  intro i j hij
  have hdigits := congrArg String.toList hij
  rw [String.toList_append, String.toList_append, String.toList_ofList,
    String.toList_ofList] at hdigits
  exact decimalDigits_injective (List.append_cancel_left hdigits)

theorem isNameChar_of_mem_decimalDigits {n : Nat} {c : Char} (hc : c ∈ decimalDigits n) :
    isNameChar c = true := by
  have hdigit := isDigit_of_mem_decimalDigits hc
  rw [Char.isDigit_iff_toNat] at hdigit
  simp only [isNameChar, Bool.or_eq_true, Bool.and_eq_true, decide_eq_true_eq, Char.le_def,
    UInt32.le_iff_toNat_le]
  exact Or.inl (Or.inr hdigit)

/-- No digit stands in a keyword. -/
theorem not_mem_keyword_of_isDigit {word : Text} {c : Char} (hword : word ∈ keywords)
    (hc : c.isDigit = true) : c ∉ word := by
  have hletters : ∀ word ∈ keywords, word.all (fun d => !d.isDigit) = true := by decide
  intro hmem
  have hletter := List.all_eq_true.mp (hletters word hword) c hmem
  rw [hc] at hletter
  contradiction

/-- A number behind a text does not make a keyword of it. -/
theorem keywordFree_append_decimalDigits {s : Text} (hs : KeywordFree s) (n : Nat) :
    KeywordFree (s ++ decimalDigits n) := by
  intro word hword
  have hdigits : ∀ c ∈ decimalDigits n, c ∉ word := by
    intro c hc
    exact not_mem_keyword_of_isDigit hword (isDigit_of_mem_decimalDigits hc)
  have hlacks : Lacks word (decimalDigits n) := by
    rcases List.exists_cons_of_ne_nil (isWord_of_mem_keywords hword).1 with ⟨c, rest, hcons⟩
    apply lacks_of_not_mem (c := c) (by simp [hcons])
    intro hmem
    exact hdigits c hmem (by simp [hcons])
  apply (hs word hword).append hlacks
  right
  intro c hc
  exact hdigits c (List.mem_of_head? hc)

/-- A number at the end stays with the column of a qualified name. -/
theorem unqualified_append_decimalDigits (family : String) (n : Nat) :
    unqualified (family ++ String.ofList (decimalDigits n)) =
      unqualified family ++ String.ofList (decimalDigits n) := by
  have hdot : '.' ∉ decimalDigits n := by
    intro hmem
    have hdigit := isDigit_of_mem_decimalDigits hmem
    contradiction
  rw [unqualified, String.toList_append, String.toList_ofList, Text.afterLast_append _ hdot,
    String.ofList_append, unqualified]

/-- A family of qualified names asks for a family of columns. -/
theorem map_unqualified_numbered (family : String) (count : Nat) :
    (numbered family count).map unqualified = numbered (unqualified family) count := by
  rw [numbered, numbered, List.map_map]
  apply List.map_congr_left
  intro i _
  exact unqualified_append_decimalDigits family i

/-- None of the columns of a schema starts with a name. -/
def StartsNoColumn (schema : Schema) (name : String) : Prop :=
  ∀ table ∈ schema.tables, ∀ column ∈ table.columns, ¬ name.toList <+: column.toList

instance (schema : Schema) (name : String) : Decidable (StartsNoColumn schema name) :=
  inferInstanceAs (Decidable (∀ table ∈ schema.tables, ∀ column ∈ table.columns, _))

/-- A schema has no column of a family, if none of its columns starts with the family's name. -/
theorem unfound_numbered {schema : Schema} {family name : String} {count : Nat}
    (tables : List String) (hfamily : StartsNoColumn schema (unqualified family))
    (hname : name ∈ numbered family count) : Unfound schema tables name := by
  rcases exists_of_mem_numbered hname with ⟨i, -, rfl⟩
  rw [Unfound, unqualified_append_decimalDigits]
  constructor
  · -- The last character is a digit and no star.
    intro hstar
    have hne : decimalDigits i ≠ [] := Nat.toDigits_ne_nil
    have hmem : (decimalDigits i).getLast hne ∈ ['*'] := by
      rw [← hstar, String.toList_append, String.toList_ofList]
      exact List.mem_append_right _ (List.getLast_mem _)
    have hdigit := isDigit_of_mem_decimalDigits (List.getLast_mem hne)
    rw [List.mem_singleton.mp hmem] at hdigit
    contradiction
  · intro table _
    rw [String.ofList_toList, Bool.eq_false_iff]
    intro hhas
    rcases Schema.exists_of_hasColumn hhas with ⟨t, ht, -, hcolumn⟩
    apply hfamily t ht _ hcolumn
    rw [String.toList_append]
    exact List.prefix_append _ _

/-! ## Columns of the shop -/

theorem columnAt_mem (i : Nat) : columnAt i ∈ allColumns := by
  have hlt : i % allColumns.length < allColumns.length := Nat.mod_lt i (by decide +kernel)
  rw [columnAt, List.getD_eq_getElem _ _ hlt]
  exact List.getElem_mem hlt

theorem firstColumns_ne_nil {n : Int} (hn : 1 ≤ n) : firstColumns n ≠ [] := by
  rw [firstColumns, Ne, List.map_eq_nil_iff, List.range_eq_nil]
  omega

/-- Every column of the shop is found in one of its tables. -/
theorem exists_table_of_column : ∀ name ∈ allColumns,
    ∃ table ∈ Schema.shop.tables, Schema.shop.hasColumn table.name (unqualified name) = true := by
  decide +kernel

/-! ## Small forms of generated texts -/

/-- A text of ASCII characters and its small form. -/
def LowersTo (s t : Text) : Prop :=
  (∀ c ∈ s, c.toNat < 0x80) ∧ s.map Char.toLower = t

instance (s t : Text) : Decidable (LowersTo s t) :=
  inferInstanceAs (Decidable (_ ∧ _))

namespace LowersTo

/-- A text that is lowered piece by piece is lowered. -/
theorem lower_eq {s t : Text} (h : LowersTo s t) : Text.lower s = t := by
  rw [LowerCase.lower_of_ascii h.1, h.2]

theorem append {s t s' t' : Text} (h : LowersTo s t) (h' : LowersTo s' t') :
    LowersTo (s ++ s') (t ++ t') := by
  refine ⟨?_, by rw [List.map_append, h.2, h'.2]⟩
  intro c hc
  exact (List.mem_append.mp hc).elim (h.1 c) (h'.1 c)

theorem flatMap {α : Type} {items : List α} {f g : α → Text}
    (h : ∀ item ∈ items, LowersTo (f item) (g item)) :
    LowersTo (items.flatMap f) (items.flatMap g) := by
  induction items with
  | nil => exact ⟨by simp, rfl⟩
  | cons item items ih =>
      rcases List.forall_mem_cons.mp h with ⟨hitem, hitems⟩
      exact hitem.append (ih hitems)

/-- The names of columns are their own small forms. -/
theorem self {s : Text} (hs : ∀ c ∈ s, isQualifiedChar c = true) : LowersTo s s := by
  have hplain : ∀ c ∈ s, LowerCase.IsPlain c := by
    intro c hc
    rcases Bool.or_eq_true_iff.mp (hs c hc) with hname | hdot
    · exact isPlain_of_isNameChar hname
    · rw [beq_iff_eq.mp hdot]
      exact ⟨by decide, by decide⟩
  refine ⟨fun c hc => (hplain c hc).1, ?_⟩
  have hlower : s.map Char.toLower = s.map id := by
    apply List.map_congr_left
    intro c hc
    exact Char.toLower_eq_of_not_isUpper (Bool.eq_false_iff.mp (hplain c hc).2)
  rw [hlower, List.map_id]

theorem select : LowersTo "SELECT ".toList (selectWord ++ [' ']) := by
  decide +kernel

/-- A list of names is its own small form. -/
theorem listed {names : List String} (hnames : ∀ name ∈ names, IsQualified name.toList) :
    LowersTo (Workload.listed names) (Workload.listed names) := by
  have hself : ∀ text ∈ names.map String.toList, LowersTo text text := by
    intro text htext
    rcases List.mem_map.mp htext with ⟨name, hname, rfl⟩
    exact self (hnames name hname).2
  refine ⟨?_, ?_⟩
  · intro c hc
    rcases Text.mem_join hc with hmark | ⟨text, htext, hmem⟩
    · have hcomma : c = ',' ∨ c = ' ' := by simpa using hmark
      rcases hcomma with rfl | rfl <;> decide
    · exact (hself text htext).1 c hmem
  · have hmark : [',', ' '].map Char.toLower = [',', ' '] := by decide
    have htexts : (names.map String.toList).map (fun text => text.map Char.toLower) =
        (names.map String.toList).map id :=
      List.map_congr_left fun text htext => (hself text htext).2
    rw [Workload.listed, Text.map_join, hmark, htexts, List.map_id]

end LowersTo

/-! ## Statements with single spaces -/

/-- The name of a column as a generated query may have it. -/
def IsColumnName (name : String) : Prop :=
  IsQualified name.toList ∧ KeywordFree name.toList

instance (name : String) : Decidable (IsColumnName name) :=
  inferInstanceAs (Decidable (_ ∧ _))

/-- The columns of the shop can be written in a statement. -/
theorem isColumnName_of_mem_allColumns : ∀ name ∈ allColumns, IsColumnName name := by
  decide +kernel

/-- So can the first of them. -/
theorem isColumnName_of_mem_firstColumns {n : Int} {name : String}
    (hname : name ∈ firstColumns n) : IsColumnName name := by
  rcases List.mem_map.mp hname with ⟨i, -, rfl⟩
  exact isColumnName_of_mem_allColumns _ (columnAt_mem i)

/-- Numbered names can be written in a statement if their family can. -/
theorem isColumnName_of_mem_numbered {family name : String} {count : Nat}
    (hfamily : IsColumnName family) (hname : name ∈ numbered family count) :
    IsColumnName name := by
  rcases exists_of_mem_numbered hname with ⟨i, -, rfl⟩
  rcases hfamily with ⟨⟨hne, hchars⟩, hfree⟩
  rw [IsColumnName, String.toList_append, String.toList_ofList]
  refine ⟨⟨by simp [hne], ?_⟩, keywordFree_append_decimalDigits hfree i⟩
  intro c hc
  rcases List.mem_append.mp hc with hc | hc
  · exact hchars c hc
  · exact isQualifiedChar_of_isNameChar (isNameChar_of_mem_decimalDigits hc)

/-- A space stands behind every comma. -/
def Spaced (columns : Columns) : Prop :=
  ∀ next ∈ columns.more, next.gap.text = [' ']

/-- Columns with a space behind every comma, written out. -/
theorem text_of_spaced {columns : Columns} (hspaced : Spaced columns) :
    columns.text = Text.join [',', ' '] (columns.items.map Item.text) := by
  rcases columns with ⟨first, more⟩
  rw [Columns.text, Columns.items]
  induction more generalizing first with
  | nil => rfl
  | cons next more ih =>
      rcases List.forall_mem_cons.mp hspaced with ⟨hnext, hmore⟩
      have hrest := ih next.item hmore
      simp only [List.map_cons] at hrest ⊢
      rw [Columns.textFrom, hrest, hnext, Text.join_cons_cons]

/-- Names in a list with commas are the columns of a statement. -/
theorem exists_columns_listed {names : List String} (hne : names ≠ [])
    (hnames : ∀ name ∈ names, IsColumnName name) :
    ∃ columns : Columns, Spaced columns ∧
      columns.items.map Item.text = names.map String.toList := by
  induction names with
  | nil => contradiction
  | cons name names ih =>
      rcases List.forall_mem_cons.mp hnames with ⟨hname, hrest⟩
      let item : Item := .named ⟨name.toList, hname.1, hname.2⟩
      cases names with
      | nil => exact ⟨⟨item, []⟩, by simp [Spaced], rfl⟩
      | cons second names =>
          rcases ih (List.cons_ne_nil second names) hrest with ⟨⟨first, more⟩, hspaced, hitems⟩
          refine ⟨⟨item, ⟨⟨Spacing.space.text, Spacing.space.blanks.2⟩, by simp [Spacing.space],
            first⟩ :: more⟩, ?_, ?_⟩
          · exact List.forall_mem_cons.mpr ⟨rfl, hspaced⟩
          · rw [List.map_cons, ← hitems]
            rfl

/-- A table joined on equal columns, in the layout of the joins by keys. -/
def equalJoin (table : TableName) (left right : ColumnName) : JoinClause :=
  { nthJoin 0 with table := table, left := left, right := right }

/-- A query for columns of joined tables, with single spaces. -/
def spacedStatement (columns : Columns) (table : TableName) (joins : List JoinClause) :
    Statement where
  afterSelect := .space
  columns := columns
  beforeFrom := .space
  afterFrom := .space
  table := table
  joins := joins
  condition := none
  later := none

/-- The text of a statement without a condition and with single spaces. -/
theorem text_spacedStatement (columns : Columns) (table : TableName) (joins : List JoinClause) :
    (spacedStatement columns table joins).text =
      selectWord ++ ([' '] ++ (columns.text ++ ([' '] ++ (fromWord ++ ([' '] ++ (table.text ++
        joins.flatMap JoinClause.text)))))) := by
  simp [Statement.text, Statement.head, Statement.opening, Statement.closing, spacedStatement,
    Spacing.space]

/-- A query for a list of names, with single spaces, is a query for these columns. -/
theorem projects_of_lower_eq {query : Text} {names : List String} {table : TableName}
    {joins : List JoinClause} (hne : names ≠ []) (hnames : ∀ name ∈ names, IsColumnName name)
    (hquery : Text.lower query =
      selectWord ++ ([' '] ++ (listed names ++ ([' '] ++ (fromWord ++ ([' '] ++ (table.text ++
        joins.flatMap JoinClause.text))))))) :
    Projects query ((table.text :: joins.map fun j => j.table.text).map String.ofList) names := by
  rcases exists_columns_listed hne hnames with ⟨columns, hspaced, hitems⟩
  refine ⟨spacedStatement columns table joins, ?_, fun _ => Iff.rfl, hitems⟩
  rw [hquery, text_spacedStatement, text_of_spaced hspaced, hitems, listed]

end Workload
end QueryAlgebra
