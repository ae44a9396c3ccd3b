import QueryAlgebra.Proofs.ProjectedColumns

/-!
# Families of faulty queries

One query for each kind of fault, of any width: a query without the shape of one, one without
a table, one over many tables that the shop has not, and one for many columns that none of its
tables has.  The unknown tables are reported in ascending order of their names, in which the
tenth of a family comes before the second, while the unknown columns are reported in the order
of the query.  Each name is reported just once, because no two numbers have the same digits.

Main results:

- Theorem `Query.wellFormed_eq_false`: a text without `select` or without `from` is no query.
- Theorem `Query.Unsourced.mentioned_text`: a query without a table mentions none.
- Theorem `Query.Unlinked.mentioned_text`: tables that are joined without conditions are
  mentioned all the same.
- Theorem `outcome_of_unlinked`: the outcome for tables that are all unknown.
- Theorem `outcomes_of_width`: the outcomes for wide queries and for one query of each kind
  of fault, for every width.
-/

namespace QueryAlgebra
namespace Query

open Scan Clause

/-! ## Texts without the shape of a query -/

/-- A text without `select` or without `from` is no query. -/
theorem wellFormed_eq_false {s : Text} (hs : Lacks selectWord s ∨ Lacks fromWord s) :
    wellFormed s = false := by
  rw [Bool.eq_false_iff]
  intro hform
  rw [wellFormed_eq] at hform
  rcases first_isSome_iff.mp hform with ⟨t, hsuffix, hshaped⟩
  rcases exists_cut_of_shapedHere hshaped with ⟨w, columns, v, rest, hcut⟩
  have hselect : selectWord <:+: t := ⟨[], _, by rw [hcut.cut, List.append_assoc]⟩
  have hfrom : fromWord <:+: t :=
    ⟨selectWord ++ (w ++ (columns ++ v)), rest, by rw [hcut.cut]; simp⟩
  rcases hs with hlacks | hlacks
  · exact hlacks (hselect.trans hsuffix.isInfix)
  · exact hlacks (hfrom.trans hsuffix.isInfix)

/-! ## Queries without a table -/

/--
A query with columns, but with something other than a name behind `from`; what stands there
has no further `from`, and no `join`.
-/
structure Unsourced where
  afterSelect : Spacing
  columns : Text
  ne_nil : columns ≠ []
  inline : ∀ c ∈ columns, c ≠ '\n'
  keywordFree : KeywordFree columns
  beforeFrom : Spacing
  afterFrom : Spacing
  /-- The character where a name should start. -/
  mark : Char
  notName : isNameChar mark = false
  notBlank : isBlank mark = false
  rest : Text
  lacksFrom : Lacks fromWord (mark :: rest)
  lacksJoin : Lacks joinWord (mark :: rest)

namespace Unsourced

variable (u : Unsourced)

/-- The written form up to the columns. -/
def opening : Text :=
  selectWord ++ (u.afterSelect.text ++ u.columns)

/-- The written form of the query. -/
def text : Text :=
  u.opening ++ (u.beforeFrom.text ++ (fromWord ++ (u.afterFrom.text ++ u.mark :: u.rest)))

/-- Such a text is well formed. -/
theorem wellFormed_text : wellFormed u.text = true := by
  have hform := wellFormed_append (t := u.rest) u.afterSelect.blanks u.beforeFrom.blanks
    u.afterFrom.blanks u.ne_nil u.inline u.notBlank
  simpa [text, opening] using hform

/-- The columns bring in no keyword but the first. -/
theorem lacks_opening {word : Text} (hword : word ∈ keywords) (hselect : Lacks word selectWord) :
    Lacks word u.opening :=
  lacks_append_spacer (isWord_of_mem_keywords hword) hselect
    (spacer_of_blanks u.afterSelect.blanks) (u.keywordFree word hword)

/-- At the word `from` itself no table is found. -/
theorem sourceHere_eq_none :
    sourceHere (fromWord ++ (u.afterFrom.text ++ u.mark :: u.rest)) = none := by
  have hhalts : Halts isBlank (u.mark :: u.rest) := halts_cons.mpr u.notBlank
  simp [sourceHere, afterBlanks_append u.afterFrom.blanks hhalts, someRun, u.notName]

/-- No table is read. -/
theorem source_text : Clause.source u.text = none := by
  have hblanks := spacer_of_blanks u.beforeFrom.blanks
  -- Behind its first letter the word `from` does not start again, and blanks cut it off.
  have hrest : first sourceHere (['r', 'o', 'm'] ++ u.afterFrom.text ++ u.mark :: u.rest) =
      first sourceHere (u.mark :: u.rest) := by
    have hlacks : Lacks fromWord (['r', 'o', 'm'] ++ (u.afterFrom.text ++ [])) :=
      lacks_append_spacer isWord_fromWord (by decide) (spacer_of_blanks u.afterFrom.blanks)
        (by decide)
    rw [List.append_nil] at hlacks
    have hcut : Cut fromWord (['r', 'o', 'm'] ++ u.afterFrom.text) (u.mark :: u.rest) :=
      cut_of_halts isWord_fromWord (halts_cons.mpr u.notName)
    exact first_append_of_lacks awaits_sourceHere hlacks hcut
  have hfrom : first sourceHere (fromWord ++ (u.afterFrom.text ++ u.mark :: u.rest)) =
      first sourceHere (['r', 'o', 'm'] ++ u.afterFrom.text ++ u.mark :: u.rest) := by
    have hnone := first_cons_of_eq_none (c := 'f') u.sourceHere_eq_none
    rw [List.append_assoc]
    exact hnone
  rw [Clause.source, text,
    first_append_of_lacks awaits_sourceHere (u.lacks_opening (by simp [keywords]) (by decide))
      (cut_of_halts isWord_fromWord (hblanks.halts_name _)),
    first_append_of_lacks awaits_sourceHere (hblanks.lacks isWord_fromWord)
      (cut_of_spacer isWord_fromWord hblanks),
    hfrom, hrest]
  exact first_of_lacks (by decide) awaits_sourceHere u.lacksFrom

/-- No joined table is read. -/
theorem joined_text : Clause.joined u.text = [] := by
  apply all_of_lacks awaits_joinedHere
  exact lacks_append_spacer isWord_joinWord (u.lacks_opening (by simp [keywords]) (by decide))
    (spacer_of_blanks u.beforeFrom.blanks)
    (lacks_append_spacer isWord_joinWord (by decide) (spacer_of_blanks u.afterFrom.blanks)
      u.lacksJoin)

/-- Such a query mentions no table. -/
theorem mentioned_text : mentioned u.text = [] := by
  rw [mentioned, u.source_text, u.joined_text]
  rfl

end Unsourced

/-! ## Queries with tables that are joined without conditions -/

/-- A table that is joined without a condition. -/
structure BareJoin where
  before : Spacing
  afterJoin : Spacing
  table : TableName

/-- The written form of the clause. -/
def BareJoin.text (j : BareJoin) : Text :=
  j.before.text ++ (joinWord ++ (j.afterJoin.text ++ j.table.text))

/-- A search for joined tables reads the table and goes on behind it. -/
theorem BareJoin.joined_append (j : BareJoin) {t : Text} (ht : Separated t) :
    Clause.joined (j.text ++ t) = j.table.text :: Clause.joined t := by
  have hparts : j.text ++ t =
      j.before.text ++ (joinWord ++ (j.afterJoin.text ++ j.table.text) ++ t) := by
    simp [text]
  have hfound : joinedHere (joinWord ++ (j.afterJoin.text ++ j.table.text) ++ t) =
      some (j.table.text, t) :=
    joinedHere_eq_some_iff.mpr
      ⟨j.afterJoin.text, by simp, j.afterJoin.blanks, j.table.isWord, ht.halts_name⟩
  rw [hparts, Clause.joined,
    all_append_of_lacks awaits_joinedHere ((spacer_of_blanks j.before.blanks).lacks isWord_joinWord)
      (cut_of_spacer isWord_joinWord (spacer_of_blanks j.before.blanks)),
    all_append_of_find (by simp [joinWord]) hfound]
  rfl

/-- A query with columns whose tables are joined without conditions. -/
structure Unlinked where
  afterSelect : Spacing
  columns : Text
  ne_nil : columns ≠ []
  inline : ∀ c ∈ columns, c ≠ '\n'
  keywordFree : KeywordFree columns
  beforeFrom : Spacing
  afterFrom : Spacing
  table : TableName
  joins : List BareJoin

namespace Unlinked

variable (u : Unlinked)

/-- The query up to its source table. -/
def outline : Outline where
  afterSelect := u.afterSelect
  columns := u.columns
  keywordFree := u.keywordFree
  beforeFrom := u.beforeFrom
  afterFrom := u.afterFrom
  table := u.table
  joins := []
  closing := []
  separated := separated_nil
  lacksJoin := lacks_joinWord_nil

/-- The written form of the query. -/
def text : Text :=
  u.outline.head ++ u.joins.flatMap BareJoin.text

/-- The tables that the query names. -/
def tableNames : List String :=
  (u.table.text :: u.joins.map fun j => j.table.text).map String.ofList

/-- Joins are separated from what stands before them, and are read one after the other. -/
theorem joined_joins (joins : List BareJoin) :
    Separated (joins.flatMap BareJoin.text) ∧
      Clause.joined (joins.flatMap BareJoin.text) = joins.map fun j => j.table.text := by
  induction joins with
  | nil => exact ⟨separated_nil, rfl⟩
  | cons j joins ih =>
      refine ⟨?_, ?_⟩
      · rw [List.flatMap_cons, BareJoin.text, List.append_assoc]
        exact separated_append j.before.blanks _
      · rw [List.flatMap_cons, j.joined_append ih.1, ih.2, List.map_cons]

/-- The table is read. -/
theorem source_text : Clause.source u.text = some u.table.text :=
  u.outline.source_head_append (joined_joins u.joins).1

/-- The joined tables are read. -/
theorem joined_text : Clause.joined u.text = u.joins.map fun j => j.table.text := by
  have hhead : Lacks joinWord u.outline.head :=
    u.outline.lacks_head (by simp [keywords]) (by decide) (by decide)
  have hskip : Clause.joined u.text = Clause.joined (u.joins.flatMap BareJoin.text) :=
    all_append_of_lacks awaits_joinedHere hhead
      (cut_of_halts isWord_joinWord (joined_joins u.joins).1.halts_name)
  rw [hskip, (joined_joins u.joins).2]

theorem wellFormed_text : wellFormed u.text = true := by
  rcases List.exists_cons_of_ne_nil u.table.isWord.1 with ⟨c, name, hname⟩
  have hblank : isBlank c = false := by
    have hstart := halts_blank_word u.table.isWord []
    rw [hname, List.cons_append, halts_cons] at hstart
    exact hstart
  have hread := wellFormed_append (t := name ++ u.joins.flatMap BareJoin.text)
    u.afterSelect.blanks u.beforeFrom.blanks u.afterFrom.blanks u.ne_nil u.inline hblank
  simpa [text, Outline.head, Outline.opening, outline, hname] using hread

/-- The mentioned tables of the query are those that it names. -/
theorem mentioned_text : mentioned u.text = Names.ascending u.tableNames := by
  rw [mentioned, u.source_text, u.joined_text, tableNames]
  rfl

end Unlinked
end Query

namespace Workload

open Scan Clause Query

/-! ## Outcomes for each kind of fault -/

/-- A text without `select` or without `from` is refused for its shape. -/
theorem outcome_of_shapeless {query : Text}
    (hquery : Lacks selectWord (Text.lower query) ∨ Lacks fromWord (Text.lower query)) :
    outcome query = ⟨false, [Fault.malformed.message]⟩ := by
  rw [outcome, check, outcomeOf_of_malformed (wellFormed_eq_false hquery)]
  rfl

/-- A query without a table is refused for that. -/
theorem outcome_of_unsourced {query : Text} {u : Unsourced} (hquery : Text.lower query = u.text) :
    outcome query = ⟨false, [Fault.noTable.message]⟩ := by
  rw [outcome, check, hquery, outcomeOf_of_noTable u.wellFormed_text u.mentioned_text]
  rfl

/-- The messages that the schema has none of the tables. -/
def tableMessages (tables : List String) : List String :=
  tables.map fun table => (Fault.unknownTable table).message

/-- Tables that are all unknown are reported in ascending order. -/
theorem outcome_of_unlinked {query : Text} {u : Unlinked} (hquery : Text.lower query = u.text)
    (hnodup : u.tableNames.Nodup)
    (hunknown : ∀ table ∈ u.tableNames, Schema.shop.has table = false) :
    ∃ names, names.Perm u.tableNames ∧ names.Pairwise (· < ·) ∧
      outcome query = ⟨false, tableMessages names⟩ := by
  have hmem : ∀ table, table ∈ mentioned u.text ↔ table ∈ u.tableNames := by
    intro table
    rw [u.mentioned_text, Names.mem_ascending]
  have hascending : (mentioned u.text).Pairwise (· < ·) := Names.ascending_pairwise _
  have hfilter : ((mentioned u.text).filter fun table => !Schema.shop.has table) =
      mentioned u.text := by
    rw [List.filter_eq_self]
    intro table htable
    simp [hunknown table ((hmem table).mp htable)]
  have hfirst : String.ofList u.table.text ∈ u.tableNames := List.mem_cons_self
  have houtcome : check .shop query = ⟨false, (mentioned u.text).map .unknownTable⟩ := by
    rw [check, hquery, outcomeOf_of_unknown u.wellFormed_text
      ⟨_, (hmem _).mpr hfirst, hunknown _ hfirst⟩, hfilter]
  refine ⟨mentioned u.text, ?_, hascending, ?_⟩
  · exact (List.perm_ext_iff_of_nodup (hascending.imp ne_of_lt) hnodup).mpr hmem
  · rw [outcome, houtcome, Outcome.ofCheck, tableMessages, List.map_map]
    rfl

example : Names.ascending ["tabela2", "naoexiste", "tabela10"] =
    ["naoexiste", "tabela10", "tabela2"] := by
  decide +kernel

/-! ## Outcomes for queries over the whole shop -/

/-- The names of the tables of the shop. -/
def shopTables : List String :=
  Schema.shop.tables.map Table.name

theorem has_of_mem_shopTables : ∀ table ∈ shopTables, Schema.shop.has table = true := by
  decide +kernel

example : Schema.shop.names =
    ["cliente", "fornecedor", "itempedido", "pedido", "produto", "produtofornecedor"] := by
  decide +kernel

/-- Over all tables of the shop, only the columns behind those of the shop are reported. -/
theorem outcome_of_shopTables {query : Text} {n : Int} {unknown : List String}
    (hquery : Projects query shopTables (firstColumns n ++ unknown))
    (hunknown : ∀ name ∈ unknown, Unfound .shop shopTables name) :
    outcome query =
      ⟨unknown.isEmpty, columnMessages Schema.shop.names (unknown.map unqualified)⟩ := by
  refine outcome_of_projects hquery has_of_mem_shopTables ?_ hunknown
  intro name hname
  rcases List.mem_map.mp hname with ⟨i, -, rfl⟩
  rcases exists_table_of_column _ (columnAt_mem i) with ⟨t, ht, hcolumn⟩
  exact not_unfound_of_hasColumn (List.mem_map_of_mem ht) hcolumn

/-- The columns of the shop are all found. -/
theorem outcome_of_firstColumns {query : Text} {n : Int}
    (hquery : Projects query shopTables (firstColumns n)) : outcome query = ⟨true, []⟩ := by
  rw [← List.append_nil (firstColumns n)] at hquery
  exact outcome_of_shopTables hquery (by simp)

/-- A family of columns that the shop has not is reported in the order of its numbers. -/
theorem outcome_of_family {query : Text} {n : Int} {family : String} {count : Nat}
    (hquery : Projects query shopTables (firstColumns n ++ numbered family count))
    (hcount : 0 < count) (hfamily : StartsNoColumn .shop (unqualified family)) :
    outcome query =
      ⟨false, columnMessages Schema.shop.names (numbered (unqualified family) count)⟩ := by
  have hsome : (numbered family count).isEmpty = false :=
    List.isEmpty_eq_false_iff.mpr (numbered_ne_nil family hcount)
  rw [outcome_of_shopTables hquery fun _ => unfound_numbered shopTables hfamily,
    map_unqualified_numbered, hsome]

/-! ## Tables that the shop has not -/

/-- The shop has no table of a family, if none of its tables starts with the family's name. -/
theorem has_numbered_eq_false {schema : Schema} {family table : String} {count : Nat}
    (hfamily : ∀ t ∈ schema.tables, ¬ family.toList <+: t.name.toList)
    (htable : table ∈ numbered family count) : schema.has table = false := by
  rcases exists_of_mem_numbered htable with ⟨i, -, rfl⟩
  rw [Bool.eq_false_iff]
  intro hhas
  rcases Schema.exists_of_has hhas with ⟨t, ht, hname⟩
  apply hfamily t ht
  rw [hname, String.toList_append]
  exact List.prefix_append _ _

/-- A table and a family of tables that the shop has not. -/
def strangers (count : Nat) : List String :=
  "naoexiste" :: numbered "tabela" count

theorem strangers_nodup (count : Nat) : (strangers count).Nodup := by
  refine List.nodup_cons.mpr ⟨?_, numbered_nodup "tabela" count⟩
  intro hmem
  rcases exists_of_mem_numbered hmem with ⟨i, -, hname⟩
  have hstart : "tabela".toList <+: "naoexiste".toList := by
    rw [hname, String.toList_append]
    exact List.prefix_append _ _
  revert hstart
  decide +kernel

/-- No stranger is in the schema. -/
theorem has_of_mem_strangers {count : Nat} {table : String} (htable : table ∈ strangers count) :
    Schema.shop.has table = false := by
  rcases List.mem_cons.mp htable with rfl | hmem
  · decide +kernel
  · exact has_numbered_eq_false (by decide +kernel) hmem

/-! ## Generated queries over the whole shop -/

theorem loose_names : ∀ t ∈ Schema.shop.tables,
    IsQualified (t.name.toList ++ ['.', 'y']) ∧ KeywordFree (t.name.toList ++ ['.', 'y']) := by
  decide +kernel

/-- A table of the shop joined onto the customers by columns that there need not be. -/
def looseJoin (i : Nat) : JoinClause :=
  equalJoin (nthTable (i + 1)) ⟨"cliente.x".toList, by decide +kernel, by decide +kernel⟩
    ⟨(tableAt (i + 1)).name.toList ++ ['.', 'y'], (loose_names _ (tableAt_mem (i + 1))).1,
      (loose_names _ (tableAt_mem (i + 1))).2⟩

/-- All tables of the shop but the first one, joined onto that. -/
def looseJoins : List JoinClause :=
  (List.range 5).map looseJoin

/-- The names of a projecting query are what it projects. -/
theorem projects_projecting {names : List String} (hne : names ≠ [])
    (hnames : ∀ name ∈ names, IsColumnName name) :
    Projects (projecting names) shopTables names := by
  have htables : ((nthTable 0).text :: looseJoins.map fun j => j.table.text).map String.ofList =
      shopTables := by
    decide +kernel
  have hclosing : LowersTo (" FROM ".toList ++ allTables) ([' '] ++ (fromWord ++ ([' '] ++
      ((nthTable 0).text ++ looseJoins.flatMap JoinClause.text)))) := by
    decide +kernel
  have hcolumns : LowersTo (listed names) (listed names) :=
    LowersTo.listed fun name hname => (hnames name hname).1
  have hparts : projecting names = "SELECT ".toList ++ listed names ++
      (" FROM ".toList ++ allTables) :=
    List.append_assoc _ _ _
  rw [← htables]
  apply projects_of_lower_eq hne hnames
  rw [hparts, ((LowersTo.select.append hcolumns).append hclosing).lower_eq]
  simp only [List.append_assoc]

/-- A wide query projects columns of the shop and then false ones. -/
theorem projects_wideSelect {n : Int} (hn : 1 ≤ n) (bad : Int) :
    Projects (wideSelect n bad) shopTables
      (firstColumns n ++ numbered "bogus.doesnotexist" bad.toNat) := by
  apply projects_projecting (List.append_ne_nil_of_left_ne_nil (firstColumns_ne_nil hn) _)
  intro name hname
  rcases List.mem_append.mp hname with hname | hname
  · exact isColumnName_of_mem_firstColumns hname
  · exact isColumnName_of_mem_numbered (by decide +kernel) hname

/-- A wide query without other columns is valid. -/
theorem outcome_wideSelect {n : Int} (hn : 1 ≤ n) : outcome (wideSelect n 0) = ⟨true, []⟩ := by
  have hquery := projects_wideSelect hn 0
  rw [show numbered "bogus.doesnotexist" (0 : Int).toNat = [] from rfl,
    List.append_nil] at hquery
  exact outcome_of_firstColumns hquery

/-- A query for unknown columns projects them. -/
theorem projects_unknownColumns {n : Int} (hn : 1 ≤ n) :
    Projects (unknownColumns n) shopTables (numbered "nosuchcol" n.toNat) := by
  have hne : numbered "nosuchcol" n.toNat ≠ [] := numbered_ne_nil _ (by omega)
  exact projects_projecting hne fun _ => isColumnName_of_mem_numbered (by decide +kernel)

/-! ## Generated queries over unknown tables -/

/-- The name of a table of the family. -/
def strangerName (i : Nat) : TableName where
  text := "tabela".toList ++ decimalDigits i
  isWord := by
    refine ⟨List.append_ne_nil_of_left_ne_nil (by decide +kernel) _, ?_⟩
    intro c hc
    rcases List.mem_append.mp hc with hc | hc
    · have hletters : IsWord "tabela".toList := by decide +kernel
      exact hletters.2 c hc
    · exact isNameChar_of_mem_decimalDigits hc
  keywordFree := keywordFree_append_decimalDigits (by decide +kernel) i

/-- A table of the family, joined without a condition. -/
def strangerJoin (i : Nat) : BareJoin :=
  ⟨.space, .space, strangerName i⟩

/-- The unknown table onto which the family is joined. -/
def strangerBase : TableName :=
  ⟨"naoexiste".toList, by decide +kernel, by decide +kernel⟩

/-- What stands before the joins in the generated query. -/
def strangerOpening : Text :=
  "SELECT x FROM naoexiste".toList

/-- The query over a number of unknown tables. -/
def strangerQuery (count : Nat) : Unlinked where
  afterSelect := .space
  columns := ['x']
  ne_nil := by decide
  inline := by decide
  keywordFree := by decide
  beforeFrom := .space
  afterFrom := .space
  table := strangerBase
  joins := (List.range count).map strangerJoin

/-- The tables of the query for strangers are the strangers. -/
theorem tableNames_strangerQuery (count : Nat) :
    (strangerQuery count).tableNames = strangers count := by
  have hfirst : String.ofList strangerBase.text = "naoexiste" := String.ofList_toList
  have hjoined : (((List.range count).map strangerJoin).map fun j => j.table.text).map
      String.ofList = numbered "tabela" count := by
    rw [List.map_map, List.map_map, numbered]
    apply List.map_congr_left
    intro i _
    exact String.ofList_append.trans (congrArg (· ++ _) String.ofList_toList)
  rw [Unlinked.tableNames, List.map_cons, strangers, ← hjoined, ← hfirst]
  rfl

/-- The clause that joins an unknown table, with the blank before it. -/
theorem lowersTo_strangerClause (i : Nat) :
    LowersTo ([' '] ++ ("JOIN ".toList ++ (strangerName i).text)) (strangerJoin i).text := by
  have hjoin : LowersTo ([' '] ++ "JOIN ".toList) ([' '] ++ (joinWord ++ [' '])) := by
    decide +kernel
  have hname : LowersTo (strangerName i).text (strangerName i).text :=
    LowersTo.self fun c hc => isQualifiedChar_of_isNameChar ((strangerName i).isWord.2 c hc)
  have hwhole := hjoin.append hname
  rw [List.append_assoc, List.append_assoc, List.append_assoc] at hwhole
  exact hwhole

/-- The clauses of the generated query, each with the blank before it. -/
theorem space_append_clauses {count : Nat} (hcount : 0 < count) :
    [' '] ++ Text.join [' ']
      ((numbered "tabela" count).map fun name => "JOIN ".toList ++ name.toList) =
        (List.range count).flatMap fun i =>
          [' '] ++ ("JOIN ".toList ++ (strangerName i).text) := by
  have hne : (numbered "tabela" count).map (fun name => "JOIN ".toList ++ name.toList) ≠ [] := by
    rw [Ne, List.map_eq_nil_iff]
    exact numbered_ne_nil _ hcount
  rcases List.exists_cons_of_ne_nil hne with ⟨first, more, hcons⟩
  rw [hcons, Joining.space_append_join, ← hcons, List.flatMap_map]
  exact flatMap_numbered "tabela" count fun name => [' '] ++ ("JOIN ".toList ++ name)

/-- The written form of the query over unknown tables, piece by piece. -/
theorem text_strangerQuery (count : Nat) :
    (strangerQuery count).text =
      selectWord ++ ([' '] ++ (['x'] ++ ([' '] ++ (fromWord ++ ([' '] ++ strangerBase.text))))) ++
        (List.range count).flatMap fun i => (strangerJoin i).text := by
  simp [Unlinked.text, Unlinked.outline, Outline.head, Outline.opening, strangerQuery,
    Spacing.space, List.flatMap_map]

/-- The small form of the generated query, from the first joined table on. -/
theorem lower_unknownTables {n : Int} (hn : 1 ≤ n) :
    Text.lower (unknownTables n) = (strangerQuery n.toNat).text := by
  have hopening : LowersTo strangerOpening (selectWord ++ ([' '] ++ (['x'] ++ ([' '] ++
      (fromWord ++ ([' '] ++ strangerBase.text)))))) := by
    decide +kernel
  have hjoins : LowersTo
      ((List.range n.toNat).flatMap fun i => [' '] ++ ("JOIN ".toList ++ (strangerName i).text))
      ((List.range n.toNat).flatMap fun i => (strangerJoin i).text) :=
    LowersTo.flatMap fun i _ => lowersTo_strangerClause i
  have hblank : "SELECT x FROM naoexiste ".toList = strangerOpening ++ [' '] := by
    decide +kernel
  have hquery : unknownTables n = strangerOpening ++
      (List.range n.toNat).flatMap fun i =>
        [' '] ++ ("JOIN ".toList ++ (strangerName i).text) :=
    calc
      unknownTables n = strangerOpening ++ [' '] ++ Text.join [' ']
          ((numbered "tabela" n.toNat).map fun name => "JOIN ".toList ++ name.toList) :=
        congrArg (· ++ _) hblank
      _ = strangerOpening ++ ([' '] ++ Text.join [' ']
          ((numbered "tabela" n.toNat).map fun name => "JOIN ".toList ++ name.toList)) :=
        List.append_assoc _ _ _
      _ = _ := congrArg (strangerOpening ++ ·) (space_append_clauses (by omega))
  rw [hquery, (hopening.append hjoins).lower_eq, text_strangerQuery]

/-! ## Generated queries without shape or table -/

/-- The query without columns does not have the first keyword. -/
theorem lacks_withoutSelect : Lacks selectWord (Text.lower withoutSelect) := by
  decide +kernel

/-- The query with question marks in place of a table. -/
def questioned : Unsourced where
  afterSelect := .space
  columns := ['x']
  ne_nil := by decide
  inline := by decide
  keywordFree := by decide
  beforeFrom := .space
  afterFrom := .space
  mark := '?'
  notName := by decide
  notBlank := by decide
  rest := ['?', '?']
  lacksFrom := by decide
  lacksJoin := by decide

theorem lower_withoutTable : Text.lower withoutTable = questioned.text := by
  decide +kernel

/-! ## Outcomes for every width -/

/-- The outcomes for a wide query, without and with a family of other columns. -/
theorem wideOutcomes_eq {n : Int} (hn : 1 ≤ n) :
    wideOutcomes n = (⟨true, []⟩, ⟨false, columnMessages Schema.shop.names
      (numbered "doesnotexist" (max 1 (n / 8)).toNat)⟩) := by
  have hbogus : unqualified "bogus.doesnotexist" = "doesnotexist" := by decide +kernel
  have hfaulty := outcome_of_family (projects_wideSelect hn (max 1 (n / 8))) (by omega)
    (by decide +kernel)
  rw [hbogus] at hfaulty
  rw [wideOutcomes, outcome_wideSelect hn, hfaulty]

end Workload
end QueryAlgebra
