import QueryAlgebra.Proofs.Unreachable

/-!
# Reports of the validation

The check of a query goes through its stages and stops at the first one with something
to report.  Here the report is described by what it says, and not by how it comes about:
one fault for the shape, one for the lack of tables, one for each unknown table in
ascending order, or one for each item of the projection that no table of the query has,
in the order of the items and as often as they occur.  For every query and every schema
there is just one such report, and it is the one that the validation gives.

Main results:

- Theorem `Text.pieces_eq_splitOn`: the pieces of a text are those between its separators.
- Theorem `Report.eq_faultsOf`: no other list than the faults of a query is its report.
- Theorem `exists_report`: every query has a report.
- Theorem `kind_of_message`: the wording of a fault tells its kind.
- Theorem `report_of_query`: the faults of any query, under any schema.
-/

namespace QueryAlgebra

/-! ## Pieces of a text -/

namespace Text

/-- A separator starts a new piece and every other character belongs to the first one. -/
theorem pieces_cons (sep c : Char) (s : Text) :
    pieces sep (c :: s) =
      if c = sep then [] :: pieces sep s else (pieces sep s).modifyHead (c :: ·) := by
  rcases List.exists_cons_of_ne_nil (pieces_ne_nil sep s) with ⟨first, more, hpieces⟩
  rw [pieces, hpieces]
  rfl

/-- The pieces of a text are those between its separators. -/
theorem pieces_eq_splitOn (sep : Char) (s : Text) : pieces sep s = s.splitOn sep := by
  rw [List.splitOn_eq_splitOnP]
  induction s with
  | nil => rfl
  | cons c s ih =>
      rw [pieces_cons, List.splitOnP_cons_eq_if_modifyHead, ih]
      simp

end Text

namespace Query

open Scan Clause

/-! ## What a report says -/

/-- A list has just the names with a property, in ascending order and each once. -/
structure Lists (names : List String) (P : String → Prop) : Prop where
  ascending : names.Pairwise (· < ·)
  nodup : names.Nodup
  mem_iff : ∀ name, name ∈ names ↔ P name

/-- A query in small letters names a table after `from` or `join`. -/
def Extracts (s : Text) (name : String) : Prop :=
  (∃ table, source s = some table ∧ name = String.ofList table) ∨
    ∃ table ∈ joined s, name = String.ofList table

/-- What the items of a projection ask for: each the text behind its last dot, trimmed. -/
def askedColumns (columns : Text) : List Text :=
  (columns.splitOn ',').map fun item => Text.trim ((item.splitOn '.').getLastD [])

/-- An item asks for something other than all columns, and no table has it. -/
def Unanswered (schema : Schema) (tables : List String) (column : Text) : Prop :=
  column ≠ ['*'] ∧ ∀ table ∈ tables, schema.hasColumn table (String.ofList column) = false

instance (schema : Schema) (tables : List String) (column : Text) :
    Decidable (Unanswered schema tables column) :=
  inferInstanceAs (Decidable (_ ∧ _))

/-- The faults are a report on a query in small letters. -/
inductive Report (schema : Schema) (s : Text) : List Fault → Prop where
  /-- The query does not have the shape of one. -/
  | malformed (hform : wellFormed s = false) : Report schema s [.malformed]
  /-- No table is named. -/
  | noTable (hform : wellFormed s = true) (hnone : ∀ name, ¬ Extracts s name) :
      Report schema s [.noTable]
  /-- Some of the named tables are unknown. -/
  | unknownTables (hform : wellFormed s = true) {names : List String} (hne : names ≠ [])
      (hnames : Lists names fun name => Extracts s name ∧ schema.has name = false) :
      Report schema s (names.map .unknownTable)
  /-- All named tables are known, and the items are looked for in them. -/
  | unknownColumns (hform : wellFormed s = true) {tables : List String} {columns : Text}
      (hne : tables ≠ []) (htables : Lists tables (Extracts s))
      (hknown : ∀ table ∈ tables, schema.has table = true)
      (hcolumns : projection s = some columns) :
      Report schema s
        (((askedColumns columns).filter (Unanswered schema tables)).map
          fun column => .unknownColumn (String.ofList column) tables)

/-! ## The faults are the only report -/

/-- There is only one list of the names with a property. -/
theorem Lists.unique {names others : List String} {P : String → Prop} (hnames : Lists names P)
    (hothers : Lists others P) : names = others := by
  apply hnames.ascending.eq_of_mem_iff hothers.ascending
  intro name
  rw [hnames.mem_iff, hothers.mem_iff]

/-- The mentioned tables are the list of the extracted names. -/
theorem lists_mentioned (s : Text) : Lists (mentioned s) (Extracts s) where
  ascending := Names.ascending_pairwise _
  nodup := (Names.ascending_pairwise _).imp ne_of_lt
  mem_iff _ := mem_mentioned

/-- Names that are picked out of a list keep their order. -/
theorem Lists.filter {names : List String} {P : String → Prop} (hnames : Lists names P)
    (p : String → Bool) : Lists (names.filter p) fun name => P name ∧ p name = true where
  ascending := hnames.ascending.filter p
  nodup := hnames.nodup.filter p
  mem_iff name := by rw [List.mem_filter, hnames.mem_iff]

/-- The unknown tables are the list of the extracted names that the schema does not have. -/
theorem lists_unknown (schema : Schema) (s : Text) :
    Lists ((mentioned s).filter fun name => !schema.has name)
      fun name => Extracts s name ∧ schema.has name = false := by
  have hfilter := (lists_mentioned s).filter fun name => !schema.has name
  simpa using hfilter

/-- What stands behind the last separator is the last piece. -/
theorem afterLast_eq (sep : Char) (s : Text) :
    Text.afterLast sep s = (s.splitOn sep).getLastD [] := by
  rw [Text.afterLast, Text.pieces_eq_splitOn, List.getLastD_eq_getLast?]

/-- The column names that are checked are what the items ask for, without stars. -/
theorem columnNames_eq (columns : Text) :
    columnNames columns =
      ((askedColumns columns).filter (· != ['*'])).map String.ofList := by
  simp [columnNames, askedColumns, Text.pieces_eq_splitOn, afterLast_eq]

/-- The column faults are those of the asked columns that no table answers. -/
theorem unknownColumns_eq (schema : Schema) (tables : List String) (columns : Text) :
    (((columnNames columns).filter fun column =>
        !tables.any fun table => schema.hasColumn table column).map (.unknownColumn · tables)) =
      ((askedColumns columns).filter (Unanswered schema tables)).map
        fun column => Fault.unknownColumn (String.ofList column) tables := by
  rw [columnNames_eq, List.filter_map, List.filter_filter, List.map_map]
  congr 1
  apply List.filter_congr
  intro column _
  rw [Bool.eq_iff_iff, decide_eq_true_iff, Unanswered]
  simp [and_comm]

/-- No other list than the faults of a query is its report. -/
theorem Report.eq_faultsOf {schema : Schema} {s : Text} {found : List Fault}
    (hreport : Report schema s found) : found = faultsOf schema s := by
  cases hreport with
  | malformed hform => simp [faultsOf, outcomeOf_of_malformed hform]
  | noTable hform hnone =>
      have hempty : mentioned s = [] := by
        rw [List.eq_nil_iff_forall_not_mem]
        intro name hmem
        exact hnone name (mem_mentioned.mp hmem)
      simp [faultsOf, outcomeOf_of_noTable hform hempty]
  | unknownTables hform hne hnames =>
      have heq := hnames.unique (lists_unknown schema s)
      rcases List.exists_mem_of_ne_nil _ hne with ⟨name, hmem⟩
      rcases (hnames.mem_iff name).mp hmem with ⟨hextracts, hunknown⟩
      rw [faultsOf_of_unknown hform ⟨name, mem_mentioned.mpr hextracts, hunknown⟩, heq]
  | unknownColumns hform hne htables hknown hcolumns =>
      have heq := htables.unique (lists_mentioned s)
      subst heq
      rw [faultsOf_of_known hform hne hknown hcolumns, unknownColumns_eq]

/-- Every query has a report. -/
theorem exists_report (schema : Schema) (s : Text) : ∃ found, Report schema s found := by
  by_cases hform : wellFormed s = true
  · by_cases hempty : mentioned s = []
    · refine ⟨_, .noTable hform ?_⟩
      intro name hextracts
      have hmem := mem_mentioned.mpr hextracts
      simp [hempty] at hmem
    · by_cases hunknown : ((mentioned s).filter fun name => !schema.has name) = []
      · have hknown : ∀ table ∈ mentioned s, schema.has table = true := by
          intro table hmem
          simpa using List.filter_eq_nil_iff.mp hunknown table hmem
        rcases leftmost_projection_of_wellFormed hform with ⟨_, _, _, _, -, hleftmost, hfound, -⟩
        rcases Option.isSome_iff_exists.mp hleftmost.found with ⟨columns, hcolumns⟩
        exact ⟨_, .unknownColumns hform hempty (lists_mentioned s) hknown
          (hfound.trans hcolumns)⟩
      · exact ⟨_, .unknownTables hform hunknown (lists_unknown schema s)⟩
  · exact ⟨_, .malformed (by simpa using hform)⟩

/-- The report of a text is its list of faults. -/
theorem report_iff {schema : Schema} {s : Text} {found : List Fault} :
    Report schema s found ↔ found = faultsOf schema s := by
  constructor
  · exact Report.eq_faultsOf
  · rintro rfl
    rcases exists_report schema s with ⟨found, hreport⟩
    rw [← hreport.eq_faultsOf]
    exact hreport

/-! ## Kinds of faults -/

/-- The stages of the validation, each with faults of its own kind. -/
inductive Kind where
  | shape
  | source
  | table
  | projection
  | column
  deriving DecidableEq, Repr

/-- The kind of a fault. -/
def Fault.kind : Fault → Kind
  | malformed => .shape
  | noTable => .source
  | unknownTable _ => .table
  | noProjection => .projection
  | unknownColumn _ _ => .column

/-- How the messages of a kind begin. -/
def Kind.opening : Kind → Text
  | shape => "Erro de ".toList
  | source => "Erro: Ne".toList
  | table => "Erro: Ta".toList
  | projection => "Erro: Nã".toList
  | column => "Erro: Co".toList

theorem prefix_append {opening : Text} {s : String} (hs : opening <+: s.toList) (t : String) :
    opening <+: (s ++ t).toList := by
  rw [String.toList_append]
  exact hs.trans (List.prefix_append _ _)

/-- Every message opens as its kind does. -/
theorem opening_prefix_message (f : Fault) : f.kind.opening <+: f.message.toList := by
  cases f with
  | malformed => decide
  | noTable => decide
  | unknownTable name =>
      have hstart : Kind.opening .table <+: "Erro: Tabela '".toList := by decide
      exact prefix_append (prefix_append hstart _) _
  | noProjection => decide
  | unknownColumn column tables =>
      have hstart : Kind.opening .column <+: "Erro: Coluna '".toList := by decide
      exact prefix_append (prefix_append (prefix_append (prefix_append hstart _) _) _) _

/-- No message of one kind begins as those of another. -/
theorem eq_of_prefix_opening {k l : Kind} (hopening : k.opening <+: l.opening) : k = l := by
  revert hopening
  cases k <;> cases l <;> decide

/-- The wording of a fault tells its kind. -/
theorem kind_of_message {f g : Fault} (hmessage : f.message = g.message) : f.kind = g.kind := by
  have hf := opening_prefix_message f
  rw [hmessage] at hf
  rcases List.prefix_or_prefix_of_prefix hf (opening_prefix_message g) with hfg | hgf
  · exact eq_of_prefix_opening hfg
  · exact (eq_of_prefix_opening hgf).symm

/-- All faults of a report are of one kind. -/
theorem Report.kind_eq {schema : Schema} {s : Text} {found : List Fault}
    (hreport : Report schema s found) {f g : Fault} (hf : f ∈ found) (hg : g ∈ found) :
    f.kind = g.kind := by
  cases hreport with
  | malformed _ => simp_all
  | noTable _ _ => simp_all
  | unknownTables _ _ _ =>
      rcases List.mem_map.mp hf with ⟨_, -, rfl⟩
      rcases List.mem_map.mp hg with ⟨_, -, rfl⟩
      rfl
  | unknownColumns _ _ _ _ _ =>
      rcases List.mem_map.mp hf with ⟨_, -, rfl⟩
      rcases List.mem_map.mp hg with ⟨_, -, rfl⟩
      rfl

/-! ## The faults of any query -/

/--
The faults of any query, under any schema.  The query is valid exactly if there are
none.  They are the one report on the query: on its shape, on the lack of tables, on its
unknown tables, or on the items of its projection if all tables are known.  All of them
are of one kind, which their wording tells.
-/
theorem report_of_query (schema : Schema) (query : Text) :
    (isValid schema query = true ↔ faults schema query = []) ∧
    (∀ found, Report schema (Text.lower query) found ↔ found = faults schema query) ∧
    (∀ f ∈ faults schema query, ∀ g ∈ faults schema query, f.kind = g.kind) ∧
    (∀ f g : Fault, f.message = g.message → f.kind = g.kind) := by
  have hreport : Report schema (Text.lower query) (faults schema query) := report_iff.mpr rfl
  refine ⟨?_, fun _ => report_iff, ?_, fun _ _ => kind_of_message⟩
  · rw [isValid_eq_isEmpty, List.isEmpty_iff]
  · intro f hf g hg
    exact hreport.kind_eq hf hg

/-- A query that names an unknown table three times, and another one once. -/
def repeatedTables : Text :=
  "SELECT x, x FROM b JOIN a JOIN b JOIN b".toList

/-- A table that is joined several times is reported once. -/
theorem report_of_repeatedTables :
    faults .shop repeatedTables = [.unknownTable "a", .unknownTable "b"] ∧
      ∀ f ∈ faults .shop repeatedTables, f.kind = .table := by
  have hform : wellFormed (Text.lower repeatedTables) = true := by decide +kernel
  have hsource : source (Text.lower repeatedTables) = some ['b'] := by decide +kernel
  have hjoined : joined (Text.lower repeatedTables) = [['a'], ['b'], ['b']] := by decide +kernel
  have hnames : Lists ["a", "b"]
      fun name => Extracts (Text.lower repeatedTables) name ∧ Schema.shop.has name = false := by
    refine ⟨by decide, by decide, ?_⟩
    intro name
    have ha : Schema.shop.has "a" = false := by decide +kernel
    have hb : Schema.shop.has "b" = false := by decide +kernel
    simp only [Extracts, hsource, hjoined]
    constructor
    · intro hmem
      rcases List.mem_cons.mp hmem with rfl | hmem
      · exact ⟨Or.inr ⟨['a'], by simp, by decide⟩, ha⟩
      · rw [List.mem_singleton.mp hmem]
        exact ⟨Or.inl ⟨['b'], rfl, by decide⟩, hb⟩
    · rintro ⟨⟨table, htable, rfl⟩ | ⟨table, htable, rfl⟩, -⟩
      · cases htable
        decide
      · revert table
        decide
  rcases report_of_query .shop repeatedTables with ⟨-, hreport, hkind, -⟩
  have hfaults := (hreport _).mp (.unknownTables hform (by simp) hnames)
  refine ⟨hfaults.symm, ?_⟩
  intro f hf
  exact hkind f hf (.unknownTable "a") (hfaults ▸ List.mem_cons_self)

end Query
end QueryAlgebra
