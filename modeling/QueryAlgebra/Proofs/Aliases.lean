import QueryAlgebra.Proofs.SingleColumn
import QueryAlgebra.Proofs.Pieces

/-!
# Aliases

The items of a projection may be qualified by tables, may ask for all columns, and may
be given an alias.  The validation takes what stands behind the last dot of an item for
its column, so a qualifier does not count; but it leaves an alias where it is.  The text
of a column and its alias contains blanks, which the name of no column does, and so every
item with an alias is reported as a column that there is not.

Main results:

- Theorem `trim_afterLast_text`: what the validation takes for the column of an item.
- Theorem `columnNames_writtenItems`: the column names of a list of items.
- Theorem `faults_of_aliased`: a valid query has, under any choice of aliases, one fault
  for each item with an alias.
-/

namespace QueryAlgebra
namespace Query

open Scan Clause

/-! ## Items of a projection -/

/-- An item of a projection: a column or all columns, with the tables that qualify it. -/
structure SelectItem where
  qualifiers : List TableName
  /-- The column, or nothing if all columns are asked for. -/
  column : Option TableName
  /-- The alias, if there is one. -/
  label : Option TableName

namespace SelectItem

/-- What stands between an item and its alias. -/
def asMark : Text :=
  [' ', 'a', 's', ' ']

/-- The tables that qualify an item, each with a dot behind it. -/
def qualifierText (i : SelectItem) : Text :=
  i.qualifiers.flatMap fun q => q.text ++ ['.']

/-- The column of an item, or a star. -/
def target (i : SelectItem) : Text :=
  i.column.elim ['*'] TableName.text

/-- The alias of an item as it is written behind the column. -/
def labelText (i : SelectItem) : Text :=
  i.label.elim [] fun a => asMark ++ a.text

/-- The column of an item together with the alias. -/
def asked (i : SelectItem) : Text :=
  i.target ++ i.labelText

/-- The written form of an item. -/
def text (i : SelectItem) : Text :=
  i.qualifierText ++ i.asked

/-- The item without its alias. -/
def unlabelled (i : SelectItem) : SelectItem :=
  { i with label := none }

end SelectItem

/-- The written form of a list of items. -/
def writtenItems (items : List SelectItem) : Text :=
  Text.join [',', ' '] (items.map SelectItem.text)

/-- A query for items of a table. -/
def selectText (items : List SelectItem) (table : TableName) : Text :=
  columnText (writtenItems items) table.text

/-! ## Items as texts -/

namespace SelectItem

variable (i : SelectItem)

@[simp] theorem target_ne_nil : i.target ≠ [] := by
  unfold target
  cases i.column with
  | none => simp
  | some name => exact name.isWord.1

theorem not_blank_target : ∀ c ∈ i.target, isBlank c = false := by
  unfold target
  cases i.column with
  | none => decide
  | some name => exact not_blank_of_isWord name.isWord

/-- A text that an item ends with does not end with a blank. -/
theorem halts_end_asked : Halts isBlank i.asked.reverse := by
  have hend : ∀ u v : Text, v ≠ [] → (∀ c ∈ v, isBlank c = false) →
      Halts isBlank (u ++ v).reverse := by
    intro u v hne hv
    rw [List.reverse_append]
    refine (halts_of_forall ?_).append (by simpa using hne) _
    intro c hc
    exact hv c (List.mem_reverse.mp hc)
  unfold asked labelText
  cases i.label with
  | none => simpa using hend [] i.target i.target_ne_nil i.not_blank_target
  | some a =>
      rw [Option.elim_some, ← List.append_assoc]
      exact hend _ _ a.isWord.1 (not_blank_of_isWord a.isWord)

theorem halts_start_asked : Halts isBlank i.asked :=
  (halts_of_forall i.not_blank_target).append i.target_ne_nil i.labelText

/-- What is looked up has no blank at its ends. -/
theorem trimmed_asked : Trimmed i.asked :=
  ⟨i.halts_start_asked, i.halts_end_asked⟩

/-- An item consists of characters of qualified names, stars and spaces. -/
theorem mem_text {c : Char} (hc : c ∈ i.text) :
    isQualifiedChar c = true ∨ c = '*' ∨ c = ' ' := by
  have hname : ∀ (name : TableName) (d : Char), d ∈ name.text → isQualifiedChar d = true := by
    intro name d hd
    exact isQualifiedChar_of_isNameChar (name.isWord.2 d hd)
  simp only [text, asked, qualifierText, List.mem_append, List.mem_flatMap,
    List.mem_singleton] at hc
  rcases hc with ⟨q, -, hc | rfl⟩ | hc | hc
  · exact Or.inl (hname q c hc)
  · exact Or.inl (by decide)
  · unfold target at hc
    cases hcolumn : i.column with
    | none =>
        rw [hcolumn] at hc
        exact Or.inr (Or.inl (List.mem_singleton.mp hc))
    | some name =>
        rw [hcolumn] at hc
        exact Or.inl (hname name c hc)
  · unfold labelText at hc
    cases hlabel : i.label with
    | none =>
        rw [hlabel] at hc
        exact absurd hc List.not_mem_nil
    | some a =>
        rw [hlabel, Option.elim_some, List.mem_append] at hc
        rcases hc with hc | hc
        · have hmark : ∀ d ∈ asMark, isQualifiedChar d = true ∨ d = '*' ∨ d = ' ' := by decide
          exact hmark c hc
        · exact Or.inl (hname a c hc)

theorem inline_text : ∀ c ∈ i.text, c ≠ '\n' := by
  rintro c hc rfl
  have hclass := i.mem_text hc
  revert hclass
  decide

/-- An item is not divided. -/
theorem comma_not_mem_text : ',' ∉ i.text := by
  intro hc
  have hclass := i.mem_text hc
  revert hclass
  decide

/-- What is looked up has no dot in it, so it names a column and no table. -/
theorem dot_not_mem_asked : '.' ∉ i.asked := by
  have hword : ∀ name : TableName, '.' ∉ name.text := by
    intro name hmem
    have hname := name.isWord.2 '.' hmem
    contradiction
  simp only [asked, target, labelText, List.mem_append, not_or]
  constructor
  · cases i.column with
    | none => decide
    | some name => exact hword name
  · cases i.label with
    | none => exact List.not_mem_nil
    | some a =>
        rw [Option.elim_some, List.mem_append, not_or]
        exact ⟨by decide, hword a⟩

theorem keywordFree_target : KeywordFree i.target := by
  unfold target
  cases i.column with
  | none =>
      intro word hword
      have hstar : Spacer ['*'] := by simp [Spacer, isNameChar]
      exact hstar.lacks (isWord_of_mem_keywords hword)
  | some name => exact name.keywordFree

/-- What is looked up contains no keyword. -/
theorem keywordFree_asked : KeywordFree i.asked := by
  unfold asked labelText
  cases i.label with
  | none => simpa using i.keywordFree_target
  | some a =>
      intro word hword
      have hw := isWord_of_mem_keywords hword
      have has : ∀ k ∈ keywords, Lacks k ['a', 's'] := by decide
      have halias : Lacks word (['a', 's'] ++ ([' '] ++ a.text)) :=
        lacks_append_spacer hw (has word hword) spacer_space (a.keywordFree word hword)
      have hparts : asMark ++ a.text = [' '] ++ (['a', 's'] ++ ([' '] ++ a.text)) := rfl
      rw [Option.elim_some, hparts]
      exact lacks_append_spacer hw (i.keywordFree_target word hword) spacer_space halias

/-- No keyword occurs in an item. -/
theorem keywordFree_text : KeywordFree i.text := by
  have hqualified : ∀ qualifiers : List TableName,
      KeywordFree (qualifiers.flatMap (fun q => q.text ++ ['.']) ++ i.asked) := by
    intro qualifiers word hword
    have hw := isWord_of_mem_keywords hword
    have hdot : Spacer ['.'] := by simp [Spacer, isNameChar]
    induction qualifiers with
    | nil => exact i.keywordFree_asked word hword
    | cons q qualifiers ih =>
        rw [List.flatMap_cons, List.append_assoc, List.append_assoc]
        exact lacks_append_spacer hw (q.keywordFree word hword) hdot ih
  exact hqualified i.qualifiers

@[simp] theorem text_ne_nil : i.text ≠ [] := by
  simp [text, asked]

theorem trimmed_text : Trimmed i.text := by
  constructor
  · cases hqualifiers : i.qualifiers with
    | nil => simpa [text, qualifierText, hqualifiers] using i.halts_start_asked
    | cons q qualifiers =>
        have hstart := halts_blank_word q.isWord
          (['.'] ++ (qualifiers.flatMap (fun q => q.text ++ ['.']) ++ i.asked))
        simpa [text, qualifierText, hqualifiers] using hstart
  · have hne : i.asked.reverse ≠ [] := by simp [asked]
    rw [text, List.reverse_append]
    exact i.halts_end_asked.append hne _

/-- The validation takes what stands behind the last dot, alias included, for the column. -/
theorem trim_afterLast_text (gap : Gap) :
    Text.trim (Text.afterLast '.' (gap.text ++ i.text)) = i.asked := by
  have hdot : '.' ∉ gap.text := by
    intro hmem
    have hblank := gap.blank '.' hmem
    contradiction
  rw [text, ← List.append_assoc, Text.afterLast_append _ i.dot_not_mem_asked]
  -- Either the last qualifier ends with the last dot, or the gap stands before the column.
  rcases List.eq_nil_or_concat i.qualifiers with hnil | ⟨front, last, hlast⟩
  · rw [qualifierText, hnil, List.flatMap_nil, List.append_nil, Text.afterLast_of_not_mem hdot,
      Text.trim, Text.trimStart, List.dropWhile_append_of_pos gap.blank]
    exact i.trimmed_asked.trim_eq
  · have hcut : gap.text ++ i.qualifierText =
        (gap.text ++ (front.flatMap (fun q => q.text ++ ['.']) ++ last.text)) ++ '.' :: [] := by
      simp [qualifierText, hlast]
    rw [hcut, Text.afterLast_append_sep, Text.afterLast_of_not_mem List.not_mem_nil,
      List.nil_append]
    exact i.trimmed_asked.trim_eq

end SelectItem

/-! ## Lists of items as texts -/

section Lists

variable {items : List SelectItem}

/-- No keyword arises where items stand side by side. -/
theorem keywordFree_writtenItems : KeywordFree (writtenItems items) := by
  intro word hword
  have hw := isWord_of_mem_keywords hword
  have hcomma : Spacer [',', ' '] := by simp [Spacer, isNameChar]
  unfold writtenItems
  induction items with
  | nil => exact hcomma.lacks hw |>.within (List.nil_infix)
  | cons first more ih =>
      cases more with
      | nil => exact first.keywordFree_text word hword
      | cons next more =>
          rw [List.map_cons, List.map_cons, Text.join_cons_cons]
          exact lacks_append_spacer hw (first.keywordFree_text word hword) hcomma ih

/-- Items stand on one line. -/
theorem inline_writtenItems : ∀ c ∈ writtenItems items, c ≠ '\n' := by
  intro c hc
  rcases Text.mem_join hc with hmark | ⟨text, htext, hmem⟩
  · have hcomma : ∀ d ∈ [',', ' '], d ≠ '\n' := by decide
    exact hcomma c hmark
  · rcases List.mem_map.mp htext with ⟨i, -, rfl⟩
    exact i.inline_text c hmem

theorem writtenItems_ne_nil (hitems : items ≠ []) : writtenItems items ≠ [] := by
  rcases List.exists_cons_of_ne_nil hitems with ⟨first, more, rfl⟩
  unfold writtenItems
  cases more with
  | nil => exact first.text_ne_nil
  | cons next more =>
      rw [List.map_cons, List.map_cons, Text.join_cons_cons]
      simp

theorem trimmed_writtenItems (hitems : items ≠ []) : Trimmed (writtenItems items) := by
  rcases List.exists_cons_of_ne_nil hitems with ⟨first, more, rfl⟩
  clear hitems
  induction more generalizing first with
  | nil => exact first.trimmed_text
  | cons next more ih =>
      have hsplit : writtenItems (first :: next :: more) =
          first.text ++ ([',', ' '] ++ writtenItems (next :: more)) :=
        Text.join_cons_cons _ _ _ _
      rw [hsplit]
      refine ⟨first.trimmed_text.1.append first.text_ne_nil _, ?_⟩
      have hne : (writtenItems (next :: more)).reverse ≠ [] := by
        simpa using writtenItems_ne_nil (List.cons_ne_nil next more)
      rw [← List.append_assoc, List.reverse_append]
      exact (ih next).2.append hne _

/-- The column names of a list of items are what the items ask for, without stars. -/
theorem columnNames_writtenItems (hitems : items ≠ []) :
    columnNames (writtenItems items) =
      ((items.map SelectItem.asked).filter (· != ['*'])).map String.ofList := by
  rcases List.exists_cons_of_ne_nil hitems with ⟨first, more, rfl⟩
  have hpieces : Text.pieces ',' (writtenItems (first :: more)) =
      first.text :: (more.map SelectItem.text).map ([' '] ++ ·) := by
    apply Text.pieces_join (by decide)
    intro text htext
    rw [← List.map_cons] at htext
    rcases List.mem_map.mp htext with ⟨i, -, rfl⟩
    exact i.comma_not_mem_text
  have hfirst := first.trim_afterLast_text ⟨[], by simp⟩
  rw [List.nil_append] at hfirst
  have hmore : ∀ i ∈ more, Text.trim (Text.afterLast '.' ([' '] ++ i.text)) = i.asked := by
    intro i _
    exact i.trim_afterLast_text ⟨[' '], by decide⟩
  rw [columnNames, hpieces, List.map_map, List.map_cons, List.map_map, hfirst, List.map_cons]
  congr 3
  exact List.map_congr_left hmore

end Lists

/-! ## Faults of a query for items -/

/-- The outline of a query for items of a table. -/
def selectOutline (items : List SelectItem) (table : TableName) : Outline where
  afterSelect := .space
  columns := writtenItems items
  keywordFree := keywordFree_writtenItems
  beforeFrom := .space
  afterFrom := .space
  table := table
  joins := []
  closing := []
  separated := separated_nil
  lacksJoin := lacks_joinWord_nil

section Faults

variable {schema : Schema} {items : List SelectItem} {table : TableName}

theorem text_selectOutline : (selectOutline items table).text = selectText items table := by
  simp [Outline.text, Outline.head, Outline.opening, selectOutline, Spacing.space, selectText,
    columnText, tableText]

/-- The only table that is mentioned is the one behind `from`. -/
theorem mentioned_selectText :
    mentioned (selectText items table) = [String.ofList table.text] := by
  have hsource := (selectOutline items table).source_text
  have hjoined := (selectOutline items table).joined_text
  rw [text_selectOutline] at hsource hjoined
  rw [mentioned, hsource, hjoined]
  rfl

/-- Such a statement is well formed. -/
theorem wellFormed_selectText (hitems : items ≠ []) :
    wellFormed (selectText items table) = true := by
  rcases List.exists_cons_of_ne_nil table.isWord.1 with ⟨c, more, htable⟩
  have hc : isBlank c = false := by
    apply not_blank_of_isWord table.isWord
    rw [htable]
    exact List.mem_cons_self
  rw [selectText, htable]
  exact wellFormed_append blanks_space blanks_space blanks_space (writtenItems_ne_nil hitems)
    inline_writtenItems hc

/-- The items of the statement are read from it. -/
theorem projection_selectText (hitems : items ≠ []) :
    projection (selectText items table) = some (writtenItems items) :=
  projection_append blanks_space blanks_space (trimmed_writtenItems hitems)
    (writtenItems_ne_nil hitems) inline_writtenItems
    (keywordFree_writtenItems fromWord (by simp [keywords]))

/-- The item asks for something other than all columns, and the table has no such column. -/
def SelectItem.isUnknown (schema : Schema) (table : TableName) (i : SelectItem) : Bool :=
  i.asked != ['*'] && !schema.hasColumn (String.ofList table.text) (String.ofList i.asked)

/-- A query for items of a known table has one fault for each item that the table lacks. -/
theorem faultsOf_selectText (hitems : items ≠ [])
    (hhas : schema.has (String.ofList table.text) = true) :
    faultsOf schema (selectText items table) =
      (items.filter (SelectItem.isUnknown schema table)).map fun i =>
        .unknownColumn (String.ofList i.asked) [String.ofList table.text] := by
  have hknown : ∀ name ∈ mentioned (selectText items table), schema.has name = true := by
    intro name hname
    rw [mentioned_selectText, List.mem_singleton] at hname
    rwa [hname]
  rw [faultsOf_of_known (wellFormed_selectText hitems) (by simp [mentioned_selectText]) hknown
    (projection_selectText hitems), mentioned_selectText, columnNames_writtenItems hitems,
    List.filter_map, List.filter_filter, List.filter_map, List.map_map, List.map_map]
  congr 1
  apply List.filter_congr
  intro i _
  simp [SelectItem.isUnknown, Bool.and_comm]

/-- The table of a valid query is known, and it has what every item asks for. -/
theorem known_of_valid (hitems : items ≠ [])
    (hvalid : faultsOf schema (selectText items table) = []) :
    schema.has (String.ofList table.text) = true ∧
      ∀ i ∈ items, SelectItem.isUnknown schema table i = false := by
  have hhas : schema.has (String.ofList table.text) = true := by
    apply (faultsOf_eq_nil_iff.mp hvalid).2.2.1
    rw [mentioned_selectText]
    exact List.mem_singleton_self _
  rw [faultsOf_selectText hitems hhas, List.map_eq_nil_iff, List.filter_eq_nil_iff] at hvalid
  refine ⟨hhas, ?_⟩
  intro i hi
  simpa using hvalid i hi

end Faults

end Query

namespace Schema

/-- The names of all tables and columns are made of small letters, digits and underscores. -/
def IsWritten (schema : Schema) : Prop :=
  ∀ table ∈ schema.tables, (∀ c ∈ table.name.toList, Clause.isNameChar c = true) ∧
    ∀ column ∈ table.columns, ∀ c ∈ column.toList, Clause.isNameChar c = true

instance (schema : Schema) : Decidable schema.IsWritten :=
  inferInstanceAs (Decidable (∀ table ∈ schema.tables, _))

/-- The columns of a written schema can be written in a statement. -/
theorem IsWritten.of_hasColumn {schema : Schema} (hwritten : schema.IsWritten)
    {table column : String} (hhas : schema.hasColumn table column = true) :
    ∀ c ∈ column.toList, Clause.isNameChar c = true := by
  rcases exists_of_hasColumn hhas with ⟨found, hfound, -, hcolumn⟩
  exact (hwritten found hfound).2 column hcolumn

end Schema

namespace Query

open Scan Clause

/-- An item with an alias asks for a column that no table has. -/
theorem SelectItem.isUnknown_of_label {schema : Schema} (hwritten : schema.IsWritten)
    (table : TableName) {i : SelectItem} {a : TableName} (hlabel : i.label = some a) :
    i.isUnknown schema table = true := by
  have hspace : ' ' ∈ i.asked := by
    simp [asked, labelText, hlabel, asMark]
  have hstar : i.asked ≠ ['*'] := by
    intro heq
    rw [heq] at hspace
    revert hspace
    decide
  have hlacks : schema.hasColumn (String.ofList table.text) (String.ofList i.asked) = false := by
    rw [Bool.eq_false_iff]
    intro hhas
    have hname := hwritten.of_hasColumn hhas ' ' (by rwa [String.toList_ofList])
    contradiction
  simp [isUnknown, hstar, hlacks]

/-- Without an alias an item asks for the same column as before. -/
theorem SelectItem.asked_unlabelled {i : SelectItem} (hlabel : i.label = none) :
    i.unlabelled.asked = i.asked := by
  simp [asked, target, labelText, unlabelled, hlabel]

/--
Aliases are not passed over.  For every schema of written names and every valid query for
items of a table, under any choice of aliases for its items the query has one fault for
each item with an alias, which reports the column together with the alias, in the order
of the items.  So it stays valid only if no item is given an alias.
-/
theorem faults_of_aliased (schema : Schema) (hwritten : schema.IsWritten)
    (items : List SelectItem) (table : TableName) (query aliased : Text)
    (hquery : Text.lower query = selectText (items.map SelectItem.unlabelled) table)
    (haliased : Text.lower aliased = selectText items table)
    (hvalid : isValid schema query = true) :
    faults schema aliased =
        ((items.filter fun i => i.label.isSome).map fun i =>
          .unknownColumn (String.ofList (i.target ++ i.labelText)) [String.ofList table.text]) ∧
      (isValid schema aliased = true ↔ ∀ i ∈ items, i.label = none) := by
  rw [isValid_eq_isEmpty, List.isEmpty_iff, faults, hquery] at hvalid
  have hfaults : faults schema aliased =
      ((items.filter fun i => i.label.isSome).map fun i =>
        .unknownColumn (String.ofList (i.target ++ i.labelText)) [String.ofList table.text]) := by
    rw [faults, haliased]
    by_cases hitems : items = []
    · subst hitems
      exact hvalid
    · rcases known_of_valid (by simpa using hitems) hvalid with ⟨hhas, hknown⟩
      rw [faultsOf_selectText hitems hhas]
      congr 1
      -- Only the items with an alias are unknown, since the others were found before.
      apply List.filter_congr
      intro i hi
      cases hlabel : i.label with
      | some a => exact SelectItem.isUnknown_of_label hwritten table hlabel
      | none =>
          have hplain := hknown i.unlabelled (List.mem_map_of_mem hi)
          rwa [SelectItem.isUnknown, SelectItem.asked_unlabelled hlabel] at hplain
  refine ⟨hfaults, ?_⟩
  rw [isValid_eq_isEmpty, hfaults, List.isEmpty_iff, List.map_eq_nil_iff, List.filter_eq_nil_iff]
  simp

/-- All columns of the customers, and their telephone under an alias and their address without. -/
def contactItems : List SelectItem :=
  [⟨[Statement.customerOrders.table], none, none⟩,
    ⟨[], some ⟨"telefone".toList, by decide, by decide⟩,
      some ⟨"fone".toList, by decide, by decide⟩⟩,
    ⟨[Statement.customerOrders.table], some ⟨"endereco".toList, by decide, by decide⟩, none⟩]

/-- One alias among the items of a valid statement is its only fault. -/
theorem faults_contactItems :
    Schema.shop.IsWritten ∧
      isValid .shop "SELECT cliente.*, telefone, cliente.endereco FROM cliente".toList = true ∧
      faults .shop "SELECT cliente.*, telefone AS fone, cliente.endereco FROM cliente".toList =
        [.unknownColumn "telefone as fone" ["cliente"]] := by
  have hwritten : Schema.shop.IsWritten := by decide +kernel
  have hvalid : isValid .shop "SELECT cliente.*, telefone, cliente.endereco FROM cliente".toList =
      true := by
    decide +kernel
  refine ⟨hwritten, hvalid, ?_⟩
  rw [(faults_of_aliased .shop hwritten contactItems Statement.customerOrders.table _ _
    (by decide +kernel) (by decide +kernel) hvalid).1]
  decide +kernel

/-- A column that can be queried cannot be queried under an alias. -/
theorem aliased_refused :
    isValid .shop "select telefone from cliente".toList = true ∧
      isValid .shop "select telefone as fone from cliente".toList = false ∧
      faults .shop "select telefone as fone from cliente".toList =
        [.unknownColumn "telefone as fone" ["cliente"]] := by
  decide +kernel

end Query
end QueryAlgebra
