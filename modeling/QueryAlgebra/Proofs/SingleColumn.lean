import QueryAlgebra.Proofs.LowerCase
import QueryAlgebra.Proofs.JoinedTables

/-!
# Queries for a single column

The simplest query asks for one column of one table.  Its words are looked for
without regard to where a name begins and ends: a column whose name ends with `from`,
`join` or `where` is followed by a blank, and so looks like the word itself.  The
blank then leads on to the word `from` of the query, which is taken for the name of a
table, or for the start of a condition.  In every other place a name may contain the
words of a query.

Main results:

- Theorem `eq_none_of_ne`: a word that needs a blank behind it is not found in a name
  other than itself.
- Theorems `source_columnText`, `joined_columnText` and `condition_columnText`: the
  clauses of a query for a column, and those of a column with an unlucky name.
- Theorem `column_answered_iff`: which columns can be queried.
-/

namespace QueryAlgebra

/-! ## Words with a blank behind them -/

namespace Scan

/-- The recogniser succeeds only where the word stands with blanks behind it. -/
def AwaitsSpaced {α : Type} (word : Text) (f : Text → Option α) : Prop :=
  ∀ s, (f s).isSome = true → ∃ w rest, s = word ++ (w ++ rest) ∧ Blanks w

/-- What waits for a word with a blank behind it waits for the word. -/
theorem AwaitsSpaced.awaits {α : Type} {word : Text} {f : Text → Option α}
    (hf : AwaitsSpaced word f) : Awaits word f := by
  intro s hs
  rw [← Option.not_isSome_iff_eq_none]
  intro hsome
  rcases hf s hsome with ⟨w, rest, rfl, -⟩
  simp at hs

/-- The search passes over every stretch in which the recogniser fails at all places. -/
def Passes {α β : Type} (f : Text → Option α) (search : Text → β) : Prop :=
  ∀ u t, (∀ v, v <:+ u → v ≠ [] → f (v ++ t) = none) → search (u ++ t) = search t

theorem passes_first {α : Type} (f : Text → Option α) : Passes f (first f) :=
  fun _ _ => first_append_of_none

theorem passes_all {α : Type} (f : Text → Option (α × Text)) : Passes f (all f) :=
  fun _ _ => all_append_of_none

/-- A search passes over a text without the word it waits for. -/
theorem Passes.lacks {α β : Type} {word u t : Text} {f : Text → Option α} {search : Text → β}
    (hsearch : Passes f search) (hf : AwaitsSpaced word f) (hu : Lacks word u)
    (hcut : Cut word u t) : search (u ++ t) = search t := by
  apply hsearch
  intro v hv hne
  exact hf.awaits.eq_none hne (hu.within hv.isInfix) (hcut.suffix hv)

end Scan

namespace Clause

open Scan

/-- What stands between a word and a stop starts with a blank. -/
theorem awaitsSpaced_between (word : Text) (stops : Text → Bool) :
    AwaitsSpaced word (between word stops) := by
  intro s hsome
  rcases Option.isSome_iff_exists.mp hsome with ⟨x, hx⟩
  rcases exists_of_between hx with ⟨w, rest, hcut, hw, -, -⟩
  exact ⟨w, rest, hcut, hw⟩

/-- A table stands behind its keyword and a blank. -/
theorem awaitsSpaced_sourceHere : AwaitsSpaced fromWord sourceHere := by
  intro s hsome
  rcases Option.isSome_iff_exists.mp hsome with ⟨name, hname⟩
  rcases sourceHere_eq_some_iff.mp hname with ⟨w, rest, hcut, hw, -, -⟩
  exact ⟨w, name ++ rest, hcut, hw⟩

/-- A joined table stands behind its keyword and a blank. -/
theorem awaitsSpaced_joinedHere : AwaitsSpaced joinWord joinedHere := by
  intro s hsome
  rcases Option.isSome_iff_exists.mp hsome with ⟨⟨name, rest⟩, hname⟩
  rcases joinedHere_eq_some_iff.mp hname with ⟨w, hcut, hw, -, -⟩
  exact ⟨w, name ++ rest, hcut, hw⟩

section Names

variable {α : Type} {word name t : Text} {f : Text → Option α}

/-- A word that needs a blank behind it is not found in a name other than itself. -/
theorem eq_none_of_ne (hf : AwaitsSpaced word f) (hword : IsWord word)
    (hname : ∀ c ∈ name, isNameChar c = true) (ht : Separated t) (hne : name ≠ word) :
    f (name ++ t) = none := by
  rw [← Option.not_isSome_iff_eq_none]
  intro hsome
  rcases hf _ hsome with ⟨w, rest, hcut, hw⟩
  apply hne
  calc
    name = (name ++ t).takeWhile isNameChar :=
      (takeWhile_append_of_halts hname ht.halts_name).symm
    _ = (word ++ (w ++ rest)).takeWhile isNameChar := by rw [hcut]
    _ = word := takeWhile_append_of_halts hword.2 (separated_append hw rest).halts_name

/-- It is found nowhere in a name that does not end with it. -/
theorem none_of_not_ends (hf : AwaitsSpaced word f) (hword : IsWord word) (hname : IsWord name)
    (ht : Separated t) (hends : ¬ word <:+ name) :
    ∀ v, v <:+ name → v ≠ [] → f (v ++ t) = none := by
  intro v hv _
  apply eq_none_of_ne hf hword (fun c hc => hname.2 c (hv.subset hc)) ht
  rintro rfl
  exact hends hv

/-- In a name that ends with it, it is found nowhere before. -/
theorem none_of_ends {start : Text} (hf : AwaitsSpaced word f) (hword : IsWord word)
    (hname : IsWord (start ++ word)) (ht : Separated t) :
    ∀ v, v <:+ start → v ≠ [] → f (v ++ (word ++ t)) = none := by
  intro v hv hne
  rw [← List.append_assoc]
  refine eq_none_of_ne hf hword ?_ ht ?_
  · intro c hc
    rcases List.mem_append.mp hc with hc | hc
    · exact hname.2 c (List.mem_append_left word (hv.subset hc))
    · exact hname.2 c (List.mem_append_right start hc)
  · intro heq
    exact hne (by simpa using heq)

/-- Nor is it found in a name at the end of a text. -/
theorem none_of_name (hf : AwaitsSpaced word f) (hname : IsWord name) :
    ∀ v, v <:+ name → v ≠ [] → f (v ++ []) = none := by
  intro v hv _
  rw [List.append_nil, ← Option.not_isSome_iff_eq_none]
  intro hsome
  rcases hf _ hsome with ⟨w, rest, rfl, hne, hw⟩
  rcases List.exists_cons_of_ne_nil hne with ⟨b, more, rfl⟩
  have hb := isNameChar_of_isBlank (hw b List.mem_cons_self)
  rw [hname.2 b (hv.subset (by simp))] at hb
  contradiction

end Names

/-! ## The text of a query for a column -/

/-- What stands behind the column in a query for it. -/
def tableText (table : Text) : Text :=
  [' '] ++ (fromWord ++ ([' '] ++ table))

/-- The text of a query for a column of a table. -/
def columnText (column table : Text) : Text :=
  selectWord ++ ([' '] ++ (column ++ tableText table))

theorem blanks_space : Blanks [' '] := by decide

theorem spacer_space : Spacer [' '] :=
  spacer_of_blanks blanks_space

theorem separated_tableText (table : Text) : Separated (tableText table) :=
  separated_append blanks_space _

/-- A query for a column consists of characters of names and spaces. -/
theorem mem_columnText {column table : Text} (hcolumn : IsWord column) (htable : IsWord table)
    {c : Char} (hc : c ∈ columnText column table) : isNameChar c = true ∨ c = ' ' := by
  have hselect : ∀ d ∈ selectWord, isNameChar d = true := by decide
  simp only [columnText, tableText, List.mem_append, List.mem_singleton] at hc
  rcases hc with hc | hc | hc | hc | hc | hc | hc
  · exact Or.inl (hselect c hc)
  · exact Or.inr hc
  · exact Or.inl (hcolumn.2 c hc)
  · exact Or.inr hc
  · exact Or.inl (isWord_fromWord.2 c hc)
  · exact Or.inr hc
  · exact Or.inl (htable.2 c hc)

section Searches

variable {α β : Type} {word column table : Text} {f : Text → Option α} {search : Text → β}

/-- A search passes over a space. -/
theorem search_space (hsearch : Passes f search) (hf : AwaitsSpaced word f) (hword : IsWord word)
    (t : Text) : search ([' '] ++ t) = search t :=
  hsearch.lacks hf (spacer_space.lacks hword) (cut_of_spacer hword spacer_space)

/-- It passes over other words before a space. -/
theorem search_word {u : Text} (hsearch : Passes f search) (hf : AwaitsSpaced word f)
    (hword : IsWord word) (hu : Lacks word u) (t : Text) :
    search (u ++ ([' '] ++ t)) = search t := by
  rw [hsearch.lacks hf hu (cut_of_halts hword (spacer_space.halts_name t)),
    search_space hsearch hf hword]

/-- It passes over a column that does not end with its word. -/
theorem search_columnText (hsearch : Passes f search) (hf : AwaitsSpaced word f)
    (hword : IsWord word) (hselect : Lacks word selectWord) (hcolumn : IsWord column)
    (hends : ¬ word <:+ column) :
    search (columnText column table) = search (tableText table) := by
  rw [columnText, search_word hsearch hf hword hselect]
  exact hsearch _ _ (none_of_not_ends hf hword hcolumn (separated_tableText table) hends)

/-- In a column that ends with its word it goes on at the word. -/
theorem search_columnText_of_ends (hsearch : Passes f search) (hf : AwaitsSpaced word f)
    (hword : IsWord word) (hselect : Lacks word selectWord) (hcolumn : IsWord column)
    (hends : word <:+ column) :
    search (columnText column table) = search (word ++ tableText table) := by
  rcases hends with ⟨start, rfl⟩
  rw [columnText, search_word hsearch hf hword hselect, List.append_assoc]
  exact hsearch _ _ (none_of_ends hf hword hcolumn (separated_tableText table))

/-- It finds nothing in the table at the end. -/
theorem search_table (hsearch : Passes f search) (hf : AwaitsSpaced word f)
    (htable : IsWord table) : search table = search [] := by
  have hskip := hsearch table [] (none_of_name hf htable)
  rwa [List.append_nil] at hskip

/-- Nor does it find anything behind the column, unless it looks for `from`. -/
theorem search_tableText (hsearch : Passes f search) (hf : AwaitsSpaced word f)
    (hword : IsWord word) (hfrom : Lacks word fromWord) (htable : IsWord table) :
    search (tableText table) = search [] := by
  rw [tableText, search_space hsearch hf hword, search_word hsearch hf hword hfrom,
    search_table hsearch hf htable]

end Searches

/-! ## Clauses of the query -/

variable {column table : Text}

theorem not_blank_of_isWord {name : Text} (hname : IsWord name) :
    ∀ c ∈ name, isBlank c = false := by
  intro c hc
  exact isBlank_of_isQualifiedChar (isQualifiedChar_of_isNameChar (hname.2 c hc))

theorem inline_of_isWord {name : Text} (hname : IsWord name) : ∀ c ∈ name, c ≠ '\n' := by
  rintro c hc rfl
  have hblank := hname.2 _ hc
  contradiction

/-- The column is read. -/
theorem projection_columnText (hcolumn : IsWord column) :
    projection (columnText column table) = some column := by
  have hsearch : upTo fromNext (column ++ tableText table) = some column := by
    apply upTo_append (fromNext_append blanks_space _) (inline_of_isWord hcolumn)
    intro v hv hne
    rcases List.exists_cons_of_ne_nil hne with ⟨c, more, rfl⟩
    have hc := not_blank_of_isWord hcolumn c (hv.subset List.mem_cons_self)
    simp [fromNext, afterFrom, afterBlanks, hc]
  exact first_of_eq_some (between_append blanks_space
    (halts_blank_word hcolumn (tableText table)) hsearch)

/-- The query is well formed. -/
theorem wellFormed_columnText (hcolumn : IsWord column) (htable : IsWord table) :
    wellFormed (columnText column table) = true := by
  rcases List.exists_cons_of_ne_nil htable.1 with ⟨c, more, rfl⟩
  exact wellFormed_append blanks_space blanks_space blanks_space hcolumn.1
    (inline_of_isWord hcolumn) (not_blank_of_isWord htable c List.mem_cons_self)

/-- The source is the table, if the column does not end with `from`. -/
theorem source_columnText (hcolumn : IsWord column) (htable : IsWord table)
    (hends : ¬ fromWord <:+ column) : source (columnText column table) = some table := by
  have hsearch := passes_first sourceHere
  rw [source, search_columnText hsearch awaitsSpaced_sourceHere isWord_fromWord (by decide)
    hcolumn hends, tableText, search_space hsearch awaitsSpaced_sourceHere isWord_fromWord]
  exact first_of_eq_some (sourceHere_eq_some_iff.mpr
    ⟨[' '], [], by simp, blanks_space, htable, halts_nil _⟩)

/-- Otherwise it is the word `from` behind the column. -/
theorem source_columnText_of_ends (hcolumn : IsWord column) (hends : fromWord <:+ column) :
    source (columnText column table) = some fromWord := by
  rw [source, search_columnText_of_ends (passes_first sourceHere) awaitsSpaced_sourceHere
    isWord_fromWord (by decide) hcolumn hends]
  exact first_of_eq_some (sourceHere_eq_some_iff.mpr
    ⟨[' '], [' '] ++ table, rfl, blanks_space, isWord_fromWord, spacer_space.halts_name table⟩)

/-- No table is joined, if the column does not end with `join`. -/
theorem joined_columnText (hcolumn : IsWord column) (htable : IsWord table)
    (hends : ¬ joinWord <:+ column) : joined (columnText column table) = [] := by
  have hsearch := passes_all joinedHere
  rw [joined, search_columnText hsearch awaitsSpaced_joinedHere isWord_joinWord (by decide)
    hcolumn hends,
    search_tableText hsearch awaitsSpaced_joinedHere isWord_joinWord (by decide) htable]
  rfl

/-- Otherwise the word `from` behind the column is taken for a joined table. -/
theorem joined_columnText_of_ends (hcolumn : IsWord column) (htable : IsWord table)
    (hends : joinWord <:+ column) : joined (columnText column table) = [fromWord] := by
  have hsearch := passes_all joinedHere
  have hfind : joinedHere (joinWord ++ ([' '] ++ fromWord) ++ ([' '] ++ table)) =
      some (fromWord, [' '] ++ table) :=
    joinedHere_eq_some_iff.mpr ⟨[' '], by simp, blanks_space, isWord_fromWord,
      spacer_space.halts_name table⟩
  have hcut : joinWord ++ tableText table =
      joinWord ++ ([' '] ++ fromWord) ++ ([' '] ++ table) := by simp [tableText]
  rw [joined, search_columnText_of_ends hsearch awaitsSpaced_joinedHere isWord_joinWord
    (by decide) hcolumn hends, hcut, all_append_of_find (by simp [joinWord]) hfind,
    search_space hsearch awaitsSpaced_joinedHere isWord_joinWord,
    search_table hsearch awaitsSpaced_joinedHere htable]
  rfl

/-- There is no condition, if the column does not end with `where`. -/
theorem condition_columnText (hcolumn : IsWord column) (htable : IsWord table)
    (hends : ¬ whereWord <:+ column) : condition (columnText column table) = none := by
  have hsearch := passes_first (between whereWord conditionEnds)
  have hawaits := awaitsSpaced_between whereWord conditionEnds
  rw [condition, search_columnText hsearch hawaits isWord_whereWord (by decide) hcolumn hends,
    search_tableText hsearch hawaits isWord_whereWord (by decide) htable]
  rfl

/-- The words of a later clause have blanks before and between them. -/
theorem lacksLater_of_countP {s : Text} (hs : s.countP isBlank < 2) : LacksLater s := by
  intro word w v _ hw hv hoccurs
  have hblank : ∀ u : Text, Blanks u → 0 < u.countP isBlank := by
    rintro u ⟨hne, hu⟩
    rcases List.exists_cons_of_ne_nil hne with ⟨b, more, rfl⟩
    exact List.countP_pos_iff.mpr ⟨b, List.mem_cons_self, hu b List.mem_cons_self⟩
  have hcount := hoccurs.sublist.countP_le (p := isBlank)
  have hwpos := hblank w hw
  have hvpos := hblank v hv
  simp only [List.countP_append] at hcount
  omega

theorem trimmed_fromTable (htable : IsWord table) : Trimmed (fromWord ++ ([' '] ++ table)) := by
  have hreverse : IsWord table.reverse := by
    refine ⟨by simpa using htable.1, ?_⟩
    intro c hc
    exact htable.2 c (List.mem_reverse.mp hc)
  refine ⟨halts_blank_word isWord_fromWord _, ?_⟩
  have hend := halts_blank_word hreverse (fromWord ++ [' ']).reverse
  simpa using hend

/-- Otherwise all that stands behind the column is taken for a condition. -/
theorem condition_columnText_of_ends (hcolumn : IsWord column) (htable : IsWord table)
    (hends : whereWord <:+ column) :
    condition (columnText column table) = some (fromWord ++ ([' '] ++ table)) := by
  have hinline : ∀ c ∈ fromWord ++ ([' '] ++ table), c ≠ '\n' := by
    intro c hc
    simp only [List.mem_append, List.mem_singleton] at hc
    rcases hc with hc | rfl | hc
    · exact inline_of_isWord isWord_fromWord c hc
    · decide
    · exact inline_of_isWord htable c hc
  have hlater : LacksLater (fromWord ++ ([' '] ++ table)) := by
    have hnone : table.countP isBlank = 0 := by
      rw [List.countP_eq_zero]
      intro c hc
      simp [not_blank_of_isWord htable c hc]
    apply lacksLater_of_countP
    rw [List.countP_append, List.countP_append, hnone]
    decide
  have hread := condition_append (t := []) blanks_space (trimmed_fromTable htable)
    (by simp [fromWord]) hinline hlater (Or.inl rfl)
  rw [List.append_nil] at hread
  rw [condition, search_columnText_of_ends (passes_first (between whereWord conditionEnds))
    (awaitsSpaced_between whereWord conditionEnds) isWord_whereWord (by decide) hcolumn hends]
  exact hread

/-- A text without an operator has no join clauses. -/
theorem joins_eq_nil {s : Text} (hs : ∀ c ∈ s, isOperatorChar c = false) : joins s = [] := by
  rw [List.eq_nil_iff_forall_not_mem]
  intro j hj
  rcases exists_of_mem_all hj with ⟨t, rest, hsuffix, hfound⟩
  rcases exists_append_of_joinHere hfound with ⟨p, -, rfl⟩
  rcases exists_of_joinHere hfound with ⟨-, -, after, -, -, -, hcomparison⟩
  rcases exists_of_comparison hcomparison with
    ⟨left, before, operator, gap, right, hcondition, -, -, -, hoperator, -⟩
  rcases List.exists_cons_of_ne_nil hoperator.1 with ⟨c, more, rfl⟩
  have hc := hs c (hsuffix.subset (by simp [hcondition]))
  rw [hoperator.2 c List.mem_cons_self] at hc
  contradiction

/-- The query has no joins. -/
theorem joins_columnText (hcolumn : IsWord column) (htable : IsWord table) :
    joins (columnText column table) = [] := by
  apply joins_eq_nil
  intro c hc
  rcases mem_columnText hcolumn htable hc with hname | rfl
  · exact isOperatorChar_of_isQualifiedChar (isQualifiedChar_of_isNameChar hname)
  · decide

/-- Words that have no common end do not end the same name. -/
theorem not_ends_of_ends {word other name : Text} (hends : word <:+ name)
    (hword : ¬ word <:+ other) (hother : ¬ other <:+ word) : ¬ other <:+ name := by
  intro hname
  rcases List.suffix_or_suffix_of_suffix hends hname with hsuffix | hsuffix
  · exact hword hsuffix
  · exact hother hsuffix

end Clause

namespace Query

open Scan Clause

/-! ## Names of a schema -/

/-- The words of a query that are no names. -/
def reservedWords : List Text :=
  [selectWord, fromWord, joinWord, onWord, whereWord, groupWord, orderWord, byWord]

/-- The name of a table or of a column. -/
def IsName (name : String) : Prop :=
  IsWord name.toList ∧ name.toList ∉ reservedWords

instance (name : String) : Decidable (IsName name) :=
  inferInstanceAs (Decidable (_ ∧ _))

end Query

namespace Schema

/-- All tables and columns of the schema have names. -/
def IsNamed (schema : Schema) : Prop :=
  ∀ table ∈ schema.tables, Query.IsName table.name ∧ ∀ column ∈ table.columns, Query.IsName column

instance (schema : Schema) : Decidable schema.IsNamed :=
  inferInstanceAs (Decidable (∀ table ∈ schema.tables, _))

variable {schema : Schema} {table column : String}

/-- Tables and columns of a named schema have names. -/
theorem IsNamed.of_hasColumn (hnamed : schema.IsNamed)
    (hhas : schema.hasColumn table column = true) : Query.IsName table ∧ Query.IsName column := by
  rcases exists_of_hasColumn hhas with ⟨found, hfound, rfl, hcolumn⟩
  exact ⟨(hnamed found hfound).1, (hnamed found hfound).2 column hcolumn⟩

/-- The keyword is no table of a named schema. -/
theorem IsNamed.not_has_from (hnamed : schema.IsNamed) : schema.has "from" = false := by
  rw [Bool.eq_false_iff]
  intro hhas
  rcases exists_of_has hhas with ⟨found, hfound, hname⟩
  have hreserved := (hnamed found hfound).1.2
  rw [hname] at hreserved
  exact hreserved (by decide)

theorem has_of_hasColumn (hhas : schema.hasColumn table column = true) :
    schema.has table = true := by
  rw [has]
  rw [hasColumn] at hhas
  cases hcolumns : schema.columns? table with
  | none => simp [hcolumns] at hhas
  | some columns => rfl

end Schema

namespace Query

open Scan Clause

/-! ## Answers to the query -/

theorem isPlain_of_isNameChar {c : Char} (hc : isNameChar c = true) : LowerCase.IsPlain c := by
  have hranges := isQualifiedChar_iff.mp (isQualifiedChar_of_isNameChar hc)
  refine ⟨by omega, ?_⟩
  rw [Bool.eq_false_iff, Ne, LowerCase.isUpper_iff]
  omega

section Answers

variable {schema : Schema} {column table : Text}

/-- A query for a column is written in small letters. -/
theorem lower_columnText (hcolumn : IsWord column) (htable : IsWord table) :
    Text.lower (columnText column table) = columnText column table := by
  apply LowerCase.lower_of_plain
  intro c hc
  rcases mem_columnText hcolumn htable hc with hname | rfl
  · exact isPlain_of_isNameChar hname
  · exact ⟨by decide, by decide⟩

/-- A word is the only column it names. -/
theorem columnNames_of_isWord (hcolumn : IsWord column) :
    columnNames column = [String.ofList column] := by
  have hcomma : ',' ∉ column := by
    intro hmem
    have hname := hcolumn.2 _ hmem
    contradiction
  have hdot : '.' ∉ column := by
    intro hmem
    have hname := hcolumn.2 _ hmem
    contradiction
  have hstar : column ≠ ['*'] := by
    rintro rfl
    have hname := hcolumn.2 '*' (by simp)
    contradiction
  have htrim := (trimmed_of_not_blank (not_blank_of_isWord hcolumn)).trim_eq
  simp [columnNames, Text.pieces_of_not_mem hcomma, Text.afterLast, Text.pieces_of_not_mem hdot,
    htrim, hstar]

/-- A query for a column has no faults, unless the column ends with `from` or `join`. -/
theorem faults_columnText (hcolumn : IsWord column) (htable : IsWord table)
    (hhas : schema.hasColumn (String.ofList table) (String.ofList column) = true)
    (hfrom : ¬ fromWord <:+ column) (hjoin : ¬ joinWord <:+ column) :
    faults schema (columnText column table) = [] := by
  have hmentioned : mentioned (columnText column table) = [String.ofList table] := by
    simp [mentioned, source_columnText hcolumn htable hfrom,
      joined_columnText hcolumn htable hjoin, Names.ascending, Names.insert]
  rw [faults, lower_columnText hcolumn htable, faultsOf_eq_nil_iff, hmentioned]
  refine ⟨wellFormed_columnText hcolumn htable, by simp, ?_, column,
    projection_columnText hcolumn, ?_⟩
  · intro name hname
    rw [List.mem_singleton.mp hname]
    exact Schema.has_of_hasColumn hhas
  · intro name hname
    rw [columnNames_of_isWord hcolumn, List.mem_singleton] at hname
    exact ⟨String.ofList table, by simp, by rwa [hname]⟩

/-- In these cases the word `from` is an unknown table. -/
theorem faults_columnText_of_ends (hcolumn : IsWord column) (htable : IsWord table)
    (hhas : schema.has (String.ofList table) = true) (hunknown : schema.has "from" = false)
    (hends : fromWord <:+ column ∨ joinWord <:+ column) :
    faults schema (columnText column table) = [.unknownTable "from"] := by
  have hword : String.ofList fromWord = "from" := rfl
  -- Besides the word only the table is mentioned, before or behind it.
  have hmentioned : mentioned (columnText column table) = ["from"] ∨
      mentioned (columnText column table) = Names.insert (String.ofList table) ["from"] := by
    rcases hends with hends | hends
    · left
      simp [mentioned, source_columnText_of_ends hcolumn hends, joined_columnText hcolumn htable
        (not_ends_of_ends hends (by decide) (by decide)), Names.ascending, Names.insert, hword]
    · right
      simp [mentioned, source_columnText hcolumn htable
        (not_ends_of_ends hends (by decide) (by decide)),
        joined_columnText_of_ends hcolumn htable hends, Names.ascending, Names.insert, hword]
  have hfilter : ((mentioned (columnText column table)).filter fun name => !schema.has name) =
      ["from"] := by
    rcases hmentioned with hmentioned | hmentioned
    · simp [hmentioned, hunknown]
    · rw [hmentioned, Names.insert]
      split
      · simp [hhas, hunknown]
      · split
        · simp [hunknown]
        · simp [Names.insert, hhas, hunknown]
  have hmem : "from" ∈ mentioned (columnText column table) := by
    apply List.mem_of_mem_filter (p := fun name => !schema.has name)
    rw [hfilter]
    exact List.mem_singleton_self _
  rw [faults, lower_columnText hcolumn htable,
    faultsOf_of_unknown (wellFormed_columnText hcolumn htable) ⟨"from", hmem, hunknown⟩, hfilter]
  rfl

/-- The parts of a query for a column depend on its source and its condition only. -/
theorem parts_columnText (hcolumn : IsWord column) (htable : IsWord table) :
    parts (columnText column table) =
      { columns := column
        base := (source (columnText column table)).getD []
        joins := []
        condition := ((condition (columnText column table)).map Text.trim).getD [] } := by
  have htrim := (trimmed_of_not_blank (not_blank_of_isWord hcolumn)).trim_eq
  rw [parts, lower_columnText hcolumn htable, Parts.ofText, projection_columnText hcolumn,
    joins_columnText hcolumn htable]
  simp [htrim]

/-- The algebra projects the column from what is read as the table. -/
theorem algebraText_columnText {base : Text} (hcolumn : IsWord column) (htable : IsWord table)
    (hsource : source (columnText column table) = some base)
    (hcondition : condition (columnText column table) = none) :
    algebraText (columnText column table) =
      "\\pi_\x7b".toList ++ column ++ "\x7d(".toList ++ base ++ ")".toList := by
  rw [algebraText, parts_columnText hcolumn htable, hsource, hcondition]
  simp [Parts.algebra, Parts.rows, Parts.joined, Algebra.render, Algebra.projectionMark]

/-- A column that ends with `where` brings a condition with it. -/
theorem algebraText_columnText_of_ends (hcolumn : IsWord column) (htable : IsWord table)
    (hends : whereWord <:+ column) :
    algebraText (columnText column table) =
      "\\pi_\x7b".toList ++ column ++ "\x7d(\\sigma_\x7bfrom ".toList ++ table ++
        "\x7d(".toList ++ table ++ "))".toList := by
  have hfrom : ¬ fromWord <:+ column := not_ends_of_ends hends (by decide) (by decide)
  have hcondition := condition_columnText_of_ends hcolumn htable hends
  have htrim := (trimmed_fromTable htable).trim_eq
  rw [algebraText, parts_columnText hcolumn htable, source_columnText hcolumn htable hfrom,
    hcondition, Option.map_some, htrim]
  simp [Parts.algebra, Parts.rows, Parts.joined, Algebra.render, Algebra.projectionMark,
    Algebra.selectionMark, fromWord]

end Answers

/--
Which columns can be queried.  In a schema whose tables and columns have names, the
query for a column of a table is valid and is translated to the projection of that
table to the column exactly if the name of the column ends neither with `from` nor
with `join` nor with `where`.  After the first two of these the word `from` is taken
for a table, which is unknown; after the last one all that follows is taken for a
condition.
-/
theorem column_answered_iff (schema : Schema) (hnamed : schema.IsNamed) (table column : String)
    (hcolumn : schema.hasColumn table column = true) :
    ((isValid schema (columnText column.toList table.toList) = true ∧
        algebraText (columnText column.toList table.toList) =
          "\\pi_\x7b".toList ++ column.toList ++ "\x7d(".toList ++ table.toList ++ ")".toList) ↔
      ¬ fromWord <:+ column.toList ∧ ¬ joinWord <:+ column.toList ∧
        ¬ whereWord <:+ column.toList) ∧
    (fromWord <:+ column.toList ∨ joinWord <:+ column.toList →
      faults schema (columnText column.toList table.toList) = [.unknownTable "from"]) ∧
    (fromWord <:+ column.toList →
      algebraText (columnText column.toList table.toList) =
        "\\pi_\x7b".toList ++ column.toList ++ "\x7d(from)".toList) ∧
    (whereWord <:+ column.toList →
      isValid schema (columnText column.toList table.toList) = true ∧
      algebraText (columnText column.toList table.toList) =
        "\\pi_\x7b".toList ++ column.toList ++ "\x7d(\\sigma_\x7bfrom ".toList ++ table.toList ++
          "\x7d(".toList ++ table.toList ++ "))".toList) := by
  rcases hnamed.of_hasColumn hcolumn with ⟨⟨htableWord, -⟩, ⟨hcolumnWord, -⟩⟩
  have hhas : schema.hasColumn (String.ofList table.toList) (String.ofList column.toList) =
      true := by
    rwa [String.ofList_toList, String.ofList_toList]
  have hunlucky : fromWord <:+ column.toList ∨ joinWord <:+ column.toList →
      faults schema (columnText column.toList table.toList) = [.unknownTable "from"] :=
    faults_columnText_of_ends hcolumnWord htableWord (Schema.has_of_hasColumn hhas)
      hnamed.not_has_from
  have hfrom : fromWord <:+ column.toList →
      algebraText (columnText column.toList table.toList) =
        "\\pi_\x7b".toList ++ column.toList ++ "\x7d(from)".toList := by
    intro hends
    rw [algebraText_columnText hcolumnWord htableWord
      (source_columnText_of_ends hcolumnWord hends)
      (condition_columnText hcolumnWord htableWord
        (not_ends_of_ends hends (by decide) (by decide)))]
    simp [fromWord]
  have hvalid : ¬ fromWord <:+ column.toList → ¬ joinWord <:+ column.toList →
      isValid schema (columnText column.toList table.toList) = true := by
    intro hnotFrom hnotJoin
    rw [isValid_eq_isEmpty, faults_columnText hcolumnWord htableWord hhas hnotFrom hnotJoin]
    rfl
  have hwhere : whereWord <:+ column.toList →
      isValid schema (columnText column.toList table.toList) = true ∧
      algebraText (columnText column.toList table.toList) =
        "\\pi_\x7b".toList ++ column.toList ++ "\x7d(\\sigma_\x7bfrom ".toList ++ table.toList ++
          "\x7d(".toList ++ table.toList ++ "))".toList := by
    intro hends
    exact ⟨hvalid (not_ends_of_ends hends (by decide) (by decide))
      (not_ends_of_ends hends (by decide) (by decide)),
      algebraText_columnText_of_ends hcolumnWord htableWord hends⟩
  refine ⟨⟨?_, ?_⟩, hunlucky, hfrom, hwhere⟩
  · rintro ⟨haccepted, htext⟩
    have hlucky : ¬ (fromWord <:+ column.toList ∨ joinWord <:+ column.toList) := by
      intro hends
      rw [isValid_eq_isEmpty, hunlucky hends] at haccepted
      contradiction
    refine ⟨fun hends => hlucky (Or.inl hends), fun hends => hlucky (Or.inr hends), ?_⟩
    -- A condition would make the algebra longer than the projection of the table.
    intro hends
    rw [(hwhere hends).2] at htext
    have hlength := congrArg List.length htext
    simp at hlength
    omega
  · rintro ⟨hnotFrom, hnotJoin, hnotWhere⟩
    exact ⟨hvalid hnotFrom hnotJoin, algebraText_columnText hcolumnWord htableWord
      (source_columnText hcolumnWord htableWord hnotFrom)
      (condition_columnText hcolumnWord htableWord hnotWhere)⟩

/-- Contracts with their number, the place they come from, and the day from which they hold. -/
def contracts : Schema :=
  ⟨[⟨"contrato", ["numero", "from_place", "valid_from"]⟩]⟩

/-- A column whose name starts with the keyword is answered all the same. -/
theorem fromPlace_answered :
    contracts.IsNamed ∧ contracts.hasColumn "contrato" "from_place" = true ∧
      isValid contracts (columnText "from_place".toList "contrato".toList) = true ∧
      algebraText (columnText "from_place".toList "contrato".toList) =
        "\\pi_\x7b".toList ++ "from_place".toList ++ "\x7d(".toList ++ "contrato".toList ++
          ")".toList := by
  have hnamed : contracts.IsNamed := by decide +kernel
  have hcolumn : contracts.hasColumn "contrato" "from_place" = true := by decide +kernel
  exact ⟨hnamed, hcolumn,
    (column_answered_iff contracts hnamed "contrato" "from_place" hcolumn).1.mpr
      ⟨by decide +kernel, by decide +kernel, by decide +kernel⟩⟩

/-- The day from which a contract holds cannot be queried. -/
theorem validFrom_refused :
    contracts.IsNamed ∧ contracts.hasColumn "contrato" "valid_from" = true ∧
      isValid contracts (columnText "valid_from".toList "contrato".toList) = false ∧
      algebraText (columnText "valid_from".toList "contrato".toList) =
        "\\pi_\x7bvalid_from\x7d(from)".toList := by
  decide +kernel

end Query
end QueryAlgebra
