import QueryAlgebra.Proofs.Clauses
import Mathlib.Data.List.Basic

/-!
# Statements

Queries of the supported form as data: columns, a source table, joins, a condition
and a later clause, together with all the blanks between their words.  A statement
is written out by `Statement.text`; its parts carry the proofs that they are what
they should be, so that every statement has a text of the supported form.

The names of a statement contain none of the words `select`, `from`, `join` and
`where`, and behind the joins the word `join` does not occur.  Hence each clause is
found where it is written, however many joins there are and whatever the layout.
For the source and the joins it does not matter how the columns are laid out or what
closes the query; an `Outline` leaves both open.

Main results:

- Theorems `Outline.source_text`, `Outline.joins_text` and `Outline.joined_text`: the
  source and the joins of a query, whatever its columns and its end.
- Theorems `Statement.projection_text`, `Statement.source_text`,
  `Statement.joins_text` and `Statement.joined_text`: the clauses of a written
  statement are its parts.
- Theorem `Statement.condition_text`: so is its condition, if that is readable.
- Theorem `Statement.wellFormed_text`: every written statement is well formed.
-/

namespace QueryAlgebra
namespace Query

open Scan Clause

/-! ## Names and blanks -/

/-- The words that no name contains. -/
def keywords : List Text :=
  [selectWord, fromWord, joinWord, whereWord]

/-- A text in which none of the keywords occurs. -/
def KeywordFree (s : Text) : Prop :=
  ∀ word ∈ keywords, Lacks word s

instance (s : Text) : Decidable (KeywordFree s) :=
  inferInstanceAs (Decidable (∀ word ∈ keywords, Lacks word s))

theorem isWord_of_mem_keywords {word : Text} (hword : word ∈ keywords) : IsWord word := by
  revert word
  decide

/-- One or more blanks. -/
structure Spacing where
  text : Text
  blanks : Blanks text

/-- A single space. -/
def Spacing.space : Spacing :=
  ⟨[' '], by decide⟩

/-- Any number of blanks. -/
structure Gap where
  text : Text
  blank : ∀ c ∈ text, isBlank c = true

/-- The name of a table. -/
structure TableName where
  text : Text
  isWord : IsWord text
  keywordFree : KeywordFree text

/-- The name of a column, which dots may qualify. -/
structure ColumnName where
  text : Text
  isQualified : IsQualified text
  keywordFree : KeywordFree text

/-- A comparison operator. -/
structure Operator where
  text : Text
  isOperator : IsOperator text

/-! ## Columns -/

/-- An item of a projection: all columns, or the column of a name. -/
inductive Item where
  | all
  | named (name : ColumnName)

def Item.text : Item → Text
  | all => ['*']
  | named name => name.text

/-- Blanks within a line and the item behind them. -/
structure NextItem where
  gap : Gap
  inline : ∀ c ∈ gap.text, c ≠ '\n'
  item : Item

/-- One or more items; a comma and blanks within the line stand before every further one. -/
structure Columns where
  first : Item
  more : List NextItem

/-- The written form of an item and those behind it. -/
def Columns.textFrom : Item → List NextItem → Text
  | item, [] => item.text
  | item, next :: more => item.text ++ ((',' :: next.gap.text) ++ textFrom next.item more)

def Columns.text (columns : Columns) : Text :=
  textFrom columns.first columns.more

/-- The items from left to right. -/
def Columns.items (columns : Columns) : List Item :=
  columns.first :: columns.more.map NextItem.item

/-! ## Clauses -/

/-- A joined table with the comparison on which it is joined. -/
structure JoinClause where
  before : Spacing
  afterJoin : Spacing
  table : TableName
  beforeOn : Spacing
  afterOn : Spacing
  left : ColumnName
  beforeOperator : Gap
  operator : Operator
  afterOperator : Gap
  right : ColumnName

/-- The comparison of a join as it is written. -/
def JoinClause.comparison (j : JoinClause) : Text :=
  j.left.text ++ j.beforeOperator.text ++ j.operator.text ++ j.afterOperator.text ++ j.right.text

/-- What is written behind the table of a join. -/
def JoinClause.link (j : JoinClause) : Text :=
  j.beforeOn.text ++ (onWord ++ (j.afterOn.text ++ j.comparison))

def JoinClause.text (j : JoinClause) : Text :=
  j.before.text ++ (joinWord ++ (j.afterJoin.text ++ (j.table.text ++ j.link)))

/-- A condition after `where`, in which the word `join` does not occur. -/
structure ConditionClause where
  before : Spacing
  after : Spacing
  condition : Text
  lacksJoin : Lacks joinWord condition

def ConditionClause.text (c : ConditionClause) : Text :=
  c.before.text ++ (whereWord ++ (c.after.text ++ c.condition))

/-- A clause `group by` or `order by`, in which the word `join` does not occur. -/
structure LaterClause where
  before : Spacing
  word : Text
  opens : OpensLater word
  between : Spacing
  tail : Text
  lacksJoin : Lacks joinWord tail

def LaterClause.text (l : LaterClause) : Text :=
  l.before.text ++ (l.word ++ (l.between.text ++ (byWord ++ l.tail)))

/-- A query of the supported form with its layout. -/
structure Statement where
  afterSelect : Spacing
  columns : Columns
  beforeFrom : Spacing
  afterFrom : Spacing
  table : TableName
  joins : List JoinClause
  condition : Option ConditionClause
  later : Option LaterClause

namespace Statement

/-- The written form of the condition and the later clause. -/
def closing (st : Statement) : Text :=
  st.condition.elim [] ConditionClause.text ++ st.later.elim [] LaterClause.text

/-- The written form up to the columns. -/
def opening (st : Statement) : Text :=
  selectWord ++ (st.afterSelect.text ++ st.columns.text)

/-- The written form up to the source table. -/
def head (st : Statement) : Text :=
  st.opening ++ (st.beforeFrom.text ++ (fromWord ++ (st.afterFrom.text ++ st.table.text)))

/-- The written form of a statement. -/
def text (st : Statement) : Text :=
  st.head ++ (st.joins.flatMap JoinClause.text ++ st.closing)

/--
A statement whose condition can be read back: not empty, in one line, without
blanks at its ends and without a later clause in it; where there is no condition,
the word `where` does not occur behind the joins.
-/
structure Readable (st : Statement) : Prop where
  condition : ∀ c, st.condition = some c → c.condition ≠ [] ∧ (∀ d ∈ c.condition, d ≠ '\n') ∧
    Trimmed c.condition ∧ LacksLater c.condition
  noCondition : st.condition = none → ∀ l, st.later = some l → Lacks whereWord l.tail

end Statement

/-! ## Columns as texts -/

@[simp] theorem Item.text_ne_nil (item : Item) : item.text ≠ [] := by
  cases item with
  | all => simp [Item.text]
  | named name => exact name.isQualified.1

theorem Item.not_blank (item : Item) : ∀ c ∈ item.text, isBlank c = false := by
  cases item with
  | all =>
      intro c hc
      rw [Item.text, List.mem_singleton] at hc
      subst hc
      decide
  | named name =>
      intro c hc
      exact isBlank_of_isQualifiedChar (name.isQualified.2 c hc)

/-- No item contains a keyword. -/
theorem Item.keywordFree (item : Item) : KeywordFree item.text := by
  cases item with
  | all =>
      intro word hword
      have hstar : Spacer ['*'] := by simp [Spacer, isNameChar]
      exact hstar.lacks (isWord_of_mem_keywords hword)
  | named name => exact name.keywordFree

/-- A comma and blanks stand between two items. -/
theorem NextItem.spacer (next : NextItem) : Spacer (',' :: next.gap.text) := by
  refine ⟨by simp, ?_⟩
  intro c hc
  rcases List.mem_cons.mp hc with rfl | hc
  · decide
  · exact isNameChar_of_isBlank (next.gap.blank c hc)

namespace Columns

/-- A list of items starts with its first one. -/
theorem exists_textFrom (item : Item) (more : List NextItem) :
    ∃ rest, textFrom item more = item.text ++ rest := by
  cases more with
  | nil => exact ⟨[], by simp [textFrom]⟩
  | cons next more => exact ⟨_, rfl⟩

@[simp] theorem text_ne_nil (columns : Columns) : columns.text ≠ [] := by
  rcases exists_textFrom columns.first columns.more with ⟨rest, hrest⟩
  rw [text, hrest]
  simp

/-- Items stand on one line. -/
theorem textFrom_inline (item : Item) (more : List NextItem) :
    ∀ c ∈ textFrom item more, c ≠ '\n' := by
  have hitem : ∀ (i : Item), ∀ c ∈ i.text, c ≠ '\n' := by
    rintro i c hc rfl
    have hblank := i.not_blank _ hc
    contradiction
  induction more generalizing item with
  | nil => exact hitem item
  | cons next more ih =>
      intro c hc
      simp only [textFrom, List.cons_append, List.mem_append, List.mem_cons] at hc
      rcases hc with hc | rfl | hc | hc
      · exact hitem item c hc
      · decide
      · exact next.inline c hc
      · exact ih next.item c hc

theorem textFrom_halts_end (item : Item) (more : List NextItem) :
    Halts isBlank (textFrom item more).reverse := by
  induction more generalizing item with
  | nil =>
      apply halts_of_forall
      intro c hc
      exact item.not_blank c (List.mem_reverse.mp hc)
  | cons next more ih =>
      intro c hc
      apply ih next.item c
      rcases exists_textFrom next.item more with ⟨rest, hrest⟩
      have hne : textFrom next.item more ≠ [] := by
        rw [hrest]
        simp
      rw [List.head?_reverse] at hc ⊢
      rw [textFrom, ← List.append_assoc, List.getLast?_append_of_ne_nil _ hne] at hc
      exact hc

/-- Columns have no blanks at either end. -/
theorem text_trimmed (columns : Columns) : Trimmed columns.text := by
  refine ⟨?_, textFrom_halts_end columns.first columns.more⟩
  rcases exists_textFrom columns.first columns.more with ⟨rest, hrest⟩
  rw [text, hrest]
  exact (halts_of_forall columns.first.not_blank).append columns.first.text_ne_nil rest

/-- No keyword arises where items stand side by side. -/
theorem textFrom_keywordFree (item : Item) (more : List NextItem) :
    KeywordFree (textFrom item more) := by
  induction more generalizing item with
  | nil => exact item.keywordFree
  | cons next more ih =>
      intro word hword
      exact lacks_append_spacer (isWord_of_mem_keywords hword) (item.keywordFree word hword)
        next.spacer (ih next.item word hword)

end Columns

/-! ## Joins as texts -/

namespace JoinClause

/-- An operator and the blanks around it stand between the two names of a comparison. -/
theorem spacer_operator (j : JoinClause) :
    Spacer (j.beforeOperator.text ++ j.operator.text ++ j.afterOperator.text) := by
  refine ⟨by simp [j.operator.isOperator.1], ?_⟩
  intro c hc
  simp only [List.mem_append] at hc
  rcases hc with (hc | hc) | hc
  · exact isNameChar_of_isBlank (j.beforeOperator.blank c hc)
  · have hqualified := (classes_of_isOperatorChar (j.operator.isOperator.2 c hc)).1
    simp only [isQualifiedChar, Bool.or_eq_false_iff] at hqualified
    exact hqualified.1
  · exact isNameChar_of_isBlank (j.afterOperator.blank c hc)

/-- No comparison contains a keyword. -/
theorem keywordFree_comparison (j : JoinClause) : KeywordFree j.comparison := by
  intro word hword
  have hparts : j.comparison = j.left.text ++
      ((j.beforeOperator.text ++ j.operator.text ++ j.afterOperator.text) ++ j.right.text) := by
    simp [comparison]
  rw [hparts]
  exact lacks_append_spacer (isWord_of_mem_keywords hword) (j.left.keywordFree word hword)
    j.spacer_operator (j.right.keywordFree word hword)

theorem keywordFree_onWord : KeywordFree onWord := by decide

/-- What follows the table of a join contains no keyword. -/
theorem keywordFree_link (j : JoinClause) : KeywordFree j.link := by
  intro word hword
  have hw := isWord_of_mem_keywords hword
  exact lacks_spacer_append hw (spacer_of_blanks j.beforeOn.blanks)
    (lacks_append_spacer hw (keywordFree_onWord word hword) (spacer_of_blanks j.afterOn.blanks)
      (j.keywordFree_comparison word hword))

/-- A join clause contains no keyword but its own. -/
theorem lacks_text (j : JoinClause) {word : Text} (hword : word ∈ keywords)
    (hjoin : Lacks word joinWord) : Lacks word j.text := by
  have hw := isWord_of_mem_keywords hword
  have htable : Lacks word (j.table.text ++ j.link) :=
    (j.table.keywordFree word hword).append (j.keywordFree_link word hword)
      (cut_of_halts hw (separated_append j.beforeOn.blanks _).halts_name)
  exact lacks_spacer_append hw (spacer_of_blanks j.before.blanks)
    (lacks_append_spacer hw hjoin (spacer_of_blanks j.afterJoin.blanks) htable)

/-- The comparison of a join is read up to its end. -/
theorem comparison_text (j : JoinClause) {t : Text} (ht : Halts isQualifiedChar t) :
    Clause.comparison (j.comparison ++ t) = some (j.comparison, t) := by
  have hread := comparison_append j.left.isQualified j.beforeOperator.blank
    j.operator.isOperator j.afterOperator.blank j.right.isQualified ht
  simpa [comparison] using hread

/-- The clause and the rest of the text, from the word `join` on. -/
theorem joinHere_text (j : JoinClause) {t : Text} (ht : Separated t) :
    joinHere (joinWord ++ (j.afterJoin.text ++ (j.table.text ++ j.link)) ++ t) =
      some (⟨j.table.text, j.comparison⟩, t) := by
  have hstart : Halts isBlank (j.comparison ++ t) := by
    have hleft := j.left.isQualified.halts_blank (j.beforeOperator.text ++ j.operator.text ++
      j.afterOperator.text ++ j.right.text ++ t)
    simpa [comparison] using hleft
  have hread := joinHere_append j.afterJoin.blanks j.table.isWord j.beforeOn.blanks
    j.afterOn.blanks hstart (j.comparison_text ht.halts_qualified)
  simpa [link] using hread

/-- A join is read where it stands. -/
theorem joinedHere_text (j : JoinClause) (t : Text) :
    joinedHere (joinWord ++ (j.afterJoin.text ++ j.table.text) ++ (j.link ++ t)) =
      some (j.table.text, j.link ++ t) := by
  have hlink : Halts isNameChar (j.link ++ t) := by
    have hon := separated_append j.beforeOn.blanks (onWord ++ (j.afterOn.text ++ j.comparison) ++ t)
    simpa [link] using hon.halts_name
  exact joinedHere_eq_some_iff.mpr
    ⟨j.afterJoin.text, by simp, j.afterJoin.blanks, j.table.isWord, hlink⟩

/-- A search for joins with conditions reads the clause and goes on behind it. -/
theorem joins_append (j : JoinClause) {t : Text} (ht : Separated t) :
    Clause.joins (j.text ++ t) = ⟨j.table.text, j.comparison⟩ :: Clause.joins t := by
  rw [text, List.append_assoc, Clause.joins,
    all_append_of_lacks awaits_joinHere ((spacer_of_blanks j.before.blanks).lacks isWord_joinWord)
      (cut_of_spacer isWord_joinWord (spacer_of_blanks j.before.blanks)),
    all_append_of_find (by simp [joinWord]) (j.joinHere_text ht)]
  rfl

/-- A search for joined tables reads the table, and finds no further one in the condition. -/
theorem joined_append (j : JoinClause) {t : Text} (ht : Separated t) :
    Clause.joined (j.text ++ t) = j.table.text :: Clause.joined t := by
  have hparts : j.text ++ t = j.before.text ++
      (joinWord ++ (j.afterJoin.text ++ j.table.text) ++ (j.link ++ t)) := by
    simp [text]
  rw [hparts, Clause.joined,
    all_append_of_lacks awaits_joinedHere ((spacer_of_blanks j.before.blanks).lacks isWord_joinWord)
      (cut_of_spacer isWord_joinWord (spacer_of_blanks j.before.blanks)),
    all_append_of_find (by simp [joinWord]) (j.joinedHere_text t),
    all_append_of_lacks awaits_joinedHere (j.keywordFree_link joinWord (by simp [keywords]))
      (cut_of_halts isWord_joinWord ht.halts_name)]
  rfl

end JoinClause

/-! ## What stands behind the joins -/

/-- A condition has no join in it. -/
theorem ConditionClause.lacks_joinWord (c : ConditionClause) : Lacks joinWord c.text :=
  lacks_spacer_append isWord_joinWord (spacer_of_blanks c.before.blanks)
    (lacks_append_spacer isWord_joinWord (by decide) (spacer_of_blanks c.after.blanks) c.lacksJoin)

/-- A later clause contains a keyword only in its tail. -/
theorem LaterClause.lacks_text (l : LaterClause) {word : Text} (hword : word ∈ keywords)
    (htail : Lacks word l.tail) : Lacks word l.text := by
  have hw := isWord_of_mem_keywords hword
  have hfixed : ∀ k ∈ keywords, Lacks k groupWord ∧ Lacks k orderWord ∧ Lacks k byWord ∧
      'y' ∉ k := by decide
  rcases hfixed word hword with ⟨hgroup, horder, hby, hy⟩
  have hopens : Lacks word l.word := by
    rcases l.opens with hgroupWord | horderWord
    · rwa [hgroupWord]
    · rwa [horderWord]
  have hcut : Cut word byWord l.tail := by
    left
    intro c hc
    have hcy : 'y' = c := by simpa [byWord] using hc
    rwa [← hcy]
  exact lacks_spacer_append hw (spacer_of_blanks l.before.blanks)
    (lacks_append_spacer hw hopens (spacer_of_blanks l.between.blanks) (hby.append htail hcut))

namespace Statement

variable (st : Statement)

/-- What follows the condition ends it. -/
theorem closes_later : Closes (st.later.elim [] LaterClause.text) := by
  cases st.later with
  | none => exact Or.inl rfl
  | some l =>
      exact Or.inr ⟨l.before.text, l.word, l.between.text, l.tail, rfl, l.before.blanks, l.opens,
        l.between.blanks⟩

/-- What follows the joins starts apart from them. -/
theorem separated_closing : Separated st.closing := by
  rw [closing]
  cases st.condition with
  | none => exact st.closes_later.separated
  | some c =>
      rw [Option.elim_some, ConditionClause.text, List.append_assoc]
      exact separated_append c.before.blanks _

/-- What follows the joins has no further join in it. -/
theorem lacks_joinWord_closing : Lacks joinWord st.closing := by
  have hlater : Lacks joinWord (st.later.elim [] LaterClause.text) := by
    cases st.later with
    | none => decide
    | some l => exact l.lacks_text (by simp [keywords]) l.lacksJoin
  have hcondition : Lacks joinWord (st.condition.elim [] ConditionClause.text) := by
    cases st.condition with
    | none => decide
    | some c => exact c.lacks_joinWord
  exact hcondition.append hlater
    (cut_of_halts isWord_joinWord st.closes_later.separated.halts_name)

end Statement

/-! ## Runs of joins -/

/-- Joins start apart from what stands before them. -/
theorem separated_joins (joins : List JoinClause) {t : Text} (ht : Separated t) :
    Separated (joins.flatMap JoinClause.text ++ t) := by
  cases joins with
  | nil => exact ht
  | cons j joins =>
      rw [List.flatMap_cons, JoinClause.text, List.append_assoc, List.append_assoc]
      exact separated_append j.before.blanks _

/-- Joins bring in no keyword but their own. -/
theorem lacks_joins (joins : List JoinClause) {word : Text} (hword : word ∈ keywords)
    (hjoin : Lacks word joinWord) : Lacks word (joins.flatMap JoinClause.text) := by
  have hw := isWord_of_mem_keywords hword
  induction joins with
  | nil =>
      intro hoccurs
      exact hw.1 (List.infix_nil.mp hoccurs)
  | cons j joins ih =>
      have hrest : Separated (joins.flatMap JoinClause.text) := by
        simpa using separated_joins joins separated_nil
      exact (j.lacks_text hword hjoin).append ih (cut_of_halts hw hrest.halts_name)

/--
A repeated search that reads something from each join clause and goes on behind it
reads a run of joins one after the other, and then what stands behind them.
-/
theorem all_joins {α : Type} {f : Text → Option (α × Text)} {find : JoinClause → α}
    (hread : ∀ (j : JoinClause) (t : Text), Separated t → all f (j.text ++ t) = find j :: all f t)
    (joins : List JoinClause) {t : Text} (ht : Separated t) :
    all f (joins.flatMap JoinClause.text ++ t) = joins.map find ++ all f t := by
  induction joins with
  | nil => rfl
  | cons j joins ih =>
      rw [List.flatMap_cons, List.append_assoc, hread j _ (separated_joins joins ht), ih,
        List.map_cons, List.cons_append]

/-! ## Outlines -/

/--
What the search for most clauses of a query depends on: columns in which no keyword
occurs, the source table, the joins, and all that follows them.
-/
structure Outline where
  afterSelect : Spacing
  columns : Text
  keywordFree : KeywordFree columns
  beforeFrom : Spacing
  afterFrom : Spacing
  table : TableName
  joins : List JoinClause
  closing : Text
  separated : Separated closing
  lacksJoin : Lacks joinWord closing

namespace Outline

/-- The written form up to the columns. -/
def opening (o : Outline) : Text :=
  selectWord ++ (o.afterSelect.text ++ o.columns)

/-- The written form up to the source table. -/
def head (o : Outline) : Text :=
  o.opening ++ (o.beforeFrom.text ++ (fromWord ++ (o.afterFrom.text ++ o.table.text)))

/-- The written form of an outline. -/
def text (o : Outline) : Text :=
  o.head ++ (o.joins.flatMap JoinClause.text ++ o.closing)

variable (o : Outline)

theorem separated_tail : Separated (o.joins.flatMap JoinClause.text ++ o.closing) :=
  separated_joins o.joins o.separated

/-- The columns bring in no keyword but the first. -/
theorem lacks_opening {word : Text} (hword : word ∈ keywords) (hselect : Lacks word selectWord) :
    Lacks word o.opening :=
  lacks_append_spacer (isWord_of_mem_keywords hword) hselect
    (spacer_of_blanks o.afterSelect.blanks) (o.keywordFree word hword)

/-- Up to the joins there is no keyword but the first two. -/
theorem lacks_head {word : Text} (hword : word ∈ keywords) (hselect : Lacks word selectWord)
    (hfrom : Lacks word fromWord) : Lacks word o.head := by
  have hw := isWord_of_mem_keywords hword
  exact lacks_append_spacer hw (o.lacks_opening hword hselect)
    (spacer_of_blanks o.beforeFrom.blanks)
    (lacks_append_spacer hw hfrom (spacer_of_blanks o.afterFrom.blanks)
      (o.table.keywordFree word hword))

/-- The source table is found whatever is separated from it. -/
theorem source_head_append {t : Text} (ht : Separated t) :
    Clause.source (o.head ++ t) = some o.table.text := by
  have hparts : o.head ++ t = o.opening ++ (o.beforeFrom.text ++ (fromWord ++
      (o.afterFrom.text ++ (o.table.text ++ t)))) := by
    simp [head]
  have hblanks := spacer_of_blanks o.beforeFrom.blanks
  rw [hparts, Clause.source,
    first_append_of_lacks awaits_sourceHere (o.lacks_opening (by simp [keywords]) (by decide))
      (cut_of_halts isWord_fromWord (hblanks.halts_name _)),
    first_append_of_lacks awaits_sourceHere (hblanks.lacks isWord_fromWord)
      (cut_of_spacer isWord_fromWord hblanks)]
  exact first_of_eq_some (sourceHere_eq_some_iff.mpr
    ⟨_, _, rfl, o.afterFrom.blanks, o.table.isWord, ht.halts_name⟩)

/-- The table of a text is read from it. -/
theorem source_text : Clause.source o.text = some o.table.text :=
  o.source_head_append o.separated_tail

/-- A repeated search that awaits `join` finds in an outline just what its joins give. -/
theorem all_text {α : Type} {f : Text → Option (α × Text)} {find : JoinClause → α}
    (hf : Awaits joinWord f)
    (hread : ∀ (j : JoinClause) (t : Text), Separated t → all f (j.text ++ t) = find j :: all f t) :
    all f o.text = o.joins.map find := by
  have hhead : Lacks joinWord o.head :=
    o.lacks_head (by simp [keywords]) (by decide) (by decide)
  have hskip : all f o.text = all f (o.joins.flatMap JoinClause.text ++ o.closing) :=
    all_append_of_lacks hf hhead (cut_of_halts isWord_joinWord o.separated_tail.halts_name)
  have hclosing : all f o.closing = [] := all_of_lacks hf o.lacksJoin
  rw [hskip, all_joins hread o.joins o.separated, hclosing, List.append_nil]

/-- The joins of a text are read from it, with their comparisons. -/
theorem joins_text :
    Clause.joins o.text = o.joins.map (fun j => ⟨j.table.text, j.comparison⟩) :=
  o.all_text awaits_joinHere fun j _ ht => j.joins_append ht

theorem joined_text : Clause.joined o.text = o.joins.map (fun j => j.table.text) :=
  o.all_text awaits_joinedHere fun j _ ht => j.joined_append ht

/-- Up to its joins, an outline does not contain the word `where`. -/
theorem lacks_whereWord_joined :
    Lacks whereWord (o.head ++ o.joins.flatMap JoinClause.text) := by
  have hhead : Lacks whereWord o.head :=
    o.lacks_head (by simp [keywords]) (by decide) (by decide)
  have hjoins : Lacks whereWord (o.joins.flatMap JoinClause.text) :=
    lacks_joins o.joins (by simp [keywords]) (by decide)
  have hsep : Separated (o.joins.flatMap JoinClause.text) := by
    simpa using separated_joins o.joins separated_nil
  exact hhead.append hjoins (cut_of_halts isWord_whereWord hsep.halts_name)

/-- The condition of an outline is looked for behind its joins. -/
theorem condition_text : Clause.condition o.text = Clause.condition o.closing := by
  have hparts : o.text = (o.head ++ o.joins.flatMap JoinClause.text) ++ o.closing := by
    simp [text]
  rw [hparts]
  exact first_append_of_lacks (awaits_between whereWord conditionEnds)
    o.lacks_whereWord_joined (cut_of_halts isWord_whereWord o.separated.halts_name)

end Outline

/-! ## Clauses of a written statement -/

namespace Statement

variable (st : Statement)

/-- The outline of a statement. -/
def outline : Outline where
  afterSelect := st.afterSelect
  columns := st.columns.text
  keywordFree := Columns.textFrom_keywordFree st.columns.first st.columns.more
  beforeFrom := st.beforeFrom
  afterFrom := st.afterFrom
  table := st.table
  joins := st.joins
  closing := st.closing
  separated := st.separated_closing
  lacksJoin := st.lacks_joinWord_closing

/-- The columns of a statement are read from it. -/
theorem projection_text : Clause.projection st.text = some st.columns.text := by
  have hread := projection_append (t := st.afterFrom.text ++ (st.table.text ++
      (st.joins.flatMap JoinClause.text ++ st.closing)))
    st.afterSelect.blanks st.beforeFrom.blanks st.columns.text_trimmed st.columns.text_ne_nil
    (Columns.textFrom_inline _ _)
    (Columns.textFrom_keywordFree _ _ fromWord (by simp [keywords]))
  simpa [text, head, opening] using hread

/-- The table of a statement is read from it. -/
theorem source_text : Clause.source st.text = some st.table.text :=
  st.outline.source_text

/-- The joins of a statement are read from it, with their comparisons. -/
theorem joins_text :
    Clause.joins st.text = st.joins.map (fun j => ⟨j.table.text, j.comparison⟩) :=
  st.outline.joins_text

theorem joined_text : Clause.joined st.text = st.joins.map (fun j => j.table.text) :=
  st.outline.joined_text

/-- The condition of a readable statement is read from it. -/
theorem condition_text (hreadable : st.Readable) :
    Clause.condition st.text = st.condition.map ConditionClause.condition := by
  have hskip : Clause.condition st.text = Clause.condition st.closing := st.outline.condition_text
  rw [hskip, closing]
  cases hcondition : st.condition with
  | none =>
      have hlater : Lacks whereWord (st.later.elim [] LaterClause.text) := by
        cases hsome : st.later with
        | none => decide
        | some l =>
            exact l.lacks_text (by simp [keywords]) (hreadable.noCondition hcondition l hsome)
      exact first_of_lacks (by decide) (awaits_between whereWord conditionEnds) hlater
  | some c =>
      rcases hreadable.condition c hcondition with ⟨hne, hinline, htrimmed, hlacks⟩
      have hblanks := spacer_of_blanks c.before.blanks
      have hshift : Clause.condition (c.text ++ st.later.elim [] LaterClause.text) =
          Clause.condition (whereWord ++ (c.after.text ++ (c.condition ++
            st.later.elim [] LaterClause.text))) := by
        rw [ConditionClause.text, List.append_assoc, List.append_assoc, List.append_assoc]
        exact first_append_of_lacks (awaits_between whereWord conditionEnds)
          (hblanks.lacks isWord_whereWord) (cut_of_spacer isWord_whereWord hblanks)
      rw [Option.elim_some, hshift,
        condition_append c.after.blanks htrimmed hne hinline hlacks st.closes_later]
      rfl

/-- Every statement is well formed. -/
theorem wellFormed_text : Clause.wellFormed st.text = true := by
  rcases List.exists_cons_of_ne_nil st.table.isWord.1 with ⟨c, name, hname⟩
  have hblank : isBlank c = false := by
    have hstart := halts_blank_word st.table.isWord []
    rw [hname, List.cons_append, halts_cons] at hstart
    exact hstart
  have hread := wellFormed_append (t := name ++ (st.joins.flatMap JoinClause.text ++ st.closing))
    st.afterSelect.blanks st.beforeFrom.blanks st.afterFrom.blanks st.columns.text_ne_nil
    (Columns.textFrom_inline _ _) hblank
  simpa [text, head, opening, hname] using hread

/-! ## A statement over two tables -/

/-- The customers with their orders that are no longer new, a clause on each line. -/
def customerOrders : Statement where
  afterSelect := ⟨" ".toList, by decide⟩
  columns := ⟨.named ⟨"nome".toList, by decide, by decide⟩,
    [⟨⟨" ".toList, by decide⟩, by decide, .named ⟨"pedido.status".toList, by decide, by decide⟩⟩]⟩
  beforeFrom := ⟨"\n".toList, by decide⟩
  afterFrom := ⟨" ".toList, by decide⟩
  table := ⟨"cliente".toList, by decide, by decide⟩
  joins := [
    { before := ⟨"\n\t".toList, by decide⟩
      afterJoin := ⟨" ".toList, by decide⟩
      table := ⟨"pedido".toList, by decide, by decide⟩
      beforeOn := ⟨" ".toList, by decide⟩
      afterOn := ⟨" ".toList, by decide⟩
      left := ⟨"cliente.idcliente".toList, by decide, by decide⟩
      beforeOperator := ⟨" ".toList, by decide⟩
      operator := ⟨"=".toList, by decide⟩
      afterOperator := ⟨[], by decide⟩
      right := ⟨"pedido.idcliente".toList, by decide, by decide⟩ }]
  condition := some
    { before := ⟨"\n".toList, by decide⟩
      after := ⟨" ".toList, by decide⟩
      condition := "status <> 'novo'".toList
      lacksJoin := by decide }
  later := some
    { before := ⟨" ".toList, by decide⟩
      word := orderWord
      opens := opensLater_orderWord
      between := ⟨" ".toList, by decide⟩
      tail := " nome".toList
      lacksJoin := by decide }

/-- The same statement as it may be typed. -/
def customerOrdersTyped : Text :=
  "SELECT nome, pedido.status\nFROM cliente\n\tJOIN pedido ON ".toList ++
    "cliente.idcliente =pedido.idcliente\nWHERE status <> 'novo' ORDER BY nome".toList

theorem lower_customerOrdersTyped : Text.lower customerOrdersTyped = customerOrders.text := by
  decide +kernel

theorem customerOrders_readable : customerOrders.Readable where
  condition := by
    intro c hc
    cases hc
    refine ⟨by decide, by decide, ?_, ?_⟩
    · constructor <;> simp [isBlank]
    · intro word w v hword _ _
      rcases hword with rfl | rfl
      · exact lacks_of_not_mem (c := 'g') (by simp [groupWord]) (by decide)
      · exact lacks_of_not_mem (c := 'r') (by simp [orderWord]) (by decide)
  noCondition := by
    intro hc
    contradiction

end Statement
end Query
end QueryAlgebra
