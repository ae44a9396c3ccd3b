import QueryAlgebra.Proofs.Translation
import QueryAlgebra.Proofs.Validation
import Mathlib.Data.List.Forall2

/-!
# Layout of queries

Queries with a condition, together with all the blanks between their words, where
line ends may stand anywhere.  Two such queries that differ only in their runs of
blanks should be judged alike, and be translated alike up to these runs.

They are, as long as line ends do not get in the way.  Columns that are spread over
several lines are not found, so the query is refused and its translation has a star
in their place.  A condition that is spread over several lines, or that more than one
line end follows, is not found either, and then the translation has no selection.

Main results:

- Theorem `Text.collapse_append`: runs of blanks collapse part by part.
- Theorems `Outline.projection_eq_none` and `Draft.condition_text`: when columns
  and condition are found.
- Theorem `Draft.parts_text`: the parts of a query in any layout.
- Theorem `layout_independent_iff`: when two layouts of a query give the same.
-/

namespace QueryAlgebra

open Scan Clause

/-! ## Collapsed blanks -/

namespace Text

/-- The text with every run of blanks replaced by a single space. -/
def collapse : Text → Text
  | [] => []
  | c :: rest =>
    if isBlank c then
      if rest.head?.any isBlank then collapse rest else ' ' :: collapse rest
    else c :: collapse rest

/-- A character that is no blank stays as it is. -/
theorem collapse_cons_of_not_blank {c : Char} (hc : isBlank c = false) (s : Text) :
    collapse (c :: s) = c :: collapse s := by
  simp [collapse, hc]

/-- Characters that are not blank stay as they are. -/
theorem collapse_of_not_blank {u : Text} (hu : ∀ c ∈ u, isBlank c = false) : collapse u = u := by
  induction u with
  | nil => rfl
  | cons c u ih =>
      rcases List.forall_mem_cons.mp hu with ⟨hc, hu⟩
      rw [collapse_cons_of_not_blank hc, ih hu]

/-- Two texts collapse each on its own, unless a run of blanks goes on from one to the other. -/
theorem collapse_append {u t : Text} (hcut : Halts isBlank u.reverse ∨ Halts isBlank t) :
    collapse (u ++ t) = collapse u ++ collapse t := by
  induction u with
  | nil => rfl
  | cons c u ih =>
      have hrest : Halts isBlank u.reverse ∨ Halts isBlank t :=
        hcut.imp_left (halts_reverse_of_suffix (List.suffix_cons c u))
      cases hc : isBlank c with
      | false =>
          rw [List.cons_append, collapse_cons_of_not_blank hc, collapse_cons_of_not_blank hc,
            ih hrest, List.cons_append]
      | true =>
          cases u with
          | nil =>
              have ht : Halts isBlank t := by
                rcases hcut with hend | ht
                · rw [List.reverse_singleton, halts_cons, hc] at hend
                  contradiction
                · exact ht
              have hhead : t.head?.any isBlank = false := by
                cases t with
                | nil => rfl
                | cons d t => exact halts_cons.mp ht
              simp [collapse, hc, hhead]
          | cons d u =>
              rw [List.cons_append] at ih
              simp only [List.cons_append, collapse, hc, if_true, List.head?_cons, Option.any_some]
              simp only [collapse] at ih
              rw [ih hrest]
              split <;> simp

/-- One or more blanks collapse to a space. -/
theorem collapse_of_blanks {w : Text} (hw : Blanks w) : collapse w = [' '] := by
  rcases hw with ⟨hne, hw⟩
  induction w with
  | nil => contradiction
  | cons b w ih =>
      rcases List.forall_mem_cons.mp hw with ⟨hb, hblank⟩
      cases w with
      | nil => simp [collapse, hb]
      | cons d w =>
          have hd : isBlank d = true := hblank d List.mem_cons_self
          rw [collapse, if_pos hb, if_pos (by simpa using hd), ih (by simp) hblank]

end Text

namespace Query

/-! ## Columns in any layout -/

/-- Blanks of any kind and the item behind them. -/
structure LooseItem where
  gap : Gap
  item : Item

/-- One or more items; a comma and any blanks stand before every further one. -/
structure LooseColumns where
  first : Item
  more : List LooseItem

/-- A further item with its comma. -/
def LooseItem.text (next : LooseItem) : Text :=
  (',' :: next.gap.text) ++ next.item.text

def LooseColumns.text (columns : LooseColumns) : Text :=
  columns.first.text ++ columns.more.flatMap LooseItem.text

/-- The items from left to right. -/
def LooseColumns.items (columns : LooseColumns) : List Item :=
  columns.first :: columns.more.map LooseItem.item

/-- The columns stand in one line. -/
def LooseColumns.Inline (columns : LooseColumns) : Prop :=
  '\n' ∉ columns.text

instance (columns : LooseColumns) : Decidable columns.Inline :=
  inferInstanceAs (Decidable (¬ _))

theorem LooseItem.spacer (next : LooseItem) : Spacer (',' :: next.gap.text) := by
  refine ⟨by simp, ?_⟩
  intro c hc
  rcases List.mem_cons.mp hc with rfl | hc
  · decide
  · exact isNameChar_of_isBlank (next.gap.blank c hc)

namespace LooseColumns

/-- Items stand with a comma and a gap between them. -/
theorem text_cons (first : Item) (next : LooseItem) (more : List LooseItem) :
    text ⟨first, next :: more⟩ =
      first.text ++ ((',' :: next.gap.text) ++ text ⟨next.item, more⟩) := by
  simp [text, LooseItem.text]

@[simp] theorem text_ne_nil (columns : LooseColumns) : columns.text ≠ [] := by
  simp [text]

/-- No keyword arises where items stand side by side. -/
theorem keywordFree_text (first : Item) (more : List LooseItem) :
    KeywordFree (text ⟨first, more⟩) := by
  induction more generalizing first with
  | nil => simpa [text] using first.keywordFree
  | cons next more ih =>
      intro word hword
      rw [text_cons]
      exact lacks_append_spacer (isWord_of_mem_keywords hword) (first.keywordFree word hword)
        next.spacer (ih next.item word hword)

theorem halts_end_text (first : Item) (more : List LooseItem) :
    Halts isBlank (text ⟨first, more⟩).reverse := by
  induction more generalizing first with
  | nil =>
      apply halts_of_forall
      intro c hc
      exact first.not_blank c (by simpa [text] using hc)
  | cons next more ih =>
      rw [text_cons, ← List.append_assoc, List.reverse_append]
      exact (ih next.item).append (by simp) _

theorem trimmed_text (columns : LooseColumns) : Trimmed columns.text :=
  ⟨(halts_of_forall columns.first.not_blank).append columns.first.text_ne_nil _,
    halts_end_text columns.first columns.more⟩

/-- Columns in one line are columns of a statement. -/
theorem exists_columns (first : Item) (more : List LooseItem)
    (hinline : Inline ⟨first, more⟩) :
    ∃ next : List NextItem, Columns.textFrom first next = text ⟨first, more⟩ ∧
      next.map NextItem.item = more.map LooseItem.item := by
  induction more generalizing first with
  | nil => exact ⟨[], by simp [Columns.textFrom, text], rfl⟩
  | cons loose more ih =>
      rw [Inline, text_cons] at hinline
      simp only [List.mem_append, List.mem_cons, not_or] at hinline
      rcases ih loose.item hinline.2.2 with ⟨next, htext, hitems⟩
      have hgap : ∀ c ∈ loose.gap.text, c ≠ '\n' := by
        rintro c hc rfl
        exact hinline.2.1.2 hc
      refine ⟨⟨loose.gap, hgap, loose.item⟩ :: next, ?_, by simp [hitems]⟩
      rw [Columns.textFrom, htext, text_cons]

/-- Columns that are spread over several lines have more than one item. -/
theorem more_ne_nil_of_not_inline {columns : LooseColumns} (hbroken : ¬ columns.Inline) :
    columns.more ≠ [] := by
  intro hnil
  apply hbroken
  intro hmem
  have hfirst : '\n' ∈ columns.first.text := by simpa [text, hnil] using hmem
  have hblank := columns.first.not_blank _ hfirst
  contradiction

end LooseColumns

/-! ## Queries in any layout -/

/-- A condition without keywords, without blanks at its ends and without a later clause in it. -/
structure Condition where
  text : Text
  ne_nil : text ≠ []
  trimmed : Trimmed text
  keywordFree : KeywordFree text
  lacksLater : LacksLater text

/-- A query with a condition in any layout; more blanks may follow at its end. -/
structure Draft where
  afterSelect : Spacing
  columns : LooseColumns
  beforeFrom : Spacing
  afterFrom : Spacing
  table : TableName
  joins : List JoinClause
  beforeWhere : Spacing
  afterWhere : Spacing
  condition : Condition
  trailing : Gap

namespace Draft

/-- What is written behind the blanks after `where`. -/
def ending (d : Draft) : Text :=
  d.condition.text ++ d.trailing.text

/-- What is written behind the joins. -/
def closing (d : Draft) : Text :=
  d.beforeWhere.text ++ (whereWord ++ (d.afterWhere.text ++ d.ending))

variable (d : Draft)

/-- The blanks at the end of a query contain no word. -/
theorem lacks_trailing {word : Text} (hword : IsWord word) : Lacks word d.trailing.text := by
  intro hoccurs
  rcases List.exists_cons_of_ne_nil hword.1 with ⟨c, rest, rfl⟩
  have hname := hword.2 c List.mem_cons_self
  rw [isNameChar_of_isBlank (d.trailing.blank c (hoccurs.subset List.mem_cons_self))] at hname
  contradiction

theorem halts_trailing : Halts isNameChar d.trailing.text :=
  halts_of_forall fun c hc => isNameChar_of_isBlank (d.trailing.blank c hc)

/-- What follows the keyword of the condition contains no keyword. -/
theorem keywordFree_ending : KeywordFree d.ending := by
  intro word hword
  have hw := isWord_of_mem_keywords hword
  exact (d.condition.keywordFree word hword).append (d.lacks_trailing hw)
    (cut_of_halts hw d.halts_trailing)

/-- Behind the joins a query contains no keyword but `where`. -/
theorem lacks_closing {word : Text} (hword : word ∈ keywords) (hwhere : Lacks word whereWord) :
    Lacks word d.closing := by
  have hw := isWord_of_mem_keywords hword
  exact lacks_spacer_append hw (spacer_of_blanks d.beforeWhere.blanks)
    (lacks_append_spacer hw hwhere (spacer_of_blanks d.afterWhere.blanks)
      (d.keywordFree_ending word hword))

def outline : Outline where
  afterSelect := d.afterSelect
  columns := d.columns.text
  keywordFree := LooseColumns.keywordFree_text d.columns.first d.columns.more
  beforeFrom := d.beforeFrom
  afterFrom := d.afterFrom
  table := d.table
  joins := d.joins
  closing := d.closing
  separated := separated_append d.beforeWhere.blanks _
  lacksJoin := d.lacks_closing (by simp [keywords]) (by decide)

/-- The written form of a query in its layout. -/
def text : Text :=
  d.outline.text

/--
The condition stands in one line: no line end is in it or behind it, but for one at
the very end.
-/
def ConditionInline : Prop :=
  '\n' ∉ d.ending.dropLast

instance : Decidable d.ConditionInline :=
  inferInstanceAs (Decidable (¬ _))

end Draft

/-! ## Columns over several lines -/

namespace Outline

variable (o : Outline)

/-- The written form behind the columns. -/
def behind : Text :=
  o.beforeFrom.text ++ (fromWord ++ (o.afterFrom.text ++ (o.table.text ++
    (o.joins.flatMap JoinClause.text ++ o.closing))))

theorem text_eq : o.text = selectWord ++ (o.afterSelect.text ++ (o.columns ++ o.behind)) := by
  simp [text, head, opening, behind]

/-- The word `select` does not occur a second time. -/
theorem lacks_selectWord_tail (hclosing : Lacks selectWord o.closing) :
    Lacks selectWord
      (['e', 'l', 'e', 'c', 't'] ++ (o.afterSelect.text ++ (o.columns ++ o.behind))) := by
  have hselect : selectWord ∈ keywords := by simp [keywords]
  have hw := isWord_of_mem_keywords hselect
  have htail : Lacks selectWord (o.joins.flatMap JoinClause.text ++ o.closing) :=
    (lacks_joins o.joins hselect (by decide)).append hclosing
      (cut_of_halts hw o.separated.halts_name)
  have htable : Lacks selectWord (o.table.text ++
      (o.joins.flatMap JoinClause.text ++ o.closing)) :=
    (o.table.keywordFree _ hselect).append htail (cut_of_halts hw o.separated_tail.halts_name)
  exact lacks_append_spacer hw (by decide) (spacer_of_blanks o.afterSelect.blanks)
    (lacks_append_spacer hw (o.keywordFree _ hselect) (spacer_of_blanks o.beforeFrom.blanks)
      (lacks_append_spacer hw (by decide) (spacer_of_blanks o.afterFrom.blanks) htable))

/-- Columns that a line end divides are not found behind their `select`. -/
theorem between_eq_none (htrimmed : Trimmed o.columns) (hbroken : '\n' ∈ o.columns) :
    between selectWord fromNext o.text = none := by
  have hne : o.columns ≠ [] := List.ne_nil_of_mem hbroken
  have hstart : Halts isBlank (o.columns ++ o.behind) := htrimmed.1.append hne _
  have hbehind : Halts isNameChar o.behind := (separated_append o.beforeFrom.blanks _).halts_name
  have hfrom : fromWord ∈ keywords := by simp [keywords]
  by_contra hsome
  rcases Option.ne_none_iff_exists'.mp hsome with ⟨x, hx⟩
  rw [text_eq] at hx
  rcases cases_of_between_append o.afterSelect.blanks hstart hx with hsearch | ⟨-, hstops, -⟩
  · -- The search would have to stop before the line end, within the columns.
    rcases exists_of_upTo hsearch with ⟨t, hcut, hstops, hinline, -⟩
    rcases List.append_eq_append_iff.mp hcut with ⟨v, hv, -⟩ | ⟨v, hv, rfl⟩
    · exact hinline '\n' (by rw [hv]; exact List.mem_append_left v hbroken) rfl
    · have hvne : v ≠ [] := by
        rintro rfl
        rw [List.append_nil] at hv
        exact hinline '\n' (by rwa [← hv]) rfl
      have hsuffix : v <:+ o.columns := ⟨x, hv.symm⟩
      rw [fromNext_eq_false hvne (halts_reverse_of_suffix hsuffix htrimmed.2)
        ((o.keywordFree _ hfrom).within hsuffix.isInfix) hbehind] at hstops
      contradiction
  · -- Nor do the columns start with `from`.
    have hspace : Lacks fromWord ([' '] ++ o.columns) :=
      lacks_spacer_append isWord_fromWord ⟨by simp, by decide⟩ (o.keywordFree _ hfrom)
    have hend : Halts isBlank ([' '] ++ o.columns).reverse := by
      rw [List.reverse_append]
      exact htrimmed.2.append (by simpa using hne) _
    have hnot := fromNext_eq_false (by simp) hend hspace hbehind
    rw [List.append_assoc, List.singleton_append, hstops] at hnot
    contradiction

/-- Columns that a line end divides are not found at all. -/
theorem projection_eq_none (htrimmed : Trimmed o.columns) (hbroken : '\n' ∈ o.columns)
    (hclosing : Lacks selectWord o.closing) : Clause.projection o.text = none := by
  have hhere := o.between_eq_none htrimmed hbroken
  have hlater : first (between selectWord fromNext)
      (['e', 'l', 'e', 'c', 't'] ++ (o.afterSelect.text ++ (o.columns ++ o.behind))) = none :=
    first_of_lacks (by decide) (awaits_between selectWord fromNext)
      (o.lacks_selectWord_tail hclosing)
  rw [text_eq] at hhere ⊢
  exact (first_cons_of_eq_none hhere).trans hlater

end Outline

namespace Draft

variable (d : Draft)

/-- Columns on one line are read. -/
theorem projection_text (hinline : d.columns.Inline) :
    Clause.projection d.text = some d.columns.text := by
  rw [text, Outline.text_eq]
  apply projection_append d.afterSelect.blanks d.beforeFrom.blanks d.columns.trimmed_text
    d.columns.text_ne_nil
  · rintro c hc rfl
    exact hinline hc
  · exact LooseColumns.keywordFree_text _ _ fromWord (by simp [keywords])

/-- Columns with a line end among them are not read. -/
theorem projection_text_of_broken (hbroken : ¬ d.columns.Inline) :
    Clause.projection d.text = none :=
  d.outline.projection_eq_none d.columns.trimmed_text (not_not.mp hbroken)
    (d.lacks_closing (by simp [keywords]) (by decide))

/-! ## Conditions and the blanks behind them -/

/-- No condition ends in blanks, but at their end or before a line end that is the last. -/
theorem conditionEnds_blanks {v : Text} (hv : Blanks v) :
    conditionEnds v = true ↔ v = ['\n'] := by
  have hafter : afterBlanks v = some [] := by
    have hall := afterBlanks_append (t := []) hv (halts_nil _)
    rwa [List.append_nil] at hall
  have hopens : opensLater [] = false := by decide
  simp [conditionEnds, hafter, hopens, hv.1]

/-- Where a condition ends within what stands behind `where`. -/
theorem conditionEnds_suffix {v : Text} (hv : v <:+ d.ending) :
    conditionEnds v = true ↔ v = [] ∨ v = ['\n'] := by
  constructor
  · intro hends
    rcases suffix_append_cases hv with hblank | ⟨p, hp, hcondition, rfl⟩
    · by_cases hnil : v = []
      · exact Or.inl hnil
      · have hblanks : Blanks v := ⟨hnil, fun c hc => d.trailing.blank c (hblank.subset hc)⟩
        exact Or.inr ((conditionEnds_blanks hblanks).mp hends)
    · exfalso
      have hend := halts_reverse_of_suffix hcondition d.condition.trimmed.2
      have hlacks : LacksLater p := by
        intro word w u hword hw hu
        exact (d.condition.lacksLater word w u hword hw hu).within hcondition.isInfix
      have hline : p ++ d.trailing.text ≠ ['\n'] := by
        intro heq
        rcases List.exists_cons_of_ne_nil hp with ⟨c, rest, rfl⟩
        simp only [List.cons_append, List.cons.injEq, List.append_eq_nil_iff] at heq
        rcases heq with ⟨rfl, rfl, -⟩
        simp [isBlank] at hend
      simp [conditionEnds, opensLater_eq_false hp hend hlacks (aside_of_blank d.trailing.blank), hp,
        hline] at hends
  · rintro (rfl | rfl) <;> rfl

/-- A condition in one line ends before the line end behind it or at the end of the query. -/
theorem exists_of_conditionInline (hinline : d.ConditionInline) :
    ∃ g t, d.trailing.text = g ++ t ∧ (t = [] ∨ t = ['\n']) ∧ '\n' ∉ d.condition.text ++ g := by
  rcases List.eq_nil_or_concat' d.trailing.text with hnil | ⟨g, c, hg⟩
  · refine ⟨[], [], by simpa using hnil, Or.inl rfl, ?_⟩
    rcases List.eq_nil_or_concat' d.condition.text with hempty | ⟨x, c, hx⟩
    · exact absurd hempty d.condition.ne_nil
    · -- The last character of the condition is no line end since it is not blank.
      have hend := d.condition.trimmed.2
      rw [hx, List.reverse_append, List.reverse_singleton, List.singleton_append,
        halts_cons] at hend
      rw [ConditionInline, ending, hnil, List.append_nil, hx, List.dropLast_concat] at hinline
      rw [List.append_nil, hx, List.mem_append, List.mem_singleton, not_or]
      refine ⟨hinline, ?_⟩
      rintro rfl
      contradiction
  · rw [ConditionInline, ending, hg, ← List.append_assoc, List.dropLast_concat] at hinline
    by_cases hc : c = '\n'
    · exact ⟨g, ['\n'], by rw [hg, hc], Or.inr rfl, hinline⟩
    · refine ⟨g ++ [c], [], by simpa using hg, Or.inl rfl, ?_⟩
      rw [← List.append_assoc, List.mem_append, List.mem_singleton, not_or]
      exact ⟨hinline, Ne.symm hc⟩

/-- Blanks behind a condition are trimmed away. -/
theorem trim_condition_append {g : Text} (hg : ∀ c ∈ g, isBlank c = true) :
    Text.trim (d.condition.text ++ g) = d.condition.text := by
  have hstart : (d.condition.text ++ g).dropWhile isBlank = d.condition.text ++ g :=
    dropWhile_append_of_halts (u := []) (by simp)
      (d.condition.trimmed.1.append d.condition.ne_nil g)
  have hend : (d.condition.text ++ g).reverse.dropWhile isBlank = d.condition.text.reverse := by
    rw [List.reverse_append]
    apply dropWhile_append_of_halts _ d.condition.trimmed.2
    intro c hc
    exact hg c (List.mem_reverse.mp hc)
  rw [Text.trim, Text.trimStart, hstart, Text.trimEnd, hend, List.reverse_reverse]

/-- The condition is looked for from its keyword on. -/
theorem condition_text_eq : Clause.condition d.text =
    first (between whereWord conditionEnds) (whereWord ++ (d.afterWhere.text ++ d.ending)) := by
  have hblanks := spacer_of_blanks d.beforeWhere.blanks
  rw [text, Outline.condition_text]
  exact first_append_of_lacks (awaits_between whereWord conditionEnds)
    (hblanks.lacks isWord_whereWord) (cut_of_spacer isWord_whereWord hblanks)

theorem halts_ending : Halts isBlank d.ending :=
  d.condition.trimmed.1.append d.condition.ne_nil _

/-- A condition in one line is found, with blanks that are trimmed away. -/
theorem condition_text (hinline : d.ConditionInline) :
    (Clause.condition d.text).map Text.trim = some d.condition.text := by
  rcases d.exists_of_conditionInline hinline with ⟨g, t, htrailing, ht, hline⟩
  have hending : d.ending = (d.condition.text ++ g) ++ t := by
    rw [ending, htrailing, List.append_assoc]
  have hsearch : upTo conditionEnds d.ending = some (d.condition.text ++ g) := by
    rw [hending]
    apply upTo_append
    · rcases ht with rfl | rfl <;> rfl
    · rintro c hc rfl
      exact hline hc
    · intro v hv hne
      -- Within the condition the search does not stop, as only a final line end would let it.
      rw [← Bool.not_eq_true]
      intro hends
      have hsuffix : v ++ t <:+ d.ending := by
        rw [hending]
        rcases hv with ⟨u, hu⟩
        exact ⟨u, by rw [← hu, List.append_assoc]⟩
      rcases (d.conditionEnds_suffix hsuffix).mp hends with hnil | hlast
      · exact hne (List.append_eq_nil_iff.mp hnil).1
      · rcases ht with rfl | rfl
        · rw [List.append_nil] at hlast
          exact hline (hv.subset (by simp [hlast]))
        · exact hne (by simpa using hlast)
  have hblank : ∀ c ∈ g, isBlank c = true := by
    intro c hc
    exact d.trailing.blank c (by rw [htrailing]; exact List.mem_append_left t hc)
  have hfound : between whereWord conditionEnds
      (whereWord ++ (d.afterWhere.text ++ d.ending)) = some (d.condition.text ++ g) :=
    between_append d.afterWhere.blanks d.halts_ending hsearch
  rw [condition_text_eq, first_of_eq_some hfound, Option.map_some,
    d.trim_condition_append hblank]

/-- A condition over several lines is not found, or found to be empty. -/
theorem condition_text_of_broken (hbroken : ¬ d.ConditionInline) :
    ((Clause.condition d.text).map Text.trim).getD [] = [] := by
  have hnewline : '\n' ∈ d.ending.dropLast := not_not.mp hbroken
  have hsearch : upTo conditionEnds d.ending = none := by
    by_contra hsome
    rcases Option.ne_none_iff_exists'.mp hsome with ⟨x, hx⟩
    rcases exists_of_upTo hx with ⟨t, hcut, hstops, hinline, -⟩
    have hx : '\n' ∉ x := fun hmem => hinline _ hmem rfl
    rcases (d.conditionEnds_suffix ⟨x, hcut.symm⟩).mp hstops with rfl | rfl
    · rw [List.append_nil] at hcut
      exact hx (hcut ▸ List.mem_of_mem_dropLast hnewline)
    · rw [hcut, List.dropLast_concat] at hnewline
      exact hx hnewline
  rw [condition_text_eq]
  cases hhere : between whereWord conditionEnds (whereWord ++ (d.afterWhere.text ++ d.ending)) with
  | some x =>
      rcases cases_of_between_append d.afterWhere.blanks d.halts_ending hhere with
        hfound | ⟨-, -, rfl⟩
      · rw [hsearch] at hfound
        contradiction
      · -- What is found then is the blank in front of the condition.
        rw [first_of_eq_some hhere]
        rfl
  | none =>
      have hlacks : Lacks whereWord (['h', 'e', 'r', 'e'] ++ (d.afterWhere.text ++ d.ending)) :=
        lacks_append_spacer isWord_whereWord (by decide) (spacer_of_blanks d.afterWhere.blanks)
          (d.keywordFree_ending _ (by simp [keywords]))
      have hlater := first_of_lacks (by decide) (awaits_between whereWord conditionEnds) hlacks
      have hnone : first (between whereWord conditionEnds)
          (whereWord ++ (d.afterWhere.text ++ d.ending)) = none :=
        (first_cons_of_eq_none hhere).trans hlater
      rw [hnone]
      rfl

/-! ## Parts and translation -/

/-- The columns that are found: a star in their place if a line end divides them. -/
def foundColumns : Text :=
  if '\n' ∈ d.columns.text then ['*'] else d.columns.text

/-- The condition that is found: none if a line end divides it or follows it too early. -/
def foundCondition : Text :=
  if '\n' ∈ d.ending.dropLast then [] else d.condition.text

/-- The parts that are read from a query, whatever its layout. -/
theorem parts_text :
    Parts.ofText d.text =
      { columns := d.foundColumns
        base := d.table.text
        joins := d.joins.map fun j => ⟨j.table.text, j.comparison⟩
        condition := d.foundCondition } := by
  have hcolumns : ((Clause.projection d.text).map Text.trim).getD ['*'] = d.foundColumns := by
    rw [foundColumns]
    split
    · rename_i hbroken
      rw [d.projection_text_of_broken (not_not.mpr hbroken)]
      rfl
    · rename_i hinline
      rw [d.projection_text hinline, Option.map_some, d.columns.trimmed_text.trim_eq]
      rfl
  have hcondition : ((Clause.condition d.text).map Text.trim).getD [] = d.foundCondition := by
    rw [foundCondition]
    split
    · rename_i hbroken
      exact d.condition_text_of_broken (not_not.mpr hbroken)
    · rename_i hinline
      rw [d.condition_text hinline]
      rfl
  rw [Parts.ofText, hcolumns, hcondition]
  simp only [text, d.outline.source_text, d.outline.joins_text]
  rfl

/-- The source table joined with the further tables. -/
def joined : Text :=
  d.joins.foldl JoinClause.attach d.table.text

/-- The written expression before its projection. -/
def rows : Text :=
  if d.foundCondition = [] then d.joined
  else Algebra.selectionMark ++ d.foundCondition ++ "\x7d(".toList ++ d.joined ++ ")".toList

/-- The translation of a query, whatever its layout. -/
theorem algebraText_eq {query : Text} (hquery : Text.lower query = d.text) :
    algebraText query =
      Algebra.projectionMark ++ d.foundColumns ++ "\x7d(".toList ++ d.rows ++ ")".toList := by
  have hjoined := render_foldl_attach d.joins (.relation d.table.text)
  have hrows : (Parts.ofText d.text).rows.render = d.rows := by
    rw [parts_text, Parts.rows, rows]
    by_cases hnil : d.foundCondition = []
    · simp [hnil, Parts.joined, hjoined, joined, Algebra.render]
    · simp [hnil, Parts.joined, hjoined, joined, Algebra.render]
  rw [algebraText, parts, hquery, Parts.algebra, Algebra.render, hrows, parts_text]
  rfl

end Draft

/-! ## Queries that differ in their blanks only -/

/-- Where one gap has blanks the other has blanks too. -/
def Gap.Alike (gap other : Gap) : Prop :=
  gap.text = [] ↔ other.text = []

instance (gap other : Gap) : Decidable (gap.Alike other) :=
  inferInstanceAs (Decidable (_ ↔ _))

/-- The same join clause in another layout. -/
structure JoinClause.Relaid (j other : JoinClause) : Prop where
  table : j.table = other.table
  left : j.left = other.left
  beforeOperator : j.beforeOperator.Alike other.beforeOperator
  operator : j.operator = other.operator
  afterOperator : j.afterOperator.Alike other.afterOperator
  right : j.right = other.right

/-- The same query in another layout: each run of blanks may be another one. -/
structure Draft.Relaid (d other : Draft) : Prop where
  first : d.columns.first = other.columns.first
  more : List.Forall₂ (fun next next' => next.gap.Alike next'.gap ∧ next.item = next'.item)
    d.columns.more other.columns.more
  table : d.table = other.table
  joins : List.Forall₂ JoinClause.Relaid d.joins other.joins
  condition : Text.collapse d.condition.text = Text.collapse other.condition.text

/-- Gaps that are alike collapse to the same blank. -/
theorem Gap.Alike.collapse_eq {gap other : Gap} (hgap : gap.Alike other) :
    Text.collapse gap.text = Text.collapse other.text := by
  by_cases hnil : gap.text = []
  · rw [hnil, hgap.mp hnil]
  · rw [Text.collapse_of_blanks ⟨hnil, gap.blank⟩,
      Text.collapse_of_blanks ⟨fun hother => hnil (hgap.mpr hother), other.blank⟩]

/-- A text between two others whose ends toward it are not blank collapses on its own. -/
theorem collapse_enclosed {u v w : Text} (hu : Halts isBlank u.reverse) (hw : Halts isBlank w) :
    Text.collapse (u ++ v ++ w) = Text.collapse u ++ Text.collapse v ++ Text.collapse w := by
  rw [Text.collapse_append (Or.inr hw), Text.collapse_append (Or.inl hu)]

theorem Item.halts_end (item : Item) : Halts isBlank item.text.reverse := by
  apply halts_of_forall
  intro c hc
  exact item.not_blank c (List.mem_reverse.mp hc)

namespace LooseColumns

/-- Collapsing keeps the items and shortens what stands between them. -/
theorem collapse_text_cons (first : Item) (next : LooseItem) (more : List LooseItem) :
    Text.collapse (text ⟨first, next :: more⟩) =
      first.text ++ (',' :: Text.collapse next.gap.text) ++
        Text.collapse (text ⟨next.item, more⟩) := by
  rw [text_cons, Text.collapse_append (Or.inl first.halts_end),
    Text.collapse_append (Or.inr (trimmed_text _).1), Text.collapse_of_not_blank first.not_blank,
    Text.collapse_cons_of_not_blank (by decide), List.append_assoc]

/-- Columns that differ in their gaps only collapse to the same text. -/
theorem collapse_text_eq (first : Item) {more other : List LooseItem}
    (hmore : List.Forall₂ (fun next next' => next.gap.Alike next'.gap ∧ next.item = next'.item)
      more other) :
    Text.collapse (text ⟨first, more⟩) = Text.collapse (text ⟨first, other⟩) := by
  induction hmore generalizing first with
  | nil => rfl
  | cons hnext _ ih =>
      rw [collapse_text_cons, collapse_text_cons, hnext.1.collapse_eq, hnext.2, ih]

end LooseColumns

namespace JoinClause

theorem left_not_blank (j : JoinClause) : ∀ c ∈ j.left.text, isBlank c = false :=
  fun c hc => isBlank_of_isQualifiedChar (j.left.isQualified.2 c hc)

theorem right_not_blank (j : JoinClause) : ∀ c ∈ j.right.text, isBlank c = false :=
  fun c hc => isBlank_of_isQualifiedChar (j.right.isQualified.2 c hc)

theorem operator_not_blank (j : JoinClause) : ∀ c ∈ j.operator.text, isBlank c = false :=
  fun c hc => (classes_of_isOperatorChar (j.operator.isOperator.2 c hc)).2

theorem table_not_blank (j : JoinClause) : ∀ c ∈ j.table.text, isBlank c = false :=
  fun c hc => isBlank_of_isQualifiedChar (isQualifiedChar_of_isNameChar (j.table.isWord.2 c hc))

/-- Collapsing a comparison shortens what stands around its operator. -/
theorem collapse_comparison (j : JoinClause) :
    Text.collapse j.comparison = j.left.text ++ Text.collapse j.beforeOperator.text ++
      j.operator.text ++ Text.collapse j.afterOperator.text ++ j.right.text := by
  have hoperator : Halts isBlank
      (j.left.text ++ j.beforeOperator.text ++ j.operator.text).reverse := by
    rw [List.reverse_append]
    exact (trimmed_of_not_blank j.operator_not_blank).2.append
      (by simpa using j.operator.isOperator.1) _
  rw [comparison, collapse_enclosed hoperator (trimmed_of_not_blank j.right_not_blank).1,
    collapse_enclosed (trimmed_of_not_blank j.left_not_blank).2
      (trimmed_of_not_blank j.operator_not_blank).1,
    Text.collapse_of_not_blank j.left_not_blank, Text.collapse_of_not_blank j.operator_not_blank,
    Text.collapse_of_not_blank j.right_not_blank]

/-- Comparisons that differ in their gaps only collapse to the same text. -/
theorem Relaid.collapse_comparison_eq {j other : JoinClause} (hj : j.Relaid other) :
    Text.collapse j.comparison = Text.collapse other.comparison := by
  rw [collapse_comparison, collapse_comparison, hj.left, hj.operator, hj.right,
    hj.beforeOperator.collapse_eq, hj.afterOperator.collapse_eq]

/-- A joined expression ends with its bracket. -/
theorem halts_end_attach (j : JoinClause) (expression : Text) :
    Halts isBlank (j.attach expression).reverse := by
  rw [attach, List.reverse_append]
  exact Halts.append (by simp [isBlank]) (by simp) _

/-- Collapsing an expression with a join attached collapses its two parts. -/
theorem collapse_attach (j : JoinClause) {expression : Text}
    (hend : Halts isBlank expression.reverse) :
    Text.collapse (j.attach expression) =
      "(".toList ++ Text.collapse expression ++ " \\bowtie_\x7b".toList ++
        Text.collapse j.comparison ++ "\x7d ".toList ++ j.table.text ++ ")".toList := by
  have hopen : Halts isBlank ("(".toList ++ expression).reverse := by
    rw [List.reverse_append]
    cases hnil : expression.reverse with
    | nil => simp [isBlank]
    | cons c rest => exact Halts.append (hnil ▸ hend) (by simp) _
  have hmark : Halts isBlank
      ("(".toList ++ expression ++ " \\bowtie_\x7b".toList).reverse := by
    rw [List.reverse_append]
    exact Halts.append (by simp [isBlank]) (by simp) _
  have htable := (trimmed_of_not_blank j.table_not_blank).1
  have hparts : Text.collapse "(".toList = "(".toList ∧
      Text.collapse " \\bowtie_\x7b".toList = " \\bowtie_\x7b".toList ∧
      Text.collapse "\x7d ".toList = "\x7d ".toList ∧ Text.collapse ")".toList = ")".toList := by
    decide
  rw [attach, Text.collapse_append (Or.inr (by simp [isBlank])),
    Text.collapse_append (Or.inr htable), collapse_enclosed hmark (by simp [isBlank]),
    Text.collapse_append (Or.inl hopen), Text.collapse_append (Or.inl (by simp [isBlank])),
    hparts.1, hparts.2.1, hparts.2.2.1, hparts.2.2.2,
    Text.collapse_of_not_blank j.table_not_blank]

/-- Joins in another layout give the same expression up to blanks. -/
theorem collapse_foldl_attach_eq {joins other : List JoinClause}
    (hjoins : List.Forall₂ Relaid joins other) {expression expression' : Text}
    (hend : Halts isBlank expression.reverse) (hend' : Halts isBlank expression'.reverse)
    (hsame : Text.collapse expression = Text.collapse expression') :
    Text.collapse (joins.foldl attach expression) =
      Text.collapse (other.foldl attach expression') := by
  induction hjoins generalizing expression expression' with
  | nil => exact hsame
  | cons hj _ ih =>
      rw [List.foldl_cons, List.foldl_cons]
      apply ih (halts_end_attach _ _) (halts_end_attach _ _)
      rw [collapse_attach _ hend, collapse_attach _ hend', hsame, hj.collapse_comparison_eq,
        hj.table]

end JoinClause

namespace Draft

variable {d other : Draft}

/-- A new layout keeps the collapsed columns. -/
theorem Relaid.collapse_columns_eq (hd : d.Relaid other) :
    Text.collapse d.columns.text = Text.collapse other.columns.text := by
  have hmore := LooseColumns.collapse_text_eq d.columns.first hd.more
  rw [hd.first] at hmore
  rw [← hmore, ← hd.first]

/-- A new layout keeps the collapsed joins. -/
theorem Relaid.collapse_joined_eq (hd : d.Relaid other) :
    Text.collapse d.joined = Text.collapse other.joined := by
  have hend : ∀ name : TableName, Halts isBlank name.text.reverse := by
    intro name
    apply halts_of_forall
    intro c hc
    exact isBlank_of_isQualifiedChar
      (isQualifiedChar_of_isNameChar (name.isWord.2 c (List.mem_reverse.mp hc)))
  exact JoinClause.collapse_foldl_attach_eq hd.joins (hend _) (hend _) (by rw [hd.table])

/-- A new layout keeps the items of the columns. -/
theorem Relaid.items_eq (hd : d.Relaid other) : d.columns.items = other.columns.items := by
  have hmore : d.columns.more.map LooseItem.item = other.columns.more.map LooseItem.item := by
    have hitems := hd.more.imp fun _ _ hnext => hnext.2
    exact List.forall₂_eq_eq_eq ▸ (List.forall₂_map_left_iff.mpr
      (List.forall₂_map_right_iff.mpr hitems))
  rw [LooseColumns.items, LooseColumns.items, hd.first, hmore]

/-- A new layout keeps the joined tables. -/
theorem Relaid.tables_eq (hd : d.Relaid other) :
    d.joins.map (fun j => j.table.text) = other.joins.map (fun j => j.table.text) := by
  have htables := hd.joins.imp fun j j' hj => congrArg TableName.text hj.table
  exact List.forall₂_eq_eq_eq ▸ (List.forall₂_map_left_iff.mpr
    (List.forall₂_map_right_iff.mpr htables))

/-! ## Validity in another layout -/

/-- A query whose columns stand in one line is a statement. -/
theorem exists_statement (hinline : d.columns.Inline) :
    ∃ st : Statement, st.text = d.text ∧ st.columns.items = d.columns.items ∧
      st.tableNames = (d.table.text :: d.joins.map fun j => j.table.text).map String.ofList := by
  rcases LooseColumns.exists_columns d.columns.first d.columns.more hinline with
    ⟨next, htext, hitems⟩
  let st : Statement :=
    { afterSelect := d.afterSelect
      columns := ⟨d.columns.first, next⟩
      beforeFrom := d.beforeFrom
      afterFrom := d.afterFrom
      table := d.table
      joins := d.joins
      condition := some
        { before := d.beforeWhere
          after := d.afterWhere
          condition := d.ending
          lacksJoin := d.keywordFree_ending joinWord (by simp [keywords]) }
      later := none }
  have hcolumns : st.columns.text = d.columns.text := htext
  have hclosing : st.closing = d.closing := List.append_nil _
  refine ⟨st, ?_, ?_, rfl⟩
  · rw [Statement.text, Statement.head, Statement.opening, hcolumns, hclosing]
    rfl
  · rw [Columns.items, LooseColumns.items, hitems]

/-- Columns over several lines are refused. -/
theorem isValid_of_broken {schema : Schema} {query : Text} (hquery : Text.lower query = d.text)
    (hbroken : ¬ d.columns.Inline) : isValid schema query = false := by
  rw [← Bool.not_eq_true]
  intro hvalid
  rw [isValid_eq_isEmpty, List.isEmpty_iff, faults, hquery] at hvalid
  rcases faultsOf_eq_nil_iff.mp hvalid with ⟨-, -, -, columns, hprojection, -⟩
  rw [d.projection_text_of_broken hbroken] at hprojection
  contradiction

end Draft

/-- The faults of a statement depend on its items and its tables only. -/
theorem Statement.faultsOf_text_eq {st other : Statement}
    (hitems : st.columns.items = other.columns.items)
    (htables : st.tableNames = other.tableNames) (schema : Schema) :
    faultsOf schema st.text = faultsOf schema other.text := by
  have hmentioned : mentioned st.text = mentioned other.text := by
    rw [st.mentioned_text, other.mentioned_text, htables]
  by_cases hknown : ∀ table ∈ mentioned st.text, schema.has table = true
  · rw [st.faultsOf_text hknown, other.faultsOf_text (hmentioned ▸ hknown), hitems, hmentioned]
  · have hunknown : ∃ table ∈ mentioned st.text, schema.has table = false := by
      simpa using hknown
    rw [faultsOf_of_unknown st.wellFormed_text hunknown,
      faultsOf_of_unknown other.wellFormed_text (hmentioned ▸ hunknown), hmentioned]

namespace Draft

variable {d other : Draft}

/-- A new layout on one line keeps the faults. -/
theorem Relaid.faults_eq (hd : d.Relaid other) (hinline : d.columns.Inline)
    (hinline' : other.columns.Inline) (schema : Schema) {query query' : Text}
    (hquery : Text.lower query = d.text) (hquery' : Text.lower query' = other.text) :
    faults schema query = faults schema query' := by
  rcases exists_statement hinline with ⟨st, htext, hitems, htables⟩
  rcases exists_statement hinline' with ⟨st', htext', hitems', htables'⟩
  rw [faults, faults, hquery, hquery', ← htext, ← htext']
  apply Statement.faultsOf_text_eq
  · rw [hitems, hitems', hd.items_eq]
  · rw [htables, htables', hd.table, hd.tables_eq]

end Draft

/-! ## Two layouts of one query -/

namespace Draft

/-- Collapsing the algebra of a draft collapses its columns and its rows. -/
theorem collapse_algebraText (d : Draft) {query : Text} (hquery : Text.lower query = d.text) :
    Text.collapse (algebraText query) =
      Algebra.projectionMark ++ Text.collapse d.foundColumns ++
        ("\x7d(".toList ++ Text.collapse d.rows ++ ")".toList) := by
  have hparts : Text.collapse Algebra.projectionMark = Algebra.projectionMark ∧
      Text.collapse "\x7d(".toList = "\x7d(".toList ∧ Text.collapse ")".toList = ")".toList := by
    decide
  rw [d.algebraText_eq hquery, List.append_assoc, List.append_assoc, ← List.append_assoc _ d.rows,
    collapse_enclosed (by simp [Algebra.projectionMark, isBlank]) (by simp [isBlank]),
    collapse_enclosed (by simp [isBlank]) (by simp [isBlank]), hparts.1, hparts.2.1, hparts.2.2]

/-- A condition on one line is selected by. -/
theorem collapse_rows_of_inline {d : Draft} (hinline : d.ConditionInline) :
    Text.collapse d.rows =
      Algebra.selectionMark ++ Text.collapse d.condition.text ++ "\x7d(".toList ++
        Text.collapse d.joined ++ ")".toList := by
  have hfound : d.foundCondition = d.condition.text := if_neg hinline
  have hparts : Text.collapse Algebra.selectionMark = Algebra.selectionMark ∧
      Text.collapse "\x7d(".toList = "\x7d(".toList ∧ Text.collapse ")".toList = ")".toList := by
    decide
  have hbracket : Halts isBlank
      (Algebra.selectionMark ++ d.condition.text ++ "\x7d(".toList).reverse := by
    rw [List.reverse_append]
    exact Halts.append (by simp [isBlank]) (by simp) _
  rw [rows, hfound, if_neg d.condition.ne_nil, collapse_enclosed hbracket (by simp [isBlank]),
    collapse_enclosed (by simp [Algebra.selectionMark, isBlank]) (by simp [isBlank]),
    hparts.1, hparts.2.1, hparts.2.2]

/-- A condition with a line end in it is left out. -/
theorem rows_of_broken {d : Draft} (hbroken : ¬ d.ConditionInline) : d.rows = d.joined := by
  have hfound : d.foundCondition = [] := if_pos (not_not.mp hbroken)
  rw [rows, hfound, if_pos rfl]

/-- Columns with more than one item do not look like a star in another translation. -/
theorem collapse_columns_ne_star {columns : LooseColumns} (hmore : columns.more ≠ [])
    (u v : Text) :
    Text.collapse columns.text ++ ("\x7d(".toList ++ u) ≠ ['*'] ++ ("\x7d(".toList ++ v) := by
  rcases columns with ⟨first, more⟩
  cases more with
  | nil => contradiction
  | cons next more =>
      rw [LooseColumns.collapse_text_cons]
      cases first with
      | all =>
          intro heq
          simp [Item.text] at heq
      | named name =>
          rcases List.exists_cons_of_ne_nil name.isQualified.1 with ⟨c, rest, hname⟩
          have hqualified := name.isQualified.2 c (by simp [hname])
          intro heq
          simp only [Item.text, hname, List.cons_append, List.cons.injEq] at heq
          rw [heq.1] at hqualified
          contradiction

variable {d other : Draft}

/-- Columns are found in both layouts or in none if the translations agree up to blanks. -/
theorem Relaid.inline_iff (hd : d.Relaid other) {u v : Text}
    (hsame : Text.collapse d.foundColumns ++ ("\x7d(".toList ++ u) =
      Text.collapse other.foundColumns ++ ("\x7d(".toList ++ v)) :
    d.columns.Inline ↔ other.columns.Inline := by
  have hlength := hd.more.length_eq
  constructor
  · intro hinline
    by_contra hbroken
    have hmore : d.columns.more ≠ [] := by
      intro hnil
      rw [hnil, List.length_nil, eq_comm, List.length_eq_zero_iff] at hlength
      exact LooseColumns.more_ne_nil_of_not_inline hbroken hlength
    rw [foundColumns, foundColumns, if_neg hinline, if_pos (not_not.mp hbroken)] at hsame
    exact collapse_columns_ne_star hmore u v hsame
  · intro hinline
    by_contra hbroken
    have hmore : other.columns.more ≠ [] := by
      intro hnil
      rw [hnil, List.length_nil, List.length_eq_zero_iff] at hlength
      exact LooseColumns.more_ne_nil_of_not_inline hbroken hlength
    rw [foundColumns, foundColumns, if_neg hinline, if_pos (not_not.mp hbroken)] at hsame
    exact collapse_columns_ne_star hmore v u hsame.symm

/-- A new layout keeps the collapsed columns that the algebra shows. -/
theorem Relaid.collapse_foundColumns_eq (hd : d.Relaid other)
    (hlines : d.columns.Inline ↔ other.columns.Inline) :
    Text.collapse d.foundColumns = Text.collapse other.foundColumns := by
  by_cases hinline : d.columns.Inline
  · rw [foundColumns, foundColumns, if_neg hinline, if_neg (hlines.mp hinline),
      hd.collapse_columns_eq]
  · rw [foundColumns, foundColumns, if_pos (not_not.mp hinline),
      if_pos (not_not.mp (mt hlines.mpr hinline))]

/-- A selection is longer than the rows that it selects from. -/
theorem selection_ne_rows (condition rows : Text) :
    Algebra.selectionMark ++ condition ++ "\x7d(".toList ++ rows ++ ")".toList ≠ rows := by
  intro heq
  have hlength := congrArg List.length heq
  simp only [List.length_append] at hlength
  have hmark : Algebra.selectionMark.length = 8 := rfl
  omega

/-- The rows of two layouts agree up to blanks exactly if the condition is found in both or none. -/
theorem Relaid.collapse_rows_eq_iff (hd : d.Relaid other) :
    Text.collapse d.rows = Text.collapse other.rows ↔
      (d.ConditionInline ↔ other.ConditionInline) := by
  have hjoined := hd.collapse_joined_eq
  by_cases hinline : d.ConditionInline
  · rw [collapse_rows_of_inline hinline]
    by_cases hinline' : other.ConditionInline
    · rw [collapse_rows_of_inline hinline', hd.condition, hjoined]
      exact iff_of_true rfl (iff_of_true hinline hinline')
    · rw [rows_of_broken hinline', ← hjoined]
      exact iff_of_false (selection_ne_rows _ _) fun hlines => hinline' (hlines.mp hinline)
  · rw [rows_of_broken hinline]
    by_cases hinline' : other.ConditionInline
    · rw [collapse_rows_of_inline hinline', hjoined]
      exact iff_of_false (selection_ne_rows _ _).symm fun hlines => hinline (hlines.mpr hinline')
    · rw [rows_of_broken hinline', hjoined]
      exact iff_of_true rfl (iff_of_false hinline hinline')

end Draft

/--
Two layouts of one query are judged alike, and translated alike up to runs of blanks,
exactly if the columns stand in one line in both of them or in none, and so does the
condition.
-/
theorem layout_independent_iff (schema : Schema) (d other : Draft) (hd : d.Relaid other)
    (query query' : Text) (hquery : Text.lower query = d.text)
    (hquery' : Text.lower query' = other.text) :
    (isValid schema query = isValid schema query' ∧
        Text.collapse (algebraText query) = Text.collapse (algebraText query')) ↔
      ((d.columns.Inline ↔ other.columns.Inline) ∧
        (d.ConditionInline ↔ other.ConditionInline)) := by
  rw [d.collapse_algebraText hquery, other.collapse_algebraText hquery']
  constructor
  · rintro ⟨-, hsame⟩
    simp only [List.append_assoc] at hsame
    have htail := List.append_cancel_left hsame
    have hlines := hd.inline_iff htail
    rw [hd.collapse_foundColumns_eq hlines] at htail
    have hrows := List.append_cancel_right (List.append_cancel_left
      (List.append_cancel_left htail))
    exact ⟨hlines, hd.collapse_rows_eq_iff.mp hrows⟩
  · rintro ⟨hlines, hconditions⟩
    refine ⟨?_, ?_⟩
    · by_cases hinline : d.columns.Inline
      · rw [isValid_eq_isEmpty, isValid_eq_isEmpty,
          hd.faults_eq hinline (hlines.mp hinline) schema hquery hquery']
      · rw [Draft.isValid_of_broken hquery hinline,
          Draft.isValid_of_broken hquery' (mt hlines.mpr hinline)]
    · rw [hd.collapse_foundColumns_eq hlines, hd.collapse_rows_eq_iff.mpr hconditions]

/-- The customers with orders that are no longer new, the joins on a line of their own. -/
def Draft.orders : Draft where
  afterSelect := Statement.customerOrders.afterFrom
  columns := ⟨.named ⟨"email".toList, by decide, by decide⟩,
    [⟨⟨"  ".toList, by decide⟩, .named ⟨"status".toList, by decide, by decide⟩⟩]⟩
  beforeFrom := Statement.customerOrders.afterFrom
  afterFrom := Statement.customerOrders.afterFrom
  table := Statement.customerOrders.table
  joins := Statement.customerOrders.joins
  beforeWhere := Statement.customerOrders.afterFrom
  afterWhere := Statement.customerOrders.afterFrom
  condition :=
    { text := "status <> 'novo'".toList
      ne_nil := by decide
      trimmed := by decide
      keywordFree := by decide
      lacksLater := lacksLater_of_not_mem (by decide) }
  trailing := ⟨"\n".toList, by decide⟩

/-- The same with a clause on each line and more blanks. -/
def Draft.ordersSpread : Draft :=
  { Draft.orders with
    columns := ⟨Draft.orders.columns.first,
      [⟨⟨"\t  ".toList, by decide⟩, .named ⟨"status".toList, by decide, by decide⟩⟩]⟩
    beforeFrom := ⟨"\n\n".toList, by decide⟩
    beforeWhere := Statement.customerOrders.beforeFrom
    afterWhere := ⟨"\n  ".toList, by decide⟩
    condition :=
      { text := "status  <>\t'novo'".toList
        ne_nil := by decide
        trimmed := by decide
        keywordFree := by decide
        lacksLater := lacksLater_of_not_mem (by decide) }
    trailing := ⟨" \n".toList, by decide⟩ }

/-- The orders, spread over more blanks. -/
theorem Draft.relaid_ordersSpread : Draft.orders.Relaid Draft.ordersSpread where
  first := rfl
  more := List.Forall₂.cons ⟨by decide, rfl⟩ List.Forall₂.nil
  table := rfl
  joins := List.Forall₂.cons ⟨rfl, rfl, Iff.rfl, rfl, Iff.rfl, rfl⟩ List.Forall₂.nil
  condition := by decide

/-- Spreading the orders over more blanks changes neither their validity nor their algebra. -/
theorem layout_orders :
    Draft.orders.Relaid Draft.ordersSpread ∧
      isValid .shop Draft.orders.text = isValid .shop Draft.ordersSpread.text ∧
      Text.collapse (algebraText Draft.orders.text) =
        Text.collapse (algebraText Draft.ordersSpread.text) := by
  have hlower : Text.lower Draft.orders.text = Draft.orders.text ∧
      Text.lower Draft.ordersSpread.text = Draft.ordersSpread.text := by
    decide +kernel
  have hcolumns : Draft.orders.columns.Inline ∧ Draft.ordersSpread.columns.Inline := by decide
  have hcondition : Draft.orders.ConditionInline ∧ Draft.ordersSpread.ConditionInline := by decide
  refine ⟨Draft.relaid_ordersSpread, ?_⟩
  apply (layout_independent_iff .shop _ _ Draft.relaid_ordersSpread _ _ hlower.1 hlower.2).mpr
  exact ⟨iff_of_true hcolumns.1 hcolumns.2, iff_of_true hcondition.1 hcondition.2⟩

/-- The customers from the second on, with some blanks after the comma and at the end. -/
def laterCustomers (gap tail : Text) : Text :=
  "select nome,".toList ++ gap ++ "email from cliente where idcliente > 1".toList ++ tail

/--
A line end after a comma makes a valid query invalid, and two line ends at the end of a
query make its condition disappear.
-/
theorem layout_laterCustomers :
    isValid .shop (laterCustomers [' '] []) = true ∧
      isValid .shop (laterCustomers ['\n'] []) = false ∧
      algebraText (laterCustomers [' '] []) =
        "\\pi_\x7bnome, email\x7d(\\sigma_\x7bidcliente > 1\x7d(cliente))".toList ∧
      algebraText (laterCustomers [' '] ['\n', '\n']) =
        "\\pi_\x7bnome, email\x7d(cliente)".toList := by
  decide +kernel

end Query
end QueryAlgebra
